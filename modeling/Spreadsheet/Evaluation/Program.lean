import Spreadsheet.Value.Coercion

/-!
# Programs that read cells

What a formula computes depends on cells, and reading a cell may mean to
compute another formula.  Here the two are kept apart.  A *program* is a
computation that gives a value, fails, or asks for cells and goes on with
their values.  It says nothing on how cells are read, on circular references or
on sheets: whoever runs it answers its requests.

There are two requests.  One is for the value of the first cell of a reference,
the other for the values of all its cells.
-/

namespace Spreadsheet.Evaluation

open Spreadsheet.Formula (Error Reference)

/-- A computation that may ask for cells. -/
inductive Program (α : Type) where
  /-- It gives a value. -/
  | done (a : α)
  /-- It fails. -/
  | fail (e : Error)
  /-- It asks for the value of the first cell of a reference. -/
  | readCell (r : Reference) (next : Value → Program α)
  /-- It asks for the values of the cells of a reference, with the hidden ones or without. -/
  | readCells (r : Reference) (includeHidden : Bool) (next : List Value → Program α)

namespace Program

/-- Goes on with the value that a program gives. -/
def bind {α β : Type} : Program α → (α → Program β) → Program β
  | .done a, f => f a
  | .fail e, _ => .fail e
  | .readCell r next, f => .readCell r fun v => (next v).bind f
  | .readCells r hidden next, f => .readCells r hidden fun vs => (next vs).bind f

instance : Monad Program where
  pure := .done
  bind := bind

/-- The program that gives a result or fails without asking for cells. -/
def ofExcept {α : Type} : Except Error α → Program α
  | .ok a => .done a
  | .error e => .fail e

/-- The value of the first cell of a reference. -/
def cell (r : Reference) : Program Value := .readCell r .done

/-- The values of all cells of a reference. -/
def cells (r : Reference) (includeHidden : Bool) : Program (List Value) :=
  .readCells r includeHidden .done

/-- The entries of a list from a position on, which may be its end but no later one. -/
def entriesFrom {α : Type} (xs : List α) (i : Nat) : Program (List α) :=
  if i ≤ xs.length then .done (xs.drop i) else .fail .missingArgument

/-- The entries of a list before a position, which may be its end but no later one. -/
def entriesBefore {α : Type} (xs : List α) (i : Nat) : Program (List α) :=
  if i ≤ xs.length then .done (xs.take i) else .fail .missingArgument

/-! ## Laws -/

@[simp] theorem bind_done {α : Type} (p : Program α) : p.bind .done = p := by
  induction p with
  | done => rfl
  | fail => rfl
  | readCell r next ih => simp [bind, ih]
  | readCells r hidden next ih => simp [bind, ih]

theorem bind_assoc {α β γ : Type} (p : Program α) (f : α → Program β) (g : β → Program γ) :
    (p.bind f).bind g = p.bind fun a => (f a).bind g := by
  induction p with
  | done => rfl
  | fail => rfl
  | readCell r next ih => simp [bind, ih]
  | readCells r hidden next ih => simp [bind, ih]

instance : LawfulMonad Program :=
  LawfulMonad.mk' Program (fun p => bind_done p) (fun _ _ => rfl) (fun p f g => bind_assoc p f g)

end Program

end Spreadsheet.Evaluation
