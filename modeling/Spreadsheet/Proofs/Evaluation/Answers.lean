import Spreadsheet.Evaluation.Program

/-!
# Programs under given answers

An engine answers the requests of a program one after the other, and its memory
changes on the way.  Where only the result matters, a program can be given all
answers at once.  `Answers` are such answers, one for every request there can
be, and `Program.under` is the result of a program that is given them.

Two answers that agree on what a program asks give the same result.  Which
requests these are is the subject of `Proofs.Evaluation.Scope`.
-/

namespace Spreadsheet.Evaluation

open Spreadsheet.Formula (Error Reference)

/-- What a program is answered, whatever it has asked before. -/
structure Answers where
  /-- The value of the first cell of a reference. -/
  cell : Reference → Except Error Value
  /-- The values of the cells of a reference, with the hidden ones or without. -/
  cells : Reference → Bool → Except Error (List Value)

namespace Program

variable {α β : Type}

/-- The result of a program that is given answers. -/
def under (q : Answers) : Program α → Except Error α
  | .done a => .ok a
  | .fail e => .error e
  | .readCell r next =>
    match q.cell r with
    | .ok v => (next v).under q
    | .error e => .error e
  | .readCells r hidden next =>
    match q.cells r hidden with
    | .ok vs => (next vs).under q
    | .error e => .error e

/-! ## Laws -/

@[simp] theorem ok_bind (a : α) (f : α → Except Error β) :
    ((.ok a : Except Error α) >>= f) = f a := rfl

@[simp] theorem error_bind (e : Error) (f : α → Except Error β) :
    ((.error e : Except Error α) >>= f) = .error e := rfl

/-- A sequence of two computations succeeds when both do. -/
theorem bind_eq_ok {x : Except Error α} {f : α → Except Error β} {b : β} :
    x >>= f = .ok b ↔ ∃ a, x = .ok a ∧ f a = .ok b := by
  cases x with
  | ok a => exact ⟨fun h => ⟨a, rfl, h⟩, fun ⟨_, ha, h⟩ => Except.ok.inj ha ▸ h⟩
  | error e => exact ⟨nofun, fun ⟨_, ha, _⟩ => nomatch ha⟩

@[simp] theorem pure_eq (a : α) : (pure a : Program α) = .done a := rfl

@[simp] theorem bind_eq (p : Program α) (f : α → Program β) : p >>= f = p.bind f := rfl

@[simp] theorem done_bind (a : α) (f : α → Program β) : (Program.done a).bind f = f a := rfl

@[simp] theorem fail_bind (e : Error) (f : α → Program β) :
    (Program.fail e).bind f = .fail e := rfl

@[simp] theorem under_done (q : Answers) (a : α) : (Program.done a).under q = .ok a := rfl

@[simp] theorem under_fail (q : Answers) (e : Error) :
    (Program.fail e : Program α).under q = .error e := rfl

@[simp] theorem under_ofExcept (q : Answers) (x : Except Error α) :
    (ofExcept x).under q = x := by
  cases x <;> rfl

@[simp] theorem under_cell (q : Answers) (r : Reference) : (cell r).under q = q.cell r := by
  simp only [cell, under]
  cases q.cell r <;> rfl

@[simp] theorem under_cells (q : Answers) (r : Reference) (hidden : Bool) :
    (cells r hidden).under q = q.cells r hidden := by
  simp only [cells, under]
  cases q.cells r hidden <;> rfl

/-- A program that goes on with another gives what the other gives for its result. -/
theorem under_bind (q : Answers) (p : Program α) (f : α → Program β) :
    (p.bind f).under q = p.under q >>= fun a => (f a).under q := by
  induction p with
  | done a => rfl
  | fail e => rfl
  | readCell r next ih =>
    simp only [bind, under]
    cases q.cell r with
    | ok v => exact ih v
    | error e => rfl
  | readCells r hidden next ih =>
    simp only [bind, under]
    cases q.cells r hidden with
    | ok vs => exact ih vs
    | error e => rfl

/-- Behind a program with a result the other one is given it. -/
theorem under_bind_of_ok {q : Answers} {p : Program α} {a : α} (hp : p.under q = .ok a)
    (f : α → Program β) : (p.bind f).under q = (f a).under q := by
  rw [under_bind, hp]
  rfl

/-- Behind a program that fails the other one does nothing. -/
theorem under_bind_of_error {q : Answers} {p : Program α} {e : Error} (hp : p.under q = .error e)
    (f : α → Program β) : (p.bind f).under q = .error e := by
  rw [under_bind, hp]
  rfl

end Program

end Spreadsheet.Evaluation
