import Spreadsheet.Proofs.Evaluation.Scope

/-!
# How programs end

Whatever a program is answered, it ends with a value or with an error.
`Program.Ends` says that every such value satisfies a condition and that every
such error is an allowed one.  Unlike for `Program.Within`, the answers may be any
values, and it does not matter what the program asks for.

A program is *in bounds* when it never reads an argument, an entry or a part of a
list that is not there (`Program.InBounds`).  What functions do with their
arguments is in bounds if the arguments are, apart from the access to an argument
by its position: there must be so many (`Given`).
-/

namespace Spreadsheet

/-- An error that does not come from reading something that is not there. -/
abbrev Formula.Error.InBounds (e : Formula.Error) : Prop := e ≠ .missingArgument

namespace Evaluation

open Spreadsheet.Formula (Error Reference)

variable {α β : Type} {allowed : Error → Prop} {post : α → Prop} {post' : β → Prop}

/-- Whatever a program is answered, it gives what satisfies a condition or fails with an allowed
error. -/
def Program.Ends (allowed : Error → Prop) (post : α → Prop) : Program α → Prop
  | .done a => post a
  | .fail e => allowed e
  | .readCell _ next => ∀ v, (next v).Ends allowed post
  | .readCells _ _ next => ∀ vs, (next vs).Ends allowed post

namespace Program.Ends

variable {p : Program α} {f : α → Program β}

theorem done {a : α} (h : post a) : (Program.done a).Ends allowed post := h

theorem fail {e : Error} (h : allowed e) : (Program.fail e : Program α).Ends allowed post := h

theorem bind (hp : p.Ends allowed post) (hf : ∀ a, post a → (f a).Ends allowed post') :
    (p >>= f).Ends allowed post' := by
  induction p with
  | done a => exact hf a hp
  | fail e => exact hp
  | readCell r next ih => exact fun v => ih v (hp v)
  | readCells r hidden next ih => exact fun vs => ih vs (hp vs)

theorem mono {post' : α → Prop} (hp : p.Ends allowed post) (h : ∀ a, post a → post' a) :
    p.Ends allowed post' := by
  induction p with
  | done a => exact h a hp
  | fail e => exact hp
  | readCell r next ih => exact fun v => ih v (hp v)
  | readCells r hidden next ih => exact fun vs => ih vs (hp vs)

/-- Nothing need be known of what comes first where the rest ends well in any case. -/
theorem next (hp : p.Ends allowed fun _ => True) (hf : ∀ a, (f a).Ends allowed post') :
    (p >>= f).Ends allowed post' :=
  hp.bind fun a _ => hf a

theorem cell (r : Reference) : (Program.cell r).Ends allowed fun _ => True := fun _ => trivial

theorem cells (r : Reference) (hidden : Bool) :
    (Program.cells r hidden).Ends allowed fun _ => True := fun _ => trivial

/-- Without conditions every program ends well. -/
theorem all (p : Program α) : p.Ends (fun _ => True) fun _ => True := by
  induction p with
  | done a => trivial
  | fail e => trivial
  | readCell r next ih => exact ih
  | readCells r hidden next ih => exact ih

end Program.Ends

/-! ## Programs in bounds -/

/-- A program never reads an argument, an entry or a part of a list that is not there. -/
abbrev Program.InBounds (p : Program α) : Prop := p.Ends Error.InBounds fun _ => True

theorem Program.Ends.ofExcept {x : Except Error α} (h : Regular post x) :
    (Program.ofExcept x).InBounds := by
  cases h with
  | ok _ => trivial
  | error _ h => exact h

/-- The part of a list from a position on is there if the position is not behind the end. -/
theorem entriesFrom_inBounds {xs : List α} {i : Nat} (h : i ≤ xs.length) :
    (Program.entriesFrom xs i).Ends Error.InBounds (· = xs.drop i) := by
  rw [Program.entriesFrom, if_pos h]
  rfl

/-- The part of a list before a position is there if the position is not behind the end. -/
theorem entriesBefore_inBounds {xs : List α} {i : Nat} (h : i ≤ xs.length) :
    (Program.entriesBefore xs i).Ends Error.InBounds (· = xs.take i) := by
  rw [Program.entriesBefore, if_pos h]
  rfl

/-! ## Arguments in bounds -/

/-- Computing an argument is in bounds. -/
def Argument.InBounds : Argument → Prop
  | .written _ => True
  | .computed p => p.InBounds

namespace Argument.InBounds

variable {a : Argument} (h : a.InBounds)
include h

theorem result : a.result.InBounds := by
  cases a with
  | written r => exact .cell r
  | computed p => exact h

theorem operand : a.operand.InBounds := by
  cases a with
  | written r => exact .done trivial
  | computed p => exact .next h fun v => .done trivial

theorem value : a.value.InBounds := by
  refine .next h.operand fun o => ?_
  cases o with
  | range r => exact .cell r
  | value v => exact .done trivial

theorem number : a.number.InBounds := .next h.value fun v => .ofExcept v.expectNumber_regular

theorem text : a.text.InBounds := .next h.value fun _ => .done trivial

theorem boolean : a.boolean.InBounds := .next h.value fun v => .ofExcept v.toBoolean_regular

theorem moment : a.moment.InBounds := .next h.value fun v => .ofExcept v.toMoment_regular

theorem reference (function : String) : (a.reference function).InBounds := by
  refine .next h.operand fun o => ?_
  cases o with
  | range r => exact .done trivial
  | value v => exact .fail (by simp)

theorem values (hidden : Bool) : (a.values hidden).InBounds := by
  refine .next h.operand fun o => ?_
  cases o with
  | range r => exact .cells r hidden
  | value v => exact .done trivial

end Argument.InBounds

/-- At least so many arguments, which are in bounds. -/
structure Given (least : Nat) (args : List Argument) : Prop where
  /-- There are so many. -/
  le : least ≤ args.length
  /-- Each is in bounds. -/
  each : ∀ a ∈ args, a.InBounds

namespace Given

variable {least : Nat} {args : List Argument} (h : Given least args)
include h

theorem argument (i : Fin least) :
    (argument args i).Ends Error.InBounds Argument.InBounds := by
  unfold Evaluation.argument
  rw [List.getElem?_eq_getElem (Nat.lt_of_lt_of_le i.isLt h.le)]
  exact h.each _ (List.getElem_mem _)

theorem number (i : Fin least) : (numberAt args i).InBounds :=
  (h.argument i).bind fun _ ha => ha.number

theorem text (i : Fin least) : (textAt args i).InBounds :=
  (h.argument i).bind fun _ ha => ha.text

theorem value (i : Fin least) : (valueAt args i).InBounds :=
  (h.argument i).bind fun _ ha => ha.value

theorem optionalNumber (i : Nat) (default : Float) : (optionalNumber args i default).InBounds := by
  unfold Evaluation.optionalNumber
  split
  next a ha => exact (h.each a (List.mem_of_getElem? ha)).number
  next => exact .done trivial

end Given

end Evaluation

end Spreadsheet
