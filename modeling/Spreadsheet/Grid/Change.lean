import Spreadsheet.Grid.Error

/-!
# Changes in place

Worksheets and workbooks are changed in place.  A change is a sequence of steps
that look at what is there, replace it, or fail.  A step that fails does not
undo those before it, so a change that fails leaves things as they were only if
it makes its checks first.
-/

namespace Spreadsheet.Grid

/-- A change of something in place, which gives a result or fails. -/
abbrev Change (σ α : Type) : Type := EStateM Error σ α

namespace Change

variable {σ α : Type}

/-- A step that fails if a check does. -/
def check : Except Error α → Change σ α
  | .ok a => pure a
  | .error e => throw e

/-- What is there after a change, whether it failed or not. -/
def after (c : Change σ α) (s : σ) : σ :=
  match c s with
  | .ok _ s => s
  | .error _ s => s

/-- The result of a change with what is there afterwards, unless it failed. -/
def outcome (c : Change σ α) (s : σ) : Except Error (α × σ) :=
  match c s with
  | .ok a s => .ok (a, s)
  | .error e _ => .error e

/-- What is there after a change, unless it failed. -/
def result (c : Change σ α) (s : σ) : Except Error σ := (c.outcome s).map (·.2)

/-! ## Steps that come first -/

theorem get_bind (f : σ → Change σ α) (s : σ) : (get >>= f) s = f s s := rfl

theorem modify_bind (g : σ → σ) (f : Unit → Change σ α) (s : σ) :
    (modify g >>= f) s = f () (g s) := rfl

theorem check_bind {β : Type} (x : Except Error β) (f : β → Change σ α) (s : σ) :
    (check x >>= f) s =
      match x with
      | .ok b => f b s
      | .error e => .error e s := by
  cases x <;> rfl

/-! ## A change without its result -/

theorem discard_run (c : Change σ α) (s : σ) :
    (discard c) s =
      match c s with
      | .ok _ s => .ok () s
      | .error e s => .error e s := by
  simp only [discard, Functor.discard, Functor.mapConst, EStateM.map, Function.comp]
  cases c s <;> rfl

theorem after_discard (c : Change σ α) (s : σ) : (discard c).after s = c.after s := by
  rw [after, after, discard_run]
  cases c s <;> rfl

end Change

end Spreadsheet.Grid
