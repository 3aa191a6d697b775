import Spreadsheet.Formula.Expr

/-!
# What a formula reads

The basic operations and the reducing functions compute all of their arguments,
whatever these turn out to be.  So the references that a formula reads through
them can be told from its tree.

A reference that is itself an argument of a reducing function is read with all of
its cells.  Anywhere else its first cell is read.  The difference matters.  What
becomes of a value that is no number depends on it: an operation fails, and a
function leaves a cell of a range out.

Other operators and functions need not read what stands under them, or do
something else with it, so nothing is counted there.
-/

namespace Spreadsheet.Formula

/-- How many cells of a reference are read. -/
inductive Extent where
  /-- The first. -/
  | first
  /-- All of them. -/
  | all
deriving DecidableEq

/-- Whether an operator is one of the four basic operations. -/
def Operator.isBasic : Operator → Bool
  | .add | .subtract | .multiply | .divide => true
  | _ => false

/-- Whether a function that is built in is one of those that reduce numbers. -/
def Builtin.isReducing : Builtin → Bool
  | .sum | .average | .min | .max | .count => true
  | _ => false

/-- Whether a function reduces numbers. -/
def Function.isReducing (f : Function) : Bool :=
  match f.body with
  | .builtin b => b.isReducing
  | .foreign _ => false

/-- What an argument of a reducing function reads, given what it reads anywhere else. -/
def Expr.argumentRead (elsewhere : List (Reference × Extent)) : Expr → List (Reference × Extent)
  | .reference r => [(r, .all)]
  | _ => elsewhere

mutual

/-- The references that an expression reads through basic operations and reducing functions. -/
def Expr.reads : Expr → List (Reference × Extent)
  | .literal _ => []
  | .reference r => [(r, .first)]
  | .signed _ e => e.reads
  | .binary op l r => if op.isBasic then l.reads ++ r.reads else []
  | .call f es => if f.isReducing then Expr.argumentReads es else []

/-- The references that arguments of a reducing function read. -/
def Expr.argumentReads : List Expr → List (Reference × Extent)
  | [] => []
  | e :: es => e.argumentRead e.reads ++ Expr.argumentReads es

end

mutual

/-- Whether an expression is built from numbers, texts, references, basic operations and reducing
functions only. -/
def Expr.isPlain : Expr → Bool
  | .literal (.number _) => true
  | .literal (.text _) => true
  | .literal _ => false
  | .reference _ => true
  | .signed _ _ => false
  | .binary op l r => op.isBasic && l.isPlain && r.isPlain
  | .call f es => f.isReducing && Expr.arePlain es

/-- Whether expressions are built from these only. -/
def Expr.arePlain : List Expr → Bool
  | [] => true
  | e :: es => e.isPlain && Expr.arePlain es

end

/-- An argument that reads the first cell of a reference is not that reference. -/
theorem Expr.reads_of_argumentRead {e : Expr} {r : Reference}
    (h : (r, .first) ∈ e.argumentRead e.reads) : (r, .first) ∈ e.reads ∧ e ≠ .reference r := by
  cases e with
  | reference s => simp [Expr.argumentRead] at h
  | _ => exact ⟨h, nofun⟩

end Spreadsheet.Formula
