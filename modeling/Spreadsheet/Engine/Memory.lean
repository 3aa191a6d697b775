import Spreadsheet.Engine.Host
import Spreadsheet.Formula.Parser

/-!
# The memory of an engine

While formulas are computed an engine remembers three things: the trees of
formulas that it has parsed, how often it has parsed one, and the ranges that
are being read.

The trees are kept by the exact text of the formula.  Before a tree is kept that
would be one too many, all others are dropped.

A range that is being read is held under a *key*, a text made of the name of its
sheet and its bounds.  Holding a key twice is refused, which is how circular
references come to light.
-/

namespace Spreadsheet.Engine

open Spreadsheet.Formula (Expr)
open Spreadsheet.Grid (Range)

/-! ## Trees of formulas -/

/-- The trees of formulas that have been parsed. -/
structure Cache where
  /-- The trees with the texts they were parsed from, no two of one text. -/
  entries : List (String × Expr) := []
  /-- The number of trees that are kept. -/
  capacity : Nat

namespace Cache

/-- The tree of a text. -/
def find? (c : Cache) (text : String) : Option Expr := c.entries.lookup text

/-- The cache with a tree.  One that is full is emptied first. -/
def insert (c : Cache) (text : String) (e : Expr) : Cache :=
  let kept := if c.capacity ≤ c.entries.length then [] else c.entries
  { c with entries := (text, e) :: kept.filter fun entry => entry.1 != text }

/-- The cache without trees. -/
def clear (c : Cache) : Cache := { c with entries := [] }

/-- The number of trees. -/
def size (c : Cache) : Nat := c.entries.length

end Cache

/-! ## Ranges that are being read -/

/-- The key of a range on a sheet.  A sheet without a name counts as one with an empty name. -/
def keyOf (h : Host) (sheet : Nat) (r : Range) : String :=
  (h.sheetName? sheet).getD "" ++ ":" ++ toString r.top ++ "," ++ toString r.left ++ "-"
    ++ toString r.bottom ++ "," ++ toString r.right

/-- What an engine remembers while formulas are computed. -/
structure Memory where
  /-- The trees of formulas. -/
  cache : Cache
  /-- How often a formula was parsed. -/
  parsed : Nat := 0
  /-- The keys of the ranges that are being read. -/
  held : List String := []

namespace Memory

/-- Holds a key, unless it is held already. -/
def hold? (m : Memory) (key : String) : Option Memory :=
  if m.held.contains key then none else some { m with held := key :: m.held }

/-- Lets a key go. -/
def release (m : Memory) (key : String) : Memory := { m with held := m.held.erase key }

end Memory

end Spreadsheet.Engine
