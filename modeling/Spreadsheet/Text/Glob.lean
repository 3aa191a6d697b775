import Spreadsheet.Text.Fold

/-!
# Wildcard patterns

A pattern is a text in which `?` stands for any one character and `*` for any
run of characters, also the empty one.  Neither stands for a line break.  All
other characters stand for themselves, apart from case.

`accepts` says which texts a pattern covers.  A pattern that is open at its end
covers a text also when it covers a part that the text starts with.  The laws
restate it for the first piece of the pattern and the first character of the
text.  No text that is accepted is shorter than `leastLength`.
-/

namespace Spreadsheet.Text

/-- A piece of a wildcard pattern. -/
inductive Piece where
  /-- Any one character but a line break, written `?`. -/
  | one
  /-- Any run of characters without a line break, written `*`. -/
  | many
  /-- A character, apart from case. -/
  | letter (c : Char)
deriving DecidableEq, Repr

namespace Glob

/-- The pieces a pattern text is made of. -/
def ofText (s : String) : List Piece :=
  s.toList.map fun c => if c = '?' then .one else if c = '*' then .many else .letter c

/-- Whether a text holds a wildcard. -/
def hasWildcards (s : String) : Bool := s.toList.any fun c => c = '?' || c = '*'

/-- Whether a text has a run without line breaks at its start, and what follows passes a test. -/
def acceptsAfterRun (test : List Char → Bool) : List Char → Bool
  | [] => test []
  | c :: cs => test (c :: cs) || (c ≠ '\n' && acceptsAfterRun test cs)

/-- Whether the pattern covers the text, or, if it is open at its end, a part that the text starts
with. -/
def accepts (isOpen : Bool) : List Piece → List Char → Bool
  | [], cs => isOpen || cs.isEmpty
  | .many :: ps, cs => acceptsAfterRun (accepts isOpen ps) cs
  | .one :: ps, c :: cs => c ≠ '\n' && accepts isOpen ps cs
  | .letter a :: ps, c :: cs => sameLetter a c && accepts isOpen ps cs
  | _, [] => false

/-- The least length of a text that the pattern accepts. -/
def leastLength (ps : List Piece) : Nat := ps.countP (· ≠ .many)

/-! ## Laws -/

section

variable (isOpen : Bool) (a c : Char) (ps : List Piece) (cs : List Char)

@[simp] theorem accepts_nil : accepts isOpen [] cs = (isOpen || cs.isEmpty) := by
  cases cs <;> rfl

@[simp] theorem accepts_many_nil : accepts isOpen (.many :: ps) [] = accepts isOpen ps [] := rfl

@[simp] theorem accepts_many_cons :
    accepts isOpen (.many :: ps) (c :: cs)
      = (accepts isOpen ps (c :: cs) || (c ≠ '\n' && accepts isOpen (.many :: ps) cs)) := rfl

@[simp] theorem accepts_one_nil : accepts isOpen (.one :: ps) [] = false := rfl

@[simp] theorem accepts_one_cons :
    accepts isOpen (.one :: ps) (c :: cs) = (c ≠ '\n' && accepts isOpen ps cs) := rfl

@[simp] theorem accepts_letter_nil : accepts isOpen (.letter a :: ps) [] = false := rfl

@[simp] theorem accepts_letter_cons :
    accepts isOpen (.letter a :: ps) (c :: cs) = (sameLetter a c && accepts isOpen ps cs) := rfl

/-- A run after a run adds nothing. -/
theorem accepts_many_many :
    accepts isOpen (.many :: .many :: ps) = accepts isOpen (.many :: ps) := by
  funext cs
  induction cs with
  | nil => rfl
  | cons c cs ih =>
    rw [accepts_many_cons, accepts_many_cons, ih, Bool.or_assoc, Bool.or_self]

/-- Patterns that agree still agree after the same piece. -/
theorem accepts_congr {ps qs : List Piece} (h : accepts isOpen ps = accepts isOpen qs)
    (p : Piece) : accepts isOpen (p :: ps) = accepts isOpen (p :: qs) := by
  funext cs
  cases p <;> cases cs <;> simp [accepts, h]

theorem leastLength_le_of_accepts {isOpen : Bool} {ps : List Piece} {cs : List Char}
    (h : accepts isOpen ps cs) : leastLength ps ≤ cs.length := by
  induction ps generalizing cs with
  | nil => exact Nat.zero_le _
  | cons p ps ih =>
    cases p with
    | many =>
      induction cs with
      | nil => exact ih h
      | cons c cs ihcs =>
        rcases Bool.or_eq_true_iff.1 h with h | h
        · exact ih h
        · exact Nat.le_succ_of_le (ihcs (Bool.and_eq_true_iff.1 h).2)
    | one | letter =>
      cases cs with
      | nil => cases h
      | cons c cs =>
        simpa [leastLength, List.countP_cons] using ih (Bool.and_eq_true_iff.1 h).2

end

/-! ## Tests -/

example : accepts false [.letter 'a', .many] ['A', 'b', 'c'] = true := by decide
example : accepts false [.many, .letter 'c'] ['a', 'b'] = false := by decide
example : accepts false [.one] ['\n'] = false := by decide
example : accepts true [.one] ['a', 'b'] = true := by decide

end Glob

end Spreadsheet.Text
