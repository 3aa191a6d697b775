import Spreadsheet.Text.Glob
import Spreadsheet.Text.Occurrence
import Spreadsheet.Text.TailSet

/-!
# Matching wildcard patterns

A pattern either has to cover a whole text (`matchesAll`) or is looked for in
it (`find?`), where only the position at which a match starts counts.

A text is read from its end.  At each character the matcher knows which tails
of the pattern accept what follows (`Matched.tails`), and finds those that
accept the text from the character on (`advance`):

* a tail that starts with a piece for the character, if the next tail accepts
  what follows;
* a tail that starts with a run, if it accepts what follows and the character
  is no line break, or if the next tail accepts the text from the character on;
* the empty tail, if the pattern is open.

The second rule makes one tail depend on the next, which is why runs are joined
first (`joinRuns`): then the next tail does not start with a run itself.

What can be told without that is: the pieces before the first run of a pattern
that has to cover the text are compared one by one, and a pattern without
wildcards is looked for as a text.

The main statements are `tails_search`, which says that the tails are those
that `accepts` names, and the laws of `matchesAll` and `find?` that follow.
-/

namespace Spreadsheet.Text.Glob

/-! ## Joined runs -/

/-- A piece in front of a pattern.  A run before a run is left out. -/
def addPiece (p : Piece) (ps : List Piece) : List Piece :=
  if p = .many && ps.head? = some .many then ps else p :: ps

/-- The pattern with runs that follow each other as one. -/
def joinRuns (ps : List Piece) : List Piece := ps.foldr addPiece []

theorem accepts_addPiece (isOpen : Bool) (p : Piece) (ps : List Piece) :
    accepts isOpen (addPiece p ps) = accepts isOpen (p :: ps) := by
  by_cases h : p = .many ∧ ps.head? = some .many
  · obtain ⟨rfl, hhead⟩ := h
    obtain ⟨qs, rfl⟩ := List.head?_eq_some_iff.1 hhead
    exact (accepts_many_many isOpen qs).symm
  · simp [addPiece, h]

/-- Joining runs changes nothing about what is accepted. -/
theorem accepts_joinRuns (isOpen : Bool) (ps : List Piece) :
    accepts isOpen (joinRuns ps) = accepts isOpen ps := by
  induction ps with
  | nil => rfl
  | cons p ps ih =>
    exact (accepts_addPiece isOpen p (joinRuns ps)).trans (accepts_congr isOpen ih p)

/-- Whether no run of a pattern follows another. -/
def RunsJoined (ps : List Piece) : Prop := ∀ qs, ¬ .many :: .many :: qs <:+ ps

theorem runsJoined_addPiece {p : Piece} {ps : List Piece} (h : RunsJoined ps) :
    RunsJoined (addPiece p ps) := by
  intro qs hqs
  by_cases hp : p = .many ∧ ps.head? = some .many
  · exact h qs (by simpa [addPiece, hp] using hqs)
  · have hqs : .many :: .many :: qs <:+ p :: ps := by simpa [addPiece, hp] using hqs
    rcases List.suffix_cons_iff.1 hqs with heq | hqs
    · simp only [List.cons.injEq] at heq
      simp [← heq.1, ← heq.2] at hp
    · exact h qs hqs

theorem runsJoined_joinRuns (ps : List Piece) : RunsJoined (joinRuns ps) := by
  induction ps with
  | nil => simp [RunsJoined, joinRuns]
  | cons p ps ih => exact runsJoined_addPiece ih

/-! ## Search -/

/-- Whether a pattern starts with a piece for the character. -/
def startsWithPieceFor (c : Char) : List Piece → Bool
  | .one :: _ => c ≠ '\n'
  | .letter a :: _ => sameLetter a c
  | _ => false

/-- Whether a pattern starts with a run. -/
def startsWithRun (ps : List Piece) : Bool := ps.head? = some .many

/-- What is known when a text has been read from its end. -/
structure Matched where
  /-- The tails of the pattern that accept the text. -/
  tails : TailSet
  /-- The first position from which the whole pattern accepts the text. -/
  first : Option Nat
deriving DecidableEq, Repr

/-- The sets of tails of a pattern that do not depend on the text. -/
structure Fixed where
  /-- The tails that start with a run. -/
  runs : TailSet
  /-- The tails that follow a run. -/
  afterRuns : TailSet
  /-- The empty tail, if the pattern is open. -/
  ends : TailSet
deriving DecidableEq, Repr

/-- The sets for a pattern. -/
def Fixed.of (isOpen : Bool) (ps : List Piece) : Fixed where
  runs := .ofTest startsWithRun ps
  afterRuns := (TailSet.ofTest startsWithRun ps).shorten
  ends := .ofTest (fun qs => isOpen && qs.isEmpty) ps

/-- The tails that accept a text, from those that start with a piece for its first character and
those that accept the rest. -/
def advance (k : Fixed) (c : Char) (pieces later : TailSet) : TailSet :=
  let stay := if c = '\n' then .empty else k.runs.inter later
  let here := ((pieces.inter later.extend).union stay).union k.ends
  here.union (k.afterRuns.inter here).extend

/-- What is known of an empty text. -/
def Matched.atEnd (isOpen : Bool) (ps : List Piece) : Matched :=
  let tails := TailSet.ofTest (fun qs => accepts isOpen qs []) ps
  ⟨tails, if tails.hasWhole then some 0 else none⟩

/-- What is known with one more character in front. -/
def Matched.step (k : Fixed) (c : Char) (pieces : TailSet) (m : Matched) : Matched :=
  let tails := advance k c pieces m.tails
  ⟨tails, if tails.hasWhole then some 0 else m.first.map (· + 1)⟩

/-- Reads a text from its end. -/
def search (isOpen : Bool) (ps : List Piece) (cs : List Char) : Matched :=
  let ps := joinRuns ps
  let k := Fixed.of isOpen ps
  let pieces := fun c => TailSet.ofTest (startsWithPieceFor c) ps
  let known := TailSet.family pieces cs
  cs.foldr (fun c => Matched.step k c (TailSet.member pieces known c)) (.atEnd isOpen ps)

/-- Whether the pattern covers the whole text.  The pieces before the first run are compared with
one character each.  Behind it a text that is too short is not read. -/
def covers : List Piece → List Char → Bool
  | .many :: ps, cs =>
    leastLength (.many :: ps) ≤ cs.length && (search false (.many :: ps) cs).tails.hasWhole
  | .one :: ps, c :: cs => c ≠ '\n' && covers ps cs
  | .letter a :: ps, c :: cs => sameLetter a c && covers ps cs
  | [], cs => cs.isEmpty
  | _, [] => false

/-- Whether the pattern covers the whole text. -/
def matchesAll (ps : List Piece) (s : String) : Bool := covers ps s.toList

/-- The characters of a pattern without wildcards. -/
def letters? : List Piece → Option (List Char)
  | [] => some []
  | .letter a :: ps => (letters? ps).map (a :: ·)
  | _ => none

/-- The first position at which a match of the pattern starts.  Without wildcards that is the first
occurrence, apart from case.  Else a text that is too short is not read. -/
def find? (ps : List Piece) (cs : List Char) : Option Nat :=
  match letters? ps with
  | some word => position? (word.map fold) (cs.map fold)
  | none => if leastLength ps ≤ cs.length then (search true ps cs).first else none

/-! ## Laws -/

/-- A step finds the tails that accept one more character. -/
theorem advance_eq (isOpen : Bool) {ps : List Piece} (h : RunsJoined ps) (c : Char)
    (cs : List Char) :
    advance (.of isOpen ps) c (.ofTest (startsWithPieceFor c) ps)
        (.ofTest (fun qs => accepts isOpen qs cs) ps)
      = .ofTest (fun qs => accepts isOpen qs (c :: cs)) ps := by
  have hstay : (if c = '\n' then TailSet.empty
      else (Fixed.of isOpen ps).runs.inter (.ofTest (fun qs => accepts isOpen qs cs) ps))
        = .ofTest (fun qs => c ≠ '\n' && startsWithRun qs && accepts isOpen qs cs) ps := by
    by_cases hc : c = '\n'
    · simp [hc, TailSet.ofTest_false]
    · simp [hc, Fixed.of, TailSet.inter_ofTest]
  simp only [advance, hstay]
  simp only [Fixed.of, TailSet.extend_inter_shorten, TailSet.extend_ofTest,
    TailSet.inter_ofTest, TailSet.union_ofTest]
  refine TailSet.ofTest_congr fun qs hqs => ?_
  match qs with
  | [] => simp [startsWithPieceFor, startsWithRun]
  | .one :: qs => simp [startsWithPieceFor, startsWithRun]
  | .letter a :: qs => simp [startsWithPieceFor, startsWithRun]
  | [.many] => simp [startsWithPieceFor, startsWithRun, Bool.or_comm]
  | .many :: .many :: qs => exact absurd hqs (h qs)
  | .many :: .one :: qs => simp [startsWithPieceFor, startsWithRun, Bool.or_comm]
  | .many :: .letter a :: qs => simp [startsWithPieceFor, startsWithRun, Bool.or_comm]

section

variable (isOpen : Bool) (ps : List Piece) (c : Char) (cs : List Char)

theorem search_nil : search isOpen ps [] = .atEnd isOpen (joinRuns ps) := rfl

theorem search_cons :
    search isOpen ps (c :: cs)
      = .step (.of isOpen (joinRuns ps)) c (.ofTest (startsWithPieceFor c) (joinRuns ps))
          (search isOpen ps cs) := by
  simp [search]

/-- The tails found are those that accept the text. -/
theorem tails_search :
    (search isOpen ps cs).tails = .ofTest (fun qs => accepts isOpen qs cs) (joinRuns ps) := by
  induction cs with
  | nil => rfl
  | cons c cs ih =>
    rw [search_cons, Matched.step, ih]
    exact advance_eq isOpen (runsJoined_joinRuns ps) c cs

theorem hasWhole_search : (search isOpen ps cs).tails.hasWhole = accepts isOpen ps cs := by
  rw [tails_search, TailSet.hasWhole_ofTest, accepts_joinRuns]

theorem covers_eq : covers ps cs = accepts false ps cs := by
  induction ps generalizing cs with
  | nil => rfl
  | cons p ps ih =>
    cases p with
    | many =>
      rw [covers, hasWhole_search, Bool.and_eq_right_iff_imp]
      exact fun h => decide_eq_true (leastLength_le_of_accepts h)
    | one | letter => cases cs <;> simp [covers, ih]

theorem matchesAll_eq (s : String) : matchesAll ps s = accepts false ps s.toList :=
  covers_eq ps s.toList

theorem first_search_nil :
    (search isOpen ps []).first = if accepts isOpen ps [] then some 0 else none := by
  rw [← hasWhole_search]
  rfl

theorem first_search_cons :
    (search isOpen ps (c :: cs)).first
      = if accepts isOpen ps (c :: cs) then some 0
        else (search isOpen ps cs).first.map (· + 1) := by
  rw [← hasWhole_search, search_cons]
  rfl

/-- Nothing is found in a text that is too short. -/
theorem first_search_of_lt {isOpen : Bool} {ps : List Piece} {cs : List Char}
    (h : cs.length < leastLength ps) : (search isOpen ps cs).first = none := by
  have hnot : ¬ accepts isOpen ps cs := fun ha => Nat.not_le.2 h (leastLength_le_of_accepts ha)
  induction cs with
  | nil => rw [first_search_nil, if_neg hnot]
  | cons c cs ih =>
    have hlt : cs.length < leastLength ps := Nat.lt_of_succ_lt h
    rw [first_search_cons, if_neg hnot,
      ih hlt fun ha => Nat.not_le.2 hlt (leastLength_le_of_accepts ha)]
    rfl

/-- A pattern without wildcards accepts what starts with its characters, apart from case. -/
theorem accepts_of_letters {ps : List Piece} {word : List Char} (h : letters? ps = some word)
    (cs : List Char) : accepts true ps cs = (word.map fold).isPrefixOf (cs.map fold) := by
  induction ps generalizing word cs with
  | nil =>
    obtain rfl : [] = word := Option.some.inj h
    simp
  | cons p ps ih =>
    cases p with
    | one | many => cases h
    | letter a =>
      obtain ⟨rest, hrest, rfl⟩ := Option.map_eq_some_iff.1 h
      cases cs with
      | nil => rfl
      | cons c cs => simp [List.isPrefixOf, sameLetter, ih hrest]

theorem position?_of_letters {ps : List Piece} {word : List Char} (h : letters? ps = some word)
    (cs : List Char) : position? (word.map fold) (cs.map fold) = (search true ps cs).first := by
  induction cs with
  | nil =>
    rw [first_search_nil, accepts_of_letters h]
    cases word <;> rfl
  | cons c cs ih =>
    rw [first_search_cons, accepts_of_letters h, List.map_cons, position?_cons, ih]

theorem find?_eq : find? ps cs = (search true ps cs).first := by
  rw [find?]
  split
  · next h => exact position?_of_letters h cs
  · by_cases h : leastLength ps ≤ cs.length
    · exact if_pos h
    · rw [if_neg h, first_search_of_lt (Nat.not_le.1 h)]

@[simp] theorem find?_nil : find? ps [] = if accepts true ps [] then some 0 else none := by
  rw [find?_eq, first_search_nil]

@[simp] theorem find?_cons :
    find? ps (c :: cs)
      = if accepts true ps (c :: cs) then some 0 else (find? ps cs).map (· + 1) := by
  rw [find?_eq, find?_eq, first_search_cons]

end

/-- A match starts within the text or at its end. -/
theorem le_length_of_find? {ps : List Piece} {cs : List Char} {i : Nat}
    (h : find? ps cs = some i) : i ≤ cs.length := by
  induction cs generalizing i with
  | nil =>
    rw [find?_nil] at h
    split at h
    next =>
      cases h
      exact Nat.le_refl 0
    next => cases h
  | cons c cs ih =>
    rw [find?_cons] at h
    split at h
    next =>
      cases h
      exact Nat.zero_le _
    next =>
      obtain ⟨k, hk, rfl⟩ := Option.map_eq_some_iff.1 h
      exact Nat.succ_le_succ (ih hk)

/-! ## Tests -/

example : matchesAll [.letter 'a', .many, .many] "Abc" = true := by decide +kernel
example : matchesAll [.many, .letter 'c'] "ab" = false := by decide +kernel
example : find? [.letter 'b', .one] ['a', 'b', 'c'] = some 1 := by decide
example : find? [.letter 'b', .many, .letter 'd'] ['a', 'b', 'c'] = none := by decide

end Spreadsheet.Text.Glob
