import Spreadsheet.Text.Fingerprint

/-!
# Occurrences of one text in another

Occurrences are counted from the left and do not overlap.  A function that
works through a text carries the number of characters that still belong to the
occurrence it has passed, and the hints that tell where to compare characters.
The laws are without the hints: they state what the function does with the next
character in terms of `isPrefixOf`.
-/

namespace Spreadsheet.Text

/-! ## Positions -/

/-- The first position at which `needle` occurs.  Where there is no hint, it is not looked for. -/
def positionFrom (needle : List Char) : List Bool → List Char → Option Nat
  | _, [] => if needle.isEmpty then some 0 else none
  | hints, c :: cs =>
    if hints.headD false && needle.isPrefixOf (c :: cs) then some 0
    else (positionFrom needle hints.tail cs).map (· + 1)

/-- The first position at which `needle` occurs. -/
def position? (needle cs : List Char) : Option Nat := positionFrom needle (hints needle cs) cs

@[simp] theorem position?_nil (needle : List Char) :
    position? needle [] = if needle.isEmpty then some 0 else none := rfl

@[simp] theorem position?_cons (needle : List Char) (c : Char) (cs : List Char) :
    position? needle (c :: cs)
      = if needle.isPrefixOf (c :: cs) then some 0 else (position? needle cs).map (· + 1) := by
  simp only [position?, positionFrom, hint_and_isPrefixOf, tail_hints]

/-- An occurrence ends within the text. -/
theorem add_length_le_of_position? {needle cs : List Char} {i : Nat}
    (h : position? needle cs = some i) : i + needle.length ≤ cs.length := by
  induction cs generalizing i with
  | nil =>
    rw [position?_nil] at h
    split at h
    next hneedle =>
      cases h
      rw [List.isEmpty_iff.1 hneedle]
      exact Nat.le_refl 0
    next => cases h
  | cons c cs ih =>
    rw [position?_cons] at h
    split at h
    next hhere =>
      cases h
      rw [Nat.zero_add]
      exact (List.isPrefixOf_iff_prefix.1 hhere).length_le
    next =>
      obtain ⟨k, hk, rfl⟩ := Option.map_eq_some_iff.1 h
      have hrest := ih hk
      rw [List.length_cons]
      omega

/-- The position of the occurrence of `needle` that `n` others precede.  `skip` characters belong to
the last one.  Where there is no hint, `needle` is not looked for. -/
def nthPositionFrom (needle : List Char) (skip n : Nat) : List Bool → List Char → Option Nat
  | _, [] => none
  | hints, c :: cs =>
    match skip with
    | k + 1 => (nthPositionFrom needle k n hints.tail cs).map (· + 1)
    | 0 =>
      if hints.headD false && needle.isPrefixOf (c :: cs) then
        match n with
        | 0 => some 0
        | n + 1 => (nthPositionFrom needle (needle.length - 1) n hints.tail cs).map (· + 1)
      else (nthPositionFrom needle 0 n hints.tail cs).map (· + 1)

/-- The position of the occurrence of `needle` that `n` others precede.  `skip` characters belong to
the last one. -/
def nthPosition? (needle : List Char) (skip n : Nat) (cs : List Char) : Option Nat :=
  nthPositionFrom needle skip n (hints needle cs) cs

@[simp] theorem nthPosition?_nil (needle : List Char) (skip n : Nat) :
    nthPosition? needle skip n [] = none := rfl

@[simp] theorem nthPosition?_succ (needle : List Char) (k n : Nat) (c : Char) (cs : List Char) :
    nthPosition? needle (k + 1) n (c :: cs) = (nthPosition? needle k n cs).map (· + 1) := by
  simp only [nthPosition?, nthPositionFrom, tail_hints]

@[simp] theorem nthPosition?_zero_zero (needle : List Char) (c : Char) (cs : List Char) :
    nthPosition? needle 0 0 (c :: cs)
      = if needle.isPrefixOf (c :: cs) then some 0
        else (nthPosition? needle 0 0 cs).map (· + 1) := by
  simp only [nthPosition?, nthPositionFrom, hint_and_isPrefixOf, tail_hints]

@[simp] theorem nthPosition?_zero_succ (needle : List Char) (n : Nat) (c : Char) (cs : List Char) :
    nthPosition? needle 0 (n + 1) (c :: cs)
      = if needle.isPrefixOf (c :: cs) then
          (nthPosition? needle (needle.length - 1) n cs).map (· + 1)
        else (nthPosition? needle 0 (n + 1) cs).map (· + 1) := by
  simp only [nthPosition?, nthPositionFrom, hint_and_isPrefixOf, tail_hints]

/-- An occurrence ends within the text, whichever it is. -/
theorem add_length_le_of_nthPosition? {needle cs : List Char} {skip n i : Nat}
    (h : nthPosition? needle skip n cs = some i) : i + needle.length ≤ cs.length := by
  induction cs generalizing skip n i with
  | nil => cases h
  | cons c cs ih =>
    have later {skip n : Nat} (h : (nthPosition? needle skip n cs).map (· + 1) = some i) :
        i + needle.length ≤ (c :: cs).length := by
      obtain ⟨k, hk, rfl⟩ := Option.map_eq_some_iff.1 h
      have hrest := ih hk
      rw [List.length_cons]
      omega
    match skip, n with
    | skip + 1, n =>
      rw [nthPosition?_succ] at h
      exact later h
    | 0, 0 =>
      rw [nthPosition?_zero_zero] at h
      split at h
      next hhere =>
        cases h
        rw [Nat.zero_add]
        exact (List.isPrefixOf_iff_prefix.1 hhere).length_le
      next => exact later h
    | 0, n + 1 =>
      rw [nthPosition?_zero_succ] at h
      split at h
      next => exact later h
      next => exact later h

/-! ## Replacing -/

/-- A text with every occurrence of `old` replaced.  `skip` characters belong to the last one.
Where there is no hint, `old` is not looked for. -/
def replaceAllFrom (old new : List Char) (skip : Nat) : List Bool → List Char → List Char
  | _, [] => []
  | hints, c :: cs =>
    match skip with
    | k + 1 => replaceAllFrom old new k hints.tail cs
    | 0 =>
      if hints.headD false && old.isPrefixOf (c :: cs) then
        new ++ replaceAllFrom old new (old.length - 1) hints.tail cs
      else c :: replaceAllFrom old new 0 hints.tail cs

/-- A text with every occurrence of `old` replaced.  `skip` characters belong to the last one. -/
def replaceAll (old new : List Char) (skip : Nat) (cs : List Char) : List Char :=
  replaceAllFrom old new skip (hints old cs) cs

@[simp] theorem replaceAll_nil (old new : List Char) (skip : Nat) :
    replaceAll old new skip [] = [] := rfl

@[simp] theorem replaceAll_succ (old new : List Char) (k : Nat) (c : Char) (cs : List Char) :
    replaceAll old new (k + 1) (c :: cs) = replaceAll old new k cs := by
  simp only [replaceAll, replaceAllFrom, tail_hints]

@[simp] theorem replaceAll_zero (old new : List Char) (c : Char) (cs : List Char) :
    replaceAll old new 0 (c :: cs)
      = if old.isPrefixOf (c :: cs) then new ++ replaceAll old new (old.length - 1) cs
        else c :: replaceAll old new 0 cs := by
  simp only [replaceAll, replaceAllFrom, hint_and_isPrefixOf, tail_hints]

/-! ## Spaces and lines -/

/-- A text in which each run of spaces has become one space. -/
def collapseSpaces : List Char → List Char
  | [] => []
  | c :: cs =>
    if c = ' ' && cs.head? = some ' ' then collapseSpaces cs else c :: collapseSpaces cs

/-- The lines of a text.  A line break ends a line, and a carriage return before it goes with it. -/
def lines : List Char → List (List Char)
  | [] => []
  | '\r' :: '\n' :: cs => [] :: lines cs
  | '\n' :: cs => [] :: lines cs
  | c :: cs =>
    match lines cs with
    | [] => [[c]]
    | line :: rest => (c :: line) :: rest

/-! ## Tests -/

example : position? ['b'] ['a', 'b', 'b'] = some 1 := by decide
example : nthPosition? ['a'] 0 1 ['a', 'b', 'a'] = some 2 := by decide
example : replaceAll ['a', 'a'] ['x'] 0 ['a', 'a', 'a'] = ['x', 'a'] := by decide
example : collapseSpaces ['a', ' ', ' ', ' ', 'b'] = ['a', ' ', 'b'] := by decide
example : lines ['a', '\r', '\n', 'b'] = [['a'], ['b']] := by decide
example : lines ['a', '\n'] = [['a']] := by decide

end Spreadsheet.Text
