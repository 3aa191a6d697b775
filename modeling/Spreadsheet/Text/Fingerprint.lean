/-!
# Fingerprints

The fingerprint of a text is the value of a polynomial, modulo two to the power
of 64, whose coefficients are the characters.  A text that starts with `needle`
has a fingerprint that is determined by that of `needle` and that of the rest
(`fingerprint_append`).  So the positions where `needle` does not occur are
told, but for rare exceptions, without comparing characters.

`hints` does so for all positions in one pass each over the text and over
`needle`.  The laws say that no occurrence is lost: comparing characters only
where there is a hint gives the same as comparing them everywhere
(`hint_and_isPrefixOf`).
-/

namespace Spreadsheet.Text

/-- The place at which the polynomial is taken.  It is odd, so that no character loses its weight
in a long text. -/
def fingerprintBase : UInt64 := 11400714819323198485

/-- The fingerprint of a text with a character in front of another one. -/
def addToFingerprint (c : Char) (h : UInt64) : UInt64 := c.val.toUInt64 + fingerprintBase * h

/-- The fingerprint of a text. -/
def fingerprint (cs : List Char) : UInt64 := cs.foldr addToFingerprint 0

/-- The factor of the fingerprint of what follows a text. -/
def fingerprintWeight (cs : List Char) : UInt64 := cs.foldr (fun _ w => fingerprintBase * w) 1

/-- The fingerprints of a text and all its rests. -/
def fingerprints (cs : List Char) : List UInt64 :=
  cs.foldr (fun c hs => addToFingerprint c (hs.headD 0) :: hs) [0]

/-- For a text and its rests, as far as they are long enough, whether `needle` may be at their
start. -/
def hints (needle cs : List Char) : List Bool :=
  let n := fingerprint needle
  let w := fingerprintWeight needle
  let hs := fingerprints cs
  hs.zipWith (fun whole rest => whole == n + w * rest) (hs.drop needle.length)

/-! ## Laws -/

theorem fingerprint_append (needle cs : List Char) :
    fingerprint (needle ++ cs)
      = fingerprint needle + fingerprintWeight needle * fingerprint cs := by
  induction needle with
  | nil => simp [fingerprint, fingerprintWeight]
  | cons c needle ih =>
    simp only [fingerprint, fingerprintWeight, List.cons_append, List.foldr_cons] at ih ⊢
    rw [ih]
    simp only [addToFingerprint, UInt64.mul_add, UInt64.add_assoc, UInt64.mul_assoc]

theorem headD_fingerprints (cs : List Char) : (fingerprints cs).headD 0 = fingerprint cs := by
  induction cs with
  | nil => rfl
  | cons c cs ih => exact congrArg (addToFingerprint c) ih

theorem fingerprints_cons (c : Char) (cs : List Char) :
    fingerprints (c :: cs) = fingerprint (c :: cs) :: fingerprints cs :=
  congrArg (fun h => addToFingerprint c h :: fingerprints cs) (headD_fingerprints cs)

theorem exists_fingerprints_eq (cs : List Char) :
    ∃ hs, fingerprints cs = fingerprint cs :: hs := by
  cases cs with
  | nil => exact ⟨[], rfl⟩
  | cons c cs => exact ⟨_, fingerprints_cons c cs⟩

theorem drop_fingerprints_append (needle cs : List Char) :
    (fingerprints (needle ++ cs)).drop needle.length = fingerprints cs := by
  induction needle with
  | nil => rfl
  | cons c needle ih => simpa [fingerprints_cons] using ih

/-- The hints for the rest of a text are what follows the first hint. -/
@[simp] theorem tail_hints (needle : List Char) (c : Char) (cs : List Char) :
    (hints needle (c :: cs)).tail = hints needle cs := by
  simp [hints, List.tail_zipWith, List.tail_drop, fingerprints_cons]

theorem headD_hints_append (needle cs : List Char) :
    (hints needle (needle ++ cs)).headD false = true := by
  obtain ⟨hs, hwhole⟩ := exists_fingerprints_eq (needle ++ cs)
  obtain ⟨ts, hrest⟩ := exists_fingerprints_eq cs
  simp only [hints, drop_fingerprints_append]
  rw [hwhole, hrest]
  simp [fingerprint_append]

/-- Where there is no hint there is no occurrence. -/
@[simp] theorem hint_and_isPrefixOf (needle cs : List Char) :
    ((hints needle cs).headD false && needle.isPrefixOf cs) = needle.isPrefixOf cs := by
  rw [Bool.and_eq_right_iff_imp]
  intro h
  obtain ⟨rest, rfl⟩ := List.isPrefixOf_iff_prefix.1 h
  exact headD_hints_append needle rest

/-! ## Tests -/

example : fingerprint ['a', 'b'] = 97 + fingerprintBase * 98 := by decide
example : hints ['b'] ['a', 'b', 'c'] = [false, true, false] := by decide
example : hints [] [] = [true] := by decide
example : hints ['a', 'b'] ['a'] = [] := by decide

end Spreadsheet.Text
