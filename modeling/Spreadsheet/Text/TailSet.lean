/-!
# Sets of tails

A list of `n` entries has `n + 1` *tails*, from the whole list to the empty
one.  A set of them is held in the bits of a number.  Bit `i` stands for the
tail that leaves out the first `i` entries.

A matcher that goes through a text keeps the set of the tails of its pattern
that fit what it has seen.  The operations on such a set are those on numbers,
so a step for all tails of a long pattern takes one pass over a few machine
words, and a repetitive pattern in a repetitive text is no harder than another.

The laws say which tails a set `has`.  A set is determined by them (`ext_has`).
-/

namespace Spreadsheet.Text

/-- A set of tails of a list. -/
structure TailSet where
  /-- The members, as the bits of a number. -/
  bits : Nat
deriving DecidableEq, Repr

namespace TailSet

variable {α : Type}

/-- The set without members. -/
def empty : TailSet := ⟨0⟩

/-- The tails of a list that pass a test. -/
def ofTest (test : List α → Bool) : List α → TailSet
  | [] => ⟨(test []).toNat⟩
  | a :: l => ⟨2 * (ofTest test l).bits + (test (a :: l)).toNat⟩

/-- The members of either set.  An empty set leaves the other one as it is. -/
def union (s t : TailSet) : TailSet :=
  if t.bits = 0 then s else if s.bits = 0 then t else ⟨s.bits ||| t.bits⟩

/-- The members of both sets. -/
def inter (s t : TailSet) : TailSet := ⟨s.bits &&& t.bits⟩

/-- The tails that are one entry longer than a member. -/
def extend (s : TailSet) : TailSet := ⟨s.bits >>> 1⟩

/-- The tails that are one entry shorter than a member. -/
def shorten (s : TailSet) : TailSet := ⟨s.bits <<< 1⟩

/-- Whether the tail without the first `i` entries is a member. -/
def has (s : TailSet) (i : Nat) : Bool := s.bits.testBit i

/-- Whether the whole list is a member. -/
def hasWhole (s : TailSet) : Bool := 1 &&& s.bits = 1

/-! ## Members -/

theorem ext_has {s t : TailSet} (h : ∀ i, s.has i = t.has i) : s = t := by
  cases s
  cases t
  exact congrArg TailSet.mk (Nat.eq_of_testBit_eq h)

@[simp] theorem has_empty (i : Nat) : empty.has i = false := Nat.zero_testBit i

@[simp] theorem has_union (s t : TailSet) (i : Nat) :
    (s.union t).has i = (s.has i || t.has i) := by
  by_cases ht : t.bits = 0
  · simp [union, has, ht]
  · by_cases hs : s.bits = 0
    · simp [union, has, hs, ht]
    · simp [union, has, hs, ht, Nat.testBit_or]

@[simp] theorem has_inter (s t : TailSet) (i : Nat) :
    (s.inter t).has i = (s.has i && t.has i) := Nat.testBit_and ..

@[simp] theorem has_extend (s : TailSet) (i : Nat) : s.extend.has i = s.has (i + 1) := by
  simp [has, extend, Nat.testBit_shiftRight, Nat.add_comm]

@[simp] theorem has_shorten (s : TailSet) (i : Nat) : s.shorten.has (i + 1) = s.has i := by
  simp [has, shorten, Nat.testBit_shiftLeft]

/-- To extend members and keep some, it is enough to extend those. -/
theorem extend_inter_shorten (s t : TailSet) : (s.shorten.inter t).extend = s.inter t.extend :=
  ext_has fun i => by simp

theorem hasWhole_eq (s : TailSet) : s.hasWhole = s.has 0 := by
  simp [hasWhole, has, Nat.testBit_zero, Nat.one_and_eq_mod_two]

theorem has_ofTest (test : List α → Bool) (l : List α) (i : Nat) :
    (ofTest test l).has i = (decide (i ≤ l.length) && test (l.drop i)) := by
  induction l generalizing i with
  | nil =>
    cases i with
    | zero => cases h : test [] <;> simp [has, ofTest, h]
    | succ i => cases h : test [] <;> simp [has, ofTest, h, Nat.testBit_succ]
  | cons a l ih =>
    cases i with
    | zero => cases h : test (a :: l) <;> simp [has, ofTest, h]
    | succ i =>
      have hdiv :
          (2 * (ofTest test l).bits + (test (a :: l)).toNat) / 2 = (ofTest test l).bits := by
        have hle := Bool.toNat_le (test (a :: l))
        omega
      simpa [has, ofTest, Nat.testBit_succ, hdiv] using ih i

@[simp] theorem hasWhole_ofTest (test : List α → Bool) (l : List α) :
    (ofTest test l).hasWhole = test l := by
  simp [hasWhole_eq, has_ofTest]

/-! ## Sets given by tests -/

theorem ofTest_congr {f g : List α → Bool} {l : List α} (h : ∀ t, t <:+ l → f t = g t) :
    ofTest f l = ofTest g l :=
  ext_has fun i => by rw [has_ofTest, has_ofTest, h _ (List.drop_suffix i l)]

theorem ofTest_false (l : List α) : ofTest (fun _ => false) l = empty :=
  ext_has fun i => by simp [has_ofTest]

theorem union_ofTest (f g : List α → Bool) (l : List α) :
    (ofTest f l).union (ofTest g l) = ofTest (fun t => f t || g t) l :=
  ext_has fun i => by simp [has_ofTest, Bool.and_or_distrib_left]

theorem inter_ofTest (f g : List α → Bool) (l : List α) :
    (ofTest f l).inter (ofTest g l) = ofTest (fun t => f t && g t) l :=
  ext_has fun i => by
    cases hi : decide (i ≤ l.length) <;> simp [has_ofTest, hi]

theorem extend_ofTest (f : List α → Bool) (l : List α) :
    (ofTest f l).extend = ofTest (fun t => !t.isEmpty && f t.tail) l :=
  ext_has fun i => by
    by_cases hi : i + 1 ≤ l.length
    · have hne : ¬ l.length ≤ i := by omega
      simp [has_ofTest, hi, Nat.le_of_succ_le hi, hne]
    · have hle : l.length ≤ i := by omega
      simp [has_ofTest, hi, hle]

/-! ## Families -/

/-- The sets of a family for the characters of a text, each computed once. -/
def family (f : Char → TailSet) (cs : List Char) : List (Char × TailSet) :=
  cs.eraseDups.map fun c => (c, f c)

/-- The set of a family for a character, taken from those that are computed if it is there. -/
def member (f : Char → TailSet) (known : List (Char × TailSet)) (c : Char) : TailSet :=
  match known.lookup c with
  | some s => s
  | none => f c

theorem member_map (f : Char → TailSet) (cs : List Char) (c : Char) :
    member f (cs.map fun c => (c, f c)) c = f c := by
  induction cs with
  | nil => rfl
  | cons a cs ih =>
    by_cases h : c = a
    · simp [member, h]
    · have hne : (c == a) = false := by simpa using h
      simpa [member, List.lookup_cons, hne] using ih

/-- What is computed is what the family has. -/
@[simp] theorem member_family (f : Char → TailSet) (cs : List Char) :
    member f (family f cs) = f :=
  funext (member_map f cs.eraseDups)

/-! ## Tests -/

example : ofTest (fun l => l.head? = some 'a') ['a', 'b', 'a'] = ⟨5⟩ := by decide
example : (TailSet.mk 4).extend.has 1 = true := by decide
example : (ofTest List.isEmpty ['a', 'b']).hasWhole = false := by decide

end TailSet

end Spreadsheet.Text
