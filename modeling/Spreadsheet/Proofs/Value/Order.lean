import Spreadsheet.Proofs.Value.Differences
import Spreadsheet.Value.Comparison

/-!
# The order of values

Two values that count numbers are ordered by these numbers, and all other pairs
by their texts.  Each of the two is an order in which any two things compare
(`order_of_numbers`, `order_of_not_number`), but together they are not: the text
`1.0` and the number 1 are equal, while the text `1-` comes between `1` and
`1.0` (`not_order_trans`).

Three values go wrong when two of them count numbers, the third counts none, and
it stands between the texts of the other two where their numbers say something
else.  Values among which there is no such case are *unmixed*, and the order is
transitive on them and on no others (`order_preorder`).
-/

namespace Spreadsheet.Value

open Spreadsheet.Text (lower)
open Std (ReflCmp TransCmp OrientedCmp)

/-! ## The two orders -/

/-- The code points of the text of a value in lower case. -/
def textKey (v : Value) : List Nat := (lower v.asText).toList.map Char.toNat

/-- The order of the texts of two values. -/
def orderAsTexts : Value → Value → Ordering := compareOn textKey

/-- The height of the number that a value counts. -/
def numberKey (v : Value) : List Int := height v.toNumber.toModel.unpack

/-- What tells values apart that count the same number.  The difference of two infinite numbers is
NaN, so their texts are looked at. -/
def tieKey (v : Value) : List Nat := if v.toNumber.isInf then v.textKey else []

/-- The order of the numbers that two values count. -/
def orderAsNumbers : Value → Value → Ordering :=
  compareLex (compareOn numberKey) (compareOn tieKey)

instance : TransCmp orderAsTexts := inferInstanceAs (TransCmp (compareOn textKey))

instance : TransCmp orderAsNumbers :=
  inferInstanceAs (TransCmp (compareLex (compareOn numberKey) (compareOn tieKey)))

instance : ReflCmp orderAsTexts := inferInstanceAs (ReflCmp (compareOn textKey))

instance : ReflCmp orderAsNumbers :=
  inferInstanceAs (ReflCmp (compareLex (compareOn numberKey) (compareOn tieKey)))

theorem orderTexts_eq_compare (as bs : List Char) :
    orderTexts as bs = Ord.compare (as.map Char.toNat) (bs.map Char.toNat) := by
  induction as generalizing bs with
  | nil => cases bs <;> rfl
  | cons a as ih =>
    cases bs with
    | nil => rfl
    | cons b bs =>
      rw [orderTexts, List.map_cons, List.map_cons, List.compare_cons_cons, ← ih]
      split
      next h => rw [Nat.compare_eq_lt.2 h]; rfl
      next h =>
        split
        next h' => rw [Nat.compare_eq_gt.2 h']; rfl
        next h' => rw [Nat.compare_eq_eq.2 (by omega)]; rfl

/-- The side of a difference decides, and the texts do where there is none. -/
theorem order_eq (v w : Value) :
    order v w = (side? (v.toNumber - w.toNumber).toModel.unpack).getD (orderAsTexts v w) := by
  have htexts : orderTexts (lower v.asText).toList (lower w.asText).toList = orderAsTexts v w :=
    orderTexts_eq_compare _ _
  simp only [order, isNaN_eq_isNone, lt_zero_iff, zero_lt_iff, htexts]
  cases side? (v.toNumber - w.toNumber).toModel.unpack with
  | none => rfl
  | some o => cases o <;> rfl

variable {t u v w : Value}

/-- Values are ordered as texts where one counts no number. -/
theorem order_of_not_number (h : v.toNumber.isNaN = true ∨ w.toNumber.isNaN = true) :
    order v w = orderAsTexts v w := by
  have hside : side? (v.toNumber - w.toNumber).toModel.unpack = none := by
    rw [← Option.isNone_iff_eq_none, ← isNaN_eq_isNone]
    exact isNaN_sub h
  rw [order_eq, hside, Option.getD_none]

/-- Values that count numbers are ordered as numbers. -/
theorem order_of_numbers (hv : v.toNumber.isNaN = false) (hw : w.toNumber.isNaN = false) :
    order v w = orderAsNumbers v w := by
  rw [order_eq, side?_difference hv hw, ← numberKey, ← numberKey]
  change _ = (Ord.compare v.numberKey w.numberKey).then (Ord.compare v.tieKey w.tieKey)
  by_cases heq : v.numberKey = w.numberKey
  · have hinf : w.toNumber.isInf = v.toNumber.isInf := by
      rw [Bool.eq_iff_iff, isInf_iff, isInf_iff]
      exact iff_of_eq (by rw [← numberKey, ← numberKey, heq])
    unfold tieKey
    rw [hinf, heq, Std.compare_self]
    cases v.toNumber.isInf with
    | true =>
      rw [if_pos ⟨rfl, rfl⟩]
      rfl
    | false =>
      rw [if_neg fun h => Bool.false_ne_true h.1]
      rfl
  · rw [if_neg fun h => heq h.2]
    cases hcompare : Ord.compare v.numberKey w.numberKey with
    | eq => exact absurd (Std.LawfulEqOrd.eq_of_compare hcompare) heq
    | lt | gt => rfl

theorem order_self (v : Value) : order v v = .eq := by
  cases hv : v.toNumber.isNaN with
  | true =>
    rw [order_of_not_number (.inl hv)]
    exact ReflCmp.compare_self
  | false =>
    rw [order_of_numbers hv hv]
    exact ReflCmp.compare_self

theorem order_swap (v w : Value) : order w v = (order v w).swap := by
  by_cases h : v.toNumber.isNaN = true ∨ w.toNumber.isNaN = true
  · rw [order_of_not_number h, order_of_not_number h.symm]
    exact OrientedCmp.eq_swap
  · rw [not_or, Bool.not_eq_true, Bool.not_eq_true] at h
    rw [order_of_numbers h.1 h.2, order_of_numbers h.2 h.1]
    exact OrientedCmp.eq_swap

/-! ## Where the two orders meet -/

/-- Values of which no two that count numbers have a third between their texts that counts none,
unless their numbers are ordered as their texts. -/
def Unmixed (vs : Set Value) : Prop :=
  ∀ t ∈ vs, ∀ v ∈ vs, ∀ w ∈ vs, t.toNumber.isNaN = true → v.toNumber.isNaN = false →
    w.toNumber.isNaN = false →
      order v w = orderAsTexts v w ∨ orderAsTexts t v = orderAsTexts t w ∧ orderAsTexts t v ≠ .eq

/-- The order is transitive on some values. -/
def OrderTransitive (vs : Set Value) : Prop :=
  ∀ u ∈ vs, ∀ v ∈ vs, ∀ w ∈ vs, order u v ≠ .gt → order v w ≠ .gt → order u w ≠ .gt

/-- Values that all count numbers are unmixed. -/
theorem unmixed_of_numbers {vs : Set Value} (h : ∀ v ∈ vs, v.toNumber.isNaN = false) :
    Unmixed vs := by
  intro t ht v _ w _ htn
  cases (h t ht).symm.trans htn

/-- Values of which at most one counts a number are unmixed. -/
theorem unmixed_of_texts {vs : Set Value}
    (h : ∀ v ∈ vs, ∀ w ∈ vs, v.toNumber.isNaN = false → w.toNumber.isNaN = false → v = w) :
    Unmixed vs := by
  intro t _ v hv w hw _ hvn hwn
  left
  rw [h v hv w hw hvn hwn, order_self]
  exact ReflCmp.compare_self.symm

theorem Unmixed.orderTransitive {vs : Set Value} (h : Unmixed vs) : OrderTransitive vs := by
  intro u hu v hv w hw huv hvw
  rw [ne_eq, ← Ordering.isLE_iff_ne_gt] at huv hvw ⊢
  have hswap {v w : Value} : orderAsTexts v w = (orderAsTexts w v).swap := OrientedCmp.eq_swap
  cases hun : u.toNumber.isNaN with
  | true =>
    rw [order_of_not_number (.inl hun)] at huv ⊢
    by_cases hnot : v.toNumber.isNaN = true ∨ w.toNumber.isNaN = true
    · rw [order_of_not_number hnot] at hvw
      exact TransCmp.isLE_trans huv hvw
    rw [not_or, Bool.not_eq_true, Bool.not_eq_true] at hnot
    obtain hsame | ⟨hsame, -⟩ := h u hu v hv w hw hun hnot.1 hnot.2
    · rw [hsame] at hvw
      exact TransCmp.isLE_trans huv hvw
    · rw [← hsame]
      exact huv
  | false =>
    cases hwn : w.toNumber.isNaN with
    | true =>
      rw [order_of_not_number (.inr hwn)] at hvw ⊢
      cases hvn : v.toNumber.isNaN with
      | true =>
        rw [order_of_not_number (.inr hvn)] at huv
        exact TransCmp.isLE_trans huv hvw
      | false =>
        obtain hsame | ⟨hsame, -⟩ := h w hw u hu v hv hwn hun hvn
        · rw [hsame] at huv
          exact TransCmp.isLE_trans huv hvw
        · rw [hswap, hsame, ← hswap]
          exact hvw
    | false =>
      cases hvn : v.toNumber.isNaN with
      | true =>
        rw [order_of_not_number (.inr hvn)] at huv
        rw [order_of_not_number (.inl hvn)] at hvw
        obtain hsame | ⟨hsame, hne⟩ := h v hv u hu w hw hvn hun hwn
        · rw [hsame]
          exact TransCmp.isLE_trans huv hvw
        · -- The text of the one in the middle is on the same side of both.
          rw [hswap] at huv
          rw [← hsame] at hvw
          generalize orderAsTexts v u = o at huv hvw hne
          cases o with
          | lt => cases huv
          | eq => exact absurd rfl hne
          | gt => cases hvw
      | false =>
        rw [order_of_numbers hun hvn] at huv
        rw [order_of_numbers hvn hwn] at hvw
        rw [order_of_numbers hun hwn]
        exact TransCmp.isLE_trans huv hvw

/-- How two things compare follows from a third unless it is before both or after both. -/
theorem compare_eq_then {α : Type} {f : α → α → Ordering} [TransCmp f] {a b c : α}
    (h : f b a = f b c → f b a = .eq) : f a c = (f a b).then (f b c) := by
  cases hab : f a b with
  | eq => exact TransCmp.congr_left hab
  | lt =>
    have hba : f b a = .gt := OrientedCmp.gt_iff_lt.2 hab
    apply TransCmp.lt_of_lt_of_isLE hab
    rw [Ordering.isLE_iff_ne_gt]
    intro hbc
    cases hba.symm.trans (h (hba.trans hbc.symm))
  | gt =>
    have hba : f b a = .lt := OrientedCmp.gt_iff_lt.1 hab
    apply OrientedCmp.gt_iff_lt.2
    apply TransCmp.lt_of_isLE_of_lt _ hba
    rw [Ordering.isLE_iff_ne_gt]
    intro hcb
    have hbc : f b c = .lt := OrientedCmp.gt_iff_lt.1 hcb
    cases hba.symm.trans (h (hba.trans hbc.symm))

theorem OrderTransitive.unmixed {vs : Set Value} (h : OrderTransitive vs) : Unmixed vs := by
  intro t ht v hv w hw htn hvn hwn
  let orderOn (a b : vs) : Ordering := order a b
  have : TransCmp orderOn := {
    eq_swap := order_swap _ _
    isLE_trans := by
      intro a b c hab hbc
      rw [Ordering.isLE_iff_ne_gt] at hab hbc ⊢
      exact h a a.2 b b.2 c c.2 hab hbc }
  by_cases hside : orderAsTexts t v = orderAsTexts t w → orderAsTexts t v = .eq
  · have hnumbers := compare_eq_then (f := orderOn) (a := ⟨v, hv⟩) (b := ⟨t, ht⟩) (c := ⟨w, hw⟩)
    simp only [orderOn, order_of_not_number (.inl htn), order_of_not_number (.inr htn)] at hnumbers
    left
    rw [hnumbers hside, compare_eq_then hside]
  · rw [Classical.not_imp] at hside
    exact .inr hside

/-- The order takes every value to equal itself and turns around with its sides, and it is
transitive just on unmixed values. -/
theorem order_preorder (vs : Set Value) :
    (∀ v, order v v = .eq) ∧ (∀ v w, order w v = (order v w).swap) ∧
      (OrderTransitive vs ↔ Unmixed vs) :=
  ⟨order_self, order_swap, OrderTransitive.unmixed, Unmixed.orderTransitive⟩

/-- The number 1 equals the text `1.0`, and the text `1-` is above the one and below the other. -/
theorem not_order_trans : ¬ OrderTransitive Set.univ := by
  intro h
  have hgt : order (.text "1.0") (.text "1-") = .gt := by decide +kernel
  refine h (.text "1.0") trivial (.number 1.0) trivial (.text "1-") trivial ?_ ?_ hgt
  · decide +kernel
  · decide +kernel

end Spreadsheet.Value
