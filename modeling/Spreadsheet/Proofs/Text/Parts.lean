import Mathlib.Data.List.Induction
import Mathlib.Order.Bounds.Basic
import Spreadsheet.Proofs.Text.Occurrences

/-!
# Texts cut at occurrences

A scan looks for a text from the left, goes on behind each occurrence, and leaves a
text cut into parts (`Scan`): one before each occurrence, and the rest.  Every text
is cut in one way (`exists_scan`, `Scan.unique`).

That an occurrence is the first one depends on what stands before it only
(`isLeast_iff_endsFirst`), so an occurrence can be replaced, and anything behind it,
without a change to those before (`replaceNth_joined`).  Hence replacing the
occurrences one by one, the last one first, replaces all of them, even where the
replacement makes new ones (`Scan.inTurn_eq_replaceAll`).
-/

namespace Spreadsheet.Text

variable {old new part t rest : List Char} {parts parts' : List (List Char)} {n : Nat}

/-! ## Joined parts -/

/-- Parts with a text behind each, and then the rest. -/
def joined (sep : List Char) (parts : List (List Char)) (rest : List Char) : List Char :=
  parts.foldr (fun part t => part ++ sep ++ t) rest

@[simp] theorem joined_nil (sep rest : List Char) : joined sep [] rest = rest := rfl

@[simp] theorem joined_cons (sep part : List Char) (parts : List (List Char)) (rest : List Char) :
    joined sep (part :: parts) rest = part ++ sep ++ joined sep parts rest := rfl

@[simp] theorem joined_append (sep : List Char) (parts parts' : List (List Char))
    (rest : List Char) :
    joined sep (parts ++ parts') rest = joined sep parts (joined sep parts' rest) :=
  List.foldr_append

theorem joined_inj {sep t t' : List Char} (parts : List (List Char)) :
    joined sep parts t = joined sep parts t' ↔ t = t' := by
  induction parts with
  | nil => rfl
  | cons part parts ih => rw [joined_cons, joined_cons, List.append_cancel_left_eq, ih]

/-! ## Scans -/

/-- A scan from the left for a text that cuts another one into the parts before its occurrences and
the rest. -/
inductive Scan (old : List Char) : List Char → List (List Char) → List Char → Prop
  /-- The text does not occur. -/
  | nothing {t : List Char} (h : ∀ p, ¬ OccursAt old t p) : Scan old t [] t
  /-- The text occurs first behind a part, and the scan goes on behind it. -/
  | found {part t rest : List Char} {parts : List (List Char)}
    (h : IsLeast {p | OccursAt old (part ++ old ++ t) p} (part.length + 1))
    (ht : Scan old t parts rest) : Scan old (part ++ old ++ t) (part :: parts) rest

/-- What is found stands between two parts, and it is the first occurrence. -/
theorem exists_of_position? {i : Nat} (h : position? old t = some i) :
    ∃ part behind, t = part ++ old ++ behind ∧
      IsLeast {p | OccursAt old t p} (part.length + 1) := by
  have hleast : IsLeast {p | 1 ≤ p ∧ OccursAt old t p} (1 + i) :=
    isLeast_of_position? le_rfl (by simpa using h)
  have hend := add_length_le_of_position? h
  obtain ⟨behind, hbehind⟩ : old <+: t.drop i := by simpa [Nat.add_comm 1 i] using hleast.1.2.2
  refine ⟨t.take i, behind, ?_, ?_⟩
  · rw [List.append_assoc, hbehind, List.take_append_drop]
  · rw [List.length_take, Nat.min_eq_left (by omega), Nat.add_comm]
    exact ⟨hleast.1.2, fun p hp => hleast.2 ⟨hp.1, hp⟩⟩

/-- Every text can be scanned for one that is not empty. -/
theorem exists_scan (hold : old ≠ []) (t : List Char) : ∃ parts rest, Scan old t parts rest := by
  induction hn : t.length using Nat.strong_induction_on generalizing t with
  | _ n ih =>
    cases hfound : position? old t with
    | none =>
      refine ⟨[], t, .nothing fun p h => ?_⟩
      exact not_occursAt_of_position? (k := 1) le_rfl (by simpa using hfound) h.1 h
    | some i =>
      obtain ⟨part, behind, rfl, hfirst⟩ := exists_of_position? hfound
      have hpositive := List.length_pos_iff.2 hold
      rw [List.length_append, List.length_append] at hn
      obtain ⟨parts, rest, hrest⟩ := ih behind.length (by omega) behind rfl
      exact ⟨part :: parts, rest, .found hfirst hrest⟩

/-- A scan comes to the same parts and the same rest in any case. -/
theorem Scan.unique {rest' : List Char} (h : Scan old t parts rest) (h' : Scan old t parts' rest') :
    parts = parts' ∧ rest = rest' := by
  induction h generalizing parts' with
  | nothing h =>
    cases h' with
    | nothing h' => exact ⟨rfl, rfl⟩
    | found hleast ht => exact absurd hleast.1 (h _)
  | @found part t rest parts hleast ht ih =>
    generalize htext : part ++ old ++ t = text at h' hleast
    cases h' with
    | nothing h' => exact absurd hleast.1 (h' _)
    | @found part' t' rest' parts' hleast' ht' =>
      have hlength : part.length = part'.length := Nat.succ_inj.1 (hleast.unique hleast')
      rw [List.append_assoc, List.append_assoc] at htext
      obtain ⟨rfl, hbehind⟩ := List.append_inj htext hlength
      obtain rfl := List.append_cancel_left hbehind
      obtain ⟨rfl, rfl⟩ := ih ht'
      exact ⟨rfl, rfl⟩

/-! ## First occurrences -/

/-- A text occurs behind a part, and nowhere before. -/
def EndsFirst (old part : List Char) : Prop :=
  ∀ i < part.length, ¬ old <+: (part ++ old).drop i

instance (old part : List Char) : Decidable (EndsFirst old part) :=
  inferInstanceAs (Decidable (∀ i < part.length, ¬ old <+: (part ++ old).drop i))

/-- Before the end of a part an occurrence does not reach beyond the one behind the part. -/
theorem prefix_drop_iff {i : Nat} (hi : i < part.length) (t : List Char) :
    old <+: (part ++ old ++ t).drop i ↔ old <+: (part ++ old).drop i := by
  rw [List.drop_append_of_le_length (by rw [List.length_append]; omega)]
  refine ⟨fun h => ?_, fun h => h.trans (List.prefix_append _ _)⟩
  refine List.prefix_of_prefix_length_le h (List.prefix_append _ _) ?_
  rw [List.length_drop, List.length_append]
  omega

theorem EndsFirst.of_cons {c : Char} (h : EndsFirst old (c :: part)) : EndsFirst old part :=
  fun i hi => h (i + 1) (Nat.succ_lt_succ hi)

theorem EndsFirst.not_here {c : Char} (h : EndsFirst old (c :: part)) (t : List Char) :
    ¬ old <+: c :: (part ++ old ++ t) := by
  have hfirst : 0 < (c :: part).length := Nat.zero_lt_succ _
  exact fun hprefix => h 0 hfirst ((prefix_drop_iff hfirst t).1 hprefix)

/-- An occurrence is the first one, whatever comes behind it. -/
theorem isLeast_iff_endsFirst (t : List Char) :
    IsLeast {p | OccursAt old (part ++ old ++ t) p} (part.length + 1) ↔ EndsFirst old part := by
  constructor
  · intro h i hi hprefix
    have hle := h.2 ⟨Nat.le_add_left 1 i, (prefix_drop_iff hi t).2 hprefix⟩
    omega
  · intro h
    refine ⟨⟨Nat.le_add_left 1 _, ?_⟩, fun p hp => ?_⟩
    · rw [Nat.add_sub_cancel, List.append_assoc, List.drop_left]
      exact List.prefix_append old t
    · by_contra hlt
      obtain ⟨hlow, hprefix⟩ := hp
      have hi : p - 1 < part.length := by omega
      exact h (p - 1) hi ((prefix_drop_iff hi t).1 hprefix)

theorem Scan.endsFirst (h : Scan old t parts rest) : ∀ part ∈ parts, EndsFirst old part := by
  induction h with
  | nothing h => exact nofun
  | found hleast ht ih =>
    exact List.forall_mem_cons.2 ⟨(isLeast_iff_endsFirst _).1 hleast, ih⟩

/-- A text is made of the parts and the rest. -/
theorem Scan.eq_joined (h : Scan old t parts rest) : t = joined old parts rest := by
  induction h with
  | nothing h => rfl
  | found hleast ht ih => rw [joined_cons, ← ih]

/-! ## Numbered occurrences -/

theorem nthPosition?_skip (us t : List Char) :
    nthPosition? old us.length n (us ++ t) = (nthPosition? old 0 n t).map (· + us.length) := by
  induction us with
  | nil => simp
  | cons c us ih =>
    rw [List.cons_append, List.length_cons, nthPosition?_succ, ih, Option.map_map]
    rfl

/-- Where a text does not begin, it is looked for further on. -/
theorem nthPosition?_of_later {c : Char} {cs : List Char} (h : ¬ old <+: c :: cs) :
    nthPosition? old 0 n (c :: cs) = (nthPosition? old 0 n cs).map (· + 1) := by
  rw [← List.isPrefixOf_iff_prefix] at h
  cases n with
  | zero => rw [nthPosition?_zero_zero, if_neg h]
  | succ n => rw [nthPosition?_zero_succ, if_neg h]

/-- A text that does not occur neither begins nor occurs further on. -/
theorem not_occursAt_cons {c : Char} {cs : List Char} (h : ∀ p, ¬ OccursAt old (c :: cs) p) :
    ¬ old <+: c :: cs ∧ ∀ p, ¬ OccursAt old cs p := by
  refine ⟨fun hprefix => h 1 ⟨le_rfl, hprefix⟩, fun p hp => h (p + 1) ⟨Nat.le_add_left 1 p, ?_⟩⟩
  rw [Nat.add_sub_cancel, ← Nat.sub_add_cancel hp.1, List.drop_succ_cons]
  exact hp.2

theorem nthPosition?_nothing (h : ∀ p, ¬ OccursAt old t p) : nthPosition? old 0 n t = none := by
  induction t with
  | nil => rfl
  | cons c cs ih =>
    obtain ⟨hhere, hlater⟩ := not_occursAt_cons h
    rw [nthPosition?_of_later hhere, ih hlater]
    rfl

/-- A text that is not empty begins what it stands in front of. -/
theorem isPrefixOf_cons_append (c : Char) (cs t : List Char) :
    (c :: cs).isPrefixOf (c :: (cs ++ t)) = true :=
  List.isPrefixOf_iff_prefix.2 (List.prefix_append (c :: cs) t)

/-- The first occurrence is the one that ends a part first. -/
theorem nthPosition?_zero_found (hold : old ≠ []) (h : EndsFirst old part) (t : List Char) :
    nthPosition? old 0 0 (part ++ old ++ t) = some part.length := by
  induction part with
  | nil =>
    obtain ⟨c, cs, rfl⟩ := List.exists_cons_of_ne_nil hold
    rw [List.nil_append, List.cons_append, nthPosition?_zero_zero,
      if_pos (isPrefixOf_cons_append c cs t)]
    rfl
  | cons c part ih =>
    rw [List.cons_append, List.cons_append, nthPosition?_of_later (h.not_here t),
      ih h.of_cons]
    rfl

/-- The other occurrences are those behind the first one. -/
theorem nthPosition?_succ_found (hold : old ≠ []) (h : EndsFirst old part) (t : List Char) :
    nthPosition? old 0 (n + 1) (part ++ old ++ t) =
      (nthPosition? old 0 n t).map (· + (part.length + old.length)) := by
  induction part with
  | nil =>
    obtain ⟨c, cs, rfl⟩ := List.exists_cons_of_ne_nil hold
    rw [List.nil_append, List.cons_append, nthPosition?_zero_succ,
      if_pos (isPrefixOf_cons_append c cs t), List.length_cons, Nat.add_sub_cancel,
      nthPosition?_skip, Option.map_map]
    congr 1
    funext i
    simp [Nat.add_assoc]
  | cons c part ih =>
    rw [List.cons_append, List.cons_append, nthPosition?_of_later (h.not_here t),
      ih h.of_cons, Option.map_map]
    congr 1
    funext i
    simp only [Function.comp_apply, List.length_cons]
    omega

/-! ## Replacing one occurrence -/

/-- A text with the occurrence replaced that `n` others precede, if there is one. -/
def replaceNth (old new : List Char) (n : Nat) (t : List Char) : List Char :=
  match nthPosition? old 0 n t with
  | some i => t.take i ++ new ++ t.drop (i + old.length)
  | none => t

theorem replaceNth_zero_found (hold : old ≠ []) (h : EndsFirst old part) (t : List Char) :
    replaceNth old new 0 (part ++ old ++ t) = part ++ new ++ t := by
  rw [replaceNth, nthPosition?_zero_found hold h]
  have htake : (part ++ old ++ t).take part.length = part := by
    rw [List.append_assoc, List.take_left]
  have hdrop : (part ++ old ++ t).drop (part.length + old.length) = t := by
    rw [← List.length_append, List.drop_left]
  simp only [htake, hdrop]

theorem replaceNth_succ_found (hold : old ≠ []) (h : EndsFirst old part) (t : List Char) :
    replaceNth old new (n + 1) (part ++ old ++ t) = part ++ old ++ replaceNth old new n t := by
  rw [replaceNth, nthPosition?_succ_found hold h, replaceNth]
  cases nthPosition? old 0 n t with
  | none => rfl
  | some i =>
    have hposition : i + (part.length + old.length) = (part ++ old).length + i := by
      rw [List.length_append, Nat.add_comm]
    have hend : (part ++ old).length + i + old.length = (part ++ old).length + (i + old.length) :=
      Nat.add_assoc _ _ _
    simp only [Option.map_some, hposition, hend, List.take_length_add_append,
      List.drop_length_add_append]
    simp only [List.append_assoc]

theorem replaceNth_nothing (h : ∀ p, ¬ OccursAt old t p) : replaceNth old new n t = t := by
  rw [replaceNth, nthPosition?_nothing h]

/-- The occurrence behind some parts is replaced, whatever comes behind it. -/
theorem replaceNth_joined (hold : old ≠ []) (hparts : ∀ part ∈ parts, EndsFirst old part)
    (hpart : EndsFirst old part) (t : List Char) :
    replaceNth old new parts.length (joined old parts (part ++ old ++ t)) =
      joined old parts (part ++ new ++ t) := by
  induction parts with
  | nil => exact replaceNth_zero_found hold hpart t
  | cons first parts ih =>
    obtain ⟨hfirst, hparts⟩ := List.forall_mem_cons.1 hparts
    rw [List.length_cons, joined_cons, replaceNth_succ_found hold hfirst, ih hparts, joined_cons]

/-- The occurrence between two parts is replaced by its number. -/
theorem Scan.replaceNth_eq (hold : old ≠ []) (h : Scan old t (parts ++ part :: parts') rest) :
    t = joined old parts (part ++ old ++ joined old parts' rest) ∧
      replaceNth old new parts.length t =
        joined old parts (part ++ new ++ joined old parts' rest) := by
  have heq := h.eq_joined
  rw [joined_append, joined_cons] at heq
  obtain ⟨hparts, hrest⟩ := List.forall_mem_append.1 h.endsFirst
  refine ⟨heq, ?_⟩
  conv_lhs => rw [heq]
  exact replaceNth_joined hold hparts (List.forall_mem_cons.1 hrest).1 _

/-- Without so many occurrences nothing is replaced. -/
theorem Scan.replaceNth_of_le (hold : old ≠ []) (h : Scan old t parts rest)
    (hn : parts.length ≤ n) : replaceNth old new n t = t := by
  induction h generalizing n with
  | nothing h => exact replaceNth_nothing h
  | found hleast ht ih =>
    obtain ⟨n, rfl⟩ := Nat.exists_eq_add_of_le' (Nat.one_le_of_lt hn)
    rw [replaceNth_succ_found hold ((isLeast_iff_endsFirst _).1 hleast),
      ih (Nat.le_of_succ_le_succ hn)]

/-- A text stays as it is just when there are not so many occurrences, or when one is replaced by
itself. -/
theorem Scan.replaceNth_eq_self_iff (hold : old ≠ []) (h : Scan old t parts rest) :
    replaceNth old new n t = t ↔ parts.length ≤ n ∨ new = old := by
  obtain hle | hlt := le_or_gt parts.length n
  · exact iff_of_true (h.replaceNth_of_le hold hle) (.inl hle)
  · have hparts : parts = parts.take n ++ parts[n] :: parts.drop (n + 1) := by
      rw [← List.drop_eq_getElem_cons hlt, List.take_append_drop]
    have hlength : (parts.take n).length = n := by
      rw [List.length_take, Nat.min_eq_left hlt.le]
    rw [hparts] at h
    obtain ⟨heq, hreplaced⟩ := h.replaceNth_eq hold
    rw [hlength] at hreplaced
    rw [hreplaced, heq, joined_inj, List.append_left_inj, List.append_right_inj]
    exact (or_iff_right (Nat.not_le.2 hlt)).symm

/-! ## Replacing all occurrences -/

theorem replaceAll_skip (us t : List Char) :
    replaceAll old new us.length (us ++ t) = replaceAll old new 0 t := by
  induction us with
  | nil => rfl
  | cons c us ih => rw [List.cons_append, List.length_cons, replaceAll_succ, ih]

theorem replaceAll_of_later {c : Char} {cs : List Char} (h : ¬ old <+: c :: cs) :
    replaceAll old new 0 (c :: cs) = c :: replaceAll old new 0 cs := by
  rw [← List.isPrefixOf_iff_prefix] at h
  rw [replaceAll_zero, if_neg h]

theorem replaceAll_found (hold : old ≠ []) (h : EndsFirst old part) (t : List Char) :
    replaceAll old new 0 (part ++ old ++ t) = part ++ new ++ replaceAll old new 0 t := by
  induction part with
  | nil =>
    obtain ⟨c, cs, rfl⟩ := List.exists_cons_of_ne_nil hold
    rw [List.nil_append, List.cons_append, replaceAll_zero,
      if_pos (isPrefixOf_cons_append c cs t), List.length_cons, Nat.add_sub_cancel,
      replaceAll_skip, List.nil_append]
  | cons c part ih =>
    rw [List.cons_append, List.cons_append, replaceAll_of_later (h.not_here t),
      ih h.of_cons]
    rfl

theorem replaceAll_nothing (h : ∀ p, ¬ OccursAt old t p) : replaceAll old new 0 t = t := by
  induction t with
  | nil => rfl
  | cons c cs ih =>
    obtain ⟨hhere, hlater⟩ := not_occursAt_cons h
    rw [replaceAll_of_later hhere, ih hlater]

/-- Every occurrence is replaced. -/
theorem Scan.replaceAll_eq (hold : old ≠ []) (h : Scan old t parts rest) :
    replaceAll old new 0 t = joined new parts rest := by
  induction h with
  | nothing h => exact replaceAll_nothing h
  | found hleast ht ih =>
    rw [replaceAll_found hold ((isLeast_iff_endsFirst _).1 hleast), ih, joined_cons]

/-- A text with one occurrence after the other replaced, beginning with the one that `n - 1` others
precede and ending with the first one. -/
def inTurn (old new : List Char) : Nat → List Char → List Char
  | 0, t => t
  | n + 1, t => inTurn old new n (replaceNth old new n t)

/-- Occurrences that are replaced in turn leave those before as they were. -/
theorem inTurn_joined (hold : old ≠ []) (hparts : ∀ part ∈ parts, EndsFirst old part)
    (t : List Char) : inTurn old new parts.length (joined old parts t) = joined new parts t := by
  induction parts using List.reverseRecOn generalizing t with
  | nil => rfl
  | append_singleton parts part ih =>
    rw [List.forall_mem_append, List.forall_mem_singleton] at hparts
    rw [List.length_append, List.length_singleton, inTurn, joined_append, joined_cons, joined_nil,
      replaceNth_joined hold hparts.1 hparts.2, ih hparts.1, joined_append, joined_cons, joined_nil]

/-- To replace all occurrences in turn is to replace all of them. -/
theorem Scan.inTurn_eq_replaceAll (hold : old ≠ []) (h : Scan old t parts rest) :
    inTurn old new parts.length t = replaceAll old new 0 t := by
  rw [h.replaceAll_eq hold]
  conv_lhs => rw [h.eq_joined]
  exact inTurn_joined hold h.endsFirst rest

end Spreadsheet.Text
