import Spreadsheet.Proofs.Functions.Criteria
import Spreadsheet.Value.Lookup

/-!
# What wildcards stand for

A pattern covers a text that can be cut into pieces, one for each character of
the pattern: any single character but a line break for `?`, any characters but
line breaks for `*`, and a character with the same folding for every other one
(`Covered`).  There may be many ways to cut a text, and the matcher does not try
them one by one.  It finds a match just when there is one (`accepts_iff_covered`).

So do criteria and exact searches, which use a text with wildcards as a pattern
(`wholePattern_covered`).
-/

namespace Spreadsheet.Text.Glob

/-- A piece of a text is what a character of a pattern stands for. -/
inductive StandsFor : Char → List Char → Prop where
  /-- Any one character but a line break. -/
  | one {c : Char} (h : c ≠ '\n') : StandsFor '?' [c]
  /-- Any characters but line breaks. -/
  | many {run : List Char} (h : '\n' ∉ run) : StandsFor '*' run
  /-- A character that is the same apart from case. -/
  | letter {a c : Char} (hone : a ≠ '?') (hmany : a ≠ '*') (h : fold a = fold c) :
    StandsFor a [c]

/-- A text can be cut into consecutive pieces, one for each character of a pattern. -/
def Covered (pattern text : List Char) : Prop :=
  ∃ cuts : List (List Char), cuts.flatten = text ∧ List.Forall₂ StandsFor pattern cuts

/-! ## Cutting -/

section

variable {a : Char} {pattern text : List Char}

theorem covered_nil : Covered [] text ↔ text = [] := by
  constructor
  · rintro ⟨cuts, rfl, hcuts⟩
    cases hcuts
    rfl
  · rintro rfl
    exact ⟨[], rfl, .nil⟩

/-- The first character of a pattern stands for a piece at the start of the text. -/
theorem covered_cons :
    Covered (a :: pattern) text ↔
      ∃ piece rest, piece ++ rest = text ∧ StandsFor a piece ∧ Covered pattern rest := by
  constructor
  · rintro ⟨_, rfl, _ | ⟨hpiece, hcuts⟩⟩
    exact ⟨_, _, rfl, hpiece, _, rfl, hcuts⟩
  · rintro ⟨piece, _, rfl, hpiece, cuts, rfl, hcuts⟩
    exact ⟨piece :: cuts, rfl, .cons hpiece hcuts⟩

/-- A test is passed behind a run without line breaks just when it is passed behind one of those
that the text starts with. -/
theorem acceptsAfterRun_iff {test : List Char → Bool} {cs : List Char} :
    acceptsAfterRun test cs = true ↔
      ∃ run rest, run ++ rest = cs ∧ '\n' ∉ run ∧ test rest = true := by
  induction cs with
  | nil =>
    constructor
    · exact fun h => ⟨[], [], rfl, List.not_mem_nil, h⟩
    · rintro ⟨run, rest, happend, -, h⟩
      obtain ⟨rfl, rfl⟩ := List.append_eq_nil_iff.1 happend
      exact h
  | cons c cs ih =>
    rw [acceptsAfterRun, Bool.or_eq_true, Bool.and_eq_true, decide_eq_true_eq, ih]
    constructor
    · rintro (h | ⟨hc, run, rest, rfl, hrun, h⟩)
      · exact ⟨[], c :: cs, rfl, List.not_mem_nil, h⟩
      · exact ⟨c :: run, rest, rfl, List.not_mem_cons_of_ne_of_not_mem hc.symm hrun, h⟩
    · rintro ⟨run, rest, happend, hrun, h⟩
      cases run with
      | nil =>
        obtain rfl : rest = c :: cs := happend
        exact .inl h
      | cons d run =>
        obtain ⟨rfl, rfl⟩ := List.cons.inj happend
        have hd : d ≠ '\n' := List.ne_of_not_mem_cons hrun |>.symm
        exact .inr ⟨hd, run, rest, rfl, List.not_mem_of_not_mem_cons hrun, h⟩

/-- The piece that a character of a pattern text is. -/
def pieceOf (c : Char) : Piece :=
  if c = '?' then .one else if c = '*' then .many else .letter c

/-- The matcher accepts the texts that the pattern covers. -/
theorem accepts_iff_covered (pattern cs : List Char) :
    accepts false (pattern.map pieceOf) cs = true ↔ Covered pattern cs := by
  induction pattern generalizing cs with
  | nil =>
    rw [List.map_nil, accepts_nil, Bool.false_or, List.isEmpty_iff, covered_nil]
  | cons a pattern ih =>
    rw [List.map_cons, covered_cons]
    by_cases hone : a = '?'
    · subst hone
      change accepts false (.one :: _) cs = true ↔ _
      constructor
      · intro h
        cases cs with
        | nil => cases h
        | cons c cs =>
          rw [accepts_one_cons, Bool.and_eq_true, decide_eq_true_eq, ih] at h
          exact ⟨[c], cs, rfl, .one h.1, h.2⟩
      · rintro ⟨_, rest, rfl, hpiece, hrest⟩
        cases hpiece with
        | one hc =>
          rw [List.singleton_append, accepts_one_cons, Bool.and_eq_true, decide_eq_true_eq, ih]
          exact ⟨hc, hrest⟩
        | letter hne => exact absurd rfl hne
    by_cases hmany : a = '*'
    · subst hmany
      change acceptsAfterRun (accepts false (pattern.map pieceOf)) cs = true ↔ _
      rw [acceptsAfterRun_iff]
      refine exists_congr fun run => exists_congr fun rest => and_congr_right fun _ => ?_
      rw [ih]
      refine and_congr_left fun _ => ⟨.many, fun h => ?_⟩
      cases h with
      | many hrun => exact hrun
      | letter _ hne => exact absurd rfl hne
    · have hpiece : pieceOf a = .letter a := by rw [pieceOf, if_neg hone, if_neg hmany]
      rw [hpiece]
      constructor
      · intro h
        cases cs with
        | nil => cases h
        | cons c cs =>
          rw [accepts_letter_cons, Bool.and_eq_true, sameLetter, beq_iff_eq, ih] at h
          exact ⟨[c], cs, rfl, .letter hone hmany h.1, h.2⟩
      · rintro ⟨_, rest, rfl, hstands, hrest⟩
        cases hstands with
        | one => exact absurd rfl hone
        | many => exact absurd rfl hmany
        | letter _ _ hfold =>
          rw [List.singleton_append, accepts_letter_cons, Bool.and_eq_true, sameLetter, beq_iff_eq,
            ih]
          exact ⟨hfold, hrest⟩

instance (pattern text : List Char) : Decidable (Covered pattern text) :=
  decidable_of_iff _ (accepts_iff_covered pattern text)

/-- A pattern text covers a whole text just when the latter can be cut along it. -/
theorem matchesAll_ofText (s t : String) :
    matchesAll (ofText s) t = decide (Covered s.toList t.toList) := by
  rw [Bool.eq_iff_iff, decide_eq_true_eq, matchesAll_eq, ← accepts_iff_covered]
  rfl

end

end Spreadsheet.Text.Glob

namespace Spreadsheet.Value

open Spreadsheet.Text (Piece Glob.hasWildcards Glob.Covered Glob.matchesAll Glob.ofText)

variable {s : String} {pieces : List Piece}

/-- A pattern that is not refused consists of the pieces of its text. -/
theorem eq_ofText_of_wholePattern (h : wholePattern s = .ok pieces) : pieces = Glob.ofText s := by
  change (checkSize false (Glob.ofText s) >>= fun _ => .ok (Glob.ofText s)) = .ok pieces at h
  cases hsize : checkSize false (Glob.ofText s) with
  | error e =>
    rw [hsize] at h
    cases h
  | ok =>
    rw [hsize] at h
    exact (Except.ok.inj h).symm

/-- A text with wildcards is a pattern, which covers the texts that can be cut along it.  As the
operand of a criterion it selects the values with such a text by `=` and all others by `<>`.  In an
exact search it finds the first key with such a text. -/
theorem wholePattern_covered (hwild : Glob.hasWildcards s = true)
    (hpattern : wholePattern s = .ok pieces) :
    (∀ t, Glob.matchesAll pieces t = true ↔ Glob.Covered s.toList t.toList) ∧
      (∀ v op, splitOperator v.asText = (op, s) → op = .equal ∨ op = .notEqual →
        ∃ c, Criterion.read v = .ok c ∧
          ∀ w, c.test w = .done (decide (Glob.Covered s.toList w.asText.toList ↔ op = .equal))) ∧
      (∀ v keys, v.raw = .text s →
        exactPosition? v keys =
          .ok (keys.findIdx? fun k => decide (Glob.Covered s.toList k.asText.toList))) := by
  have hpieces : pieces = Glob.ofText s := eq_ofText_of_wholePattern hpattern
  have hcovered (t : String) :
      Glob.matchesAll pieces t = decide (Glob.Covered s.toList t.toList) := by
    rw [hpieces, Text.Glob.matchesAll_ofText]
  have hne : s.isEmpty = false := by
    rw [Bool.eq_false_iff]
    intro hempty
    rw [String.isEmpty_iff.1 hempty] at hwild
    cases hwild
  refine ⟨fun t => by rw [hcovered, decide_eq_true_eq], fun v op hsplit hop => ?_,
    fun v keys hv => ?_⟩
  · have hread : Criterion.read v = .ok (.pattern pieces (op == .notEqual)) := by
      rw [Criterion.read_eq hsplit]
      simp only [Criterion.ofOperand, hne, hwild, hpattern, if_true, Bool.false_eq_true, if_false]
      obtain rfl | rfl := hop <;> rfl
    refine ⟨_, hread, fun w => ?_⟩
    change Evaluation.Program.done (Glob.matchesAll pieces w.asText != (op == .notEqual)) = _
    rw [hcovered]
    obtain rfl | rfl := hop <;> by_cases h : Glob.Covered s.toList w.asText.toList <;> simp [h]
  · rw [exactPosition?, hv]
    simp only [hwild, if_true, hpattern]
    exact congrArg (fun test => Except.ok (keys.findIdx? test)) (funext fun k => hcovered k.asText)

/-- A piece of one letter, a run of three and one of none. -/
theorem wholePattern_covered_banana :
    Glob.hasWildcards "b*n?*" = true ∧
      ∃ pieces, wholePattern "b*n?*" = .ok pieces ∧
        Glob.Covered "b*n?*".toList "Banana".toList ∧
        ∃ c, Criterion.read (.text "<>b*n?*") = .ok c ∧
          c.test (.text "Banana") = .done false ∧ c.test (.text "Bana\n") = .done true := by
  have hwild : Glob.hasWildcards "b*n?*" = true := by decide +kernel
  have hpattern : wholePattern "b*n?*" =
      .ok [.letter 'b', .many, .letter 'n', .one, .many] := by decide +kernel
  obtain ⟨hmatches, hcriterion, -⟩ := wholePattern_covered hwild hpattern
  obtain ⟨c, hread, htest⟩ :=
    hcriterion (.text "<>b*n?*") .notEqual (by decide +kernel) (.inr rfl)
  refine ⟨hwild, _, hpattern, (hmatches "Banana").1 (by decide +kernel), c, hread, ?_, ?_⟩
  · rw [htest]
    exact congrArg Evaluation.Program.done (by decide +kernel)
  · rw [htest]
    exact congrArg Evaluation.Program.done (by decide +kernel)

end Spreadsheet.Value
