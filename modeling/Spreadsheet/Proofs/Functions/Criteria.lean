import Mathlib.Data.List.DropRight
import Spreadsheet.Formula.Token
import Spreadsheet.Functions.Conditional
import Spreadsheet.Proofs.Evaluation.Answers
import Spreadsheet.Proofs.Grid.AddressText

/-!
# What criteria select

A value that is no reference satisfies a criterion or it does not, and nothing
has to be read to tell (`Criterion.test_eq_done`).

The operand of a criterion is what follows the operator, without the white space
around it.  So a criterion with an operator selects the values that compare with
this operand in the way of the operator (`Criterion.test_eq_compare`).  With the
untrimmed text they need not compare in the same way (`compare_ne_test`).

The criteria that `=` and `<>` make of the same text are complements, whatever
the text is: either both are refused or each selects the values that the other
one leaves out (`Criterion.complements`).
-/

namespace Spreadsheet.Text

/-! ## Trimming -/

theorem trimEnd_isPrefix (cs : List Char) : trimEnd cs <+: cs := List.rdropWhile_prefix isBlank cs

/-- Without the white space behind it a text that does not begin with any still does not. -/
theorem trimStart_trimEnd (cs : List Char) :
    trimStart (trimEnd (trimStart cs)) = trimEnd (trimStart cs) := by
  obtain ⟨back, hback⟩ := trimEnd_isPrefix (trimStart cs)
  cases hfront : trimEnd (trimStart cs) with
  | nil => rfl
  | cons c front =>
    have hstart : trimStart cs = c :: (front ++ back) := by rw [← hback, hfront]; rfl
    have hblank : ¬ isBlank c = true := by
      have hnot := List.dropWhile_get_zero_not isBlank cs (by
        change 0 < (trimStart cs).length
        rw [hstart]
        exact Nat.succ_pos _)
      have hget : (trimStart cs).get ⟨0, by rw [hstart]; exact Nat.succ_pos _⟩ = c := by
        simp only [hstart, List.get_eq_getElem, List.getElem_cons_zero]
      exact hget ▸ hnot
    exact List.dropWhile_cons_of_neg hblank

/-- To trim a text once is enough. -/
theorem trim_trim (s : String) : trim (trim s) = trim s := by
  rw [trim, trim, String.toList_ofList, trimStart_trimEnd]
  exact congrArg String.ofList (List.rdropWhile_idempotent isBlank _)

/-- The characters of a trimmed text are among those of the text. -/
theorem mem_of_mem_trim {s : String} {c : Char} (h : c ∈ (trim s).toList) : c ∈ s.toList := by
  rw [trim, String.toList_ofList] at h
  exact (List.dropWhile_suffix isBlank).subset ((trimEnd_isPrefix _).subset h)

theorem Glob.hasWildcards_trim {s : String} (h : hasWildcards s = false) :
    hasWildcards (trim s) = false := by
  simp only [hasWildcards, List.any_eq_false] at h ⊢
  exact fun c hc => h c (mem_of_mem_trim hc)

end Spreadsheet.Text

namespace Spreadsheet.Value

open Spreadsheet.Evaluation (Program)
open Spreadsheet.Evaluation.Program
open Spreadsheet.Formula (Error Operator)
open Spreadsheet.Text (trim trim_trim Glob.hasWildcards Glob.hasWildcards_trim)

variable {s : String} {v : Value} {op : Comparison}

/-! ## Operators and operands -/

/-- A text begins with none of the characters of the comparison operators. -/
def Unmarked (s : String) : Prop := ∀ c ∈ s.toList.head?, c ≠ '<' ∧ c ≠ '>' ∧ c ≠ '='

/-- What is behind the operator that is found is the operand. -/
theorem splitOperator_of_find (written cs : List Char)
    (hfind : criterionOperators.find? (fun entry => entry.1.isPrefixOf (written ++ cs)) =
      some (written, op)) (hs : s.toList = written ++ cs) :
    splitOperator s = (op, trim (String.ofList cs)) := by
  simp only [splitOperator, hs, hfind, List.drop_left]

/-- A text without an operator is an operand. -/
theorem splitOperator_unmarked (hs : Unmarked s) : splitOperator s = (.equal, trim s) := by
  unfold Unmarked at hs
  unfold splitOperator criterionOperators
  cases hcs : s.toList with
  | nil => rfl
  | cons c cs =>
    obtain ⟨hless, hgreater, hequal⟩ := hs c (by rw [hcs]; rfl)
    simp [List.isPrefixOf, hless.symm, hgreater.symm, hequal.symm]

/-- The operator in front of an operand is split off. -/
theorem splitOperator_append (op : Comparison) (hs : Unmarked s) :
    splitOperator (Operator.text (.compare op) ++ s) = (op, trim s) := by
  have hfind : criterionOperators.find? (fun entry =>
      entry.1.isPrefixOf ((Operator.text (.compare op)).toList ++ s.toList)) =
      some ((Operator.text (.compare op)).toList, op) := by
    unfold Unmarked at hs
    cases hcs : s.toList with
    | nil => cases op <;> decide
    | cons c cs =>
      obtain ⟨-, hgreater, hequal⟩ := hs c (by rw [hcs]; rfl)
      cases op <;> simp [Operator.text, criterionOperators, List.isPrefixOf, hgreater.symm,
        hequal.symm]
  rw [splitOperator_of_find _ _ hfind String.toList_append, String.ofList_toList]

/-- The operator `=` is split off any text. -/
theorem splitOperator_equal (s : String) : splitOperator ("=" ++ s) = (.equal, trim s) := by
  rw [splitOperator_of_find ['='] s.toList rfl String.toList_append,
    String.ofList_toList]

/-- The operator `<>` is split off any text. -/
theorem splitOperator_notEqual (s : String) : splitOperator ("<>" ++ s) = (.notEqual, trim s) := by
  rw [splitOperator_of_find ['<', '>'] s.toList rfl String.toList_append,
    String.ofList_toList]

/-- Reads a criterion off an operator and an operand.  A refusal shows the whole text. -/
def Criterion.ofOperand (whole : String) (op : Comparison) (operand : String) :
    Except Error Criterion :=
  let refused : Except Error Criterion := .error (.invalidCriterion whole)
  if operand.isEmpty then
    match op with
    | .equal => .ok .blank
    | .notEqual => .ok .nonBlank
    | _ => refused
  else if Glob.hasWildcards operand then
    match op with
    | .equal => (wholePattern operand).map (.pattern · false)
    | .notEqual => (wholePattern operand).map (.pattern · true)
    | _ => refused
  else .ok (.compare op operand)

theorem Criterion.read_eq (h : splitOperator v.asText = (op, s)) :
    Criterion.read v = Criterion.ofOperand v.asText op s := by
  have hread : Criterion.read v = Criterion.ofOperand v.asText (splitOperator v.asText).1
      (splitOperator v.asText).2 := rfl
  rw [hread, h]

/-! ## Selecting -/

/-- Whether a value that is no reference satisfies a criterion. -/
def Criterion.holds : Criterion → Value → Bool
  | .blank, v => v.isBlank
  | .nonBlank, v => !v.isBlank
  | .pattern pieces negate, v => Text.Glob.matchesAll pieces v.asText != negate
  | .compare op operand, v => Value.compare op v (.text operand)

/-- A criterion tests a value that is no reference without reading anything. -/
theorem Criterion.test_eq_done (c : Criterion) (hv : ∀ r, v ≠ .reference r) :
    c.test v = .done (c.holds v) := by
  cases c with
  | compare op operand =>
    have hvalue : (Evaluation.Argument.computed (.done v)).value = .done v := by
      cases v with
      | reference r => exact absurd rfl (hv r)
      | _ => rfl
    have hright : (Evaluation.Argument.computed (.done (.text operand))).value =
        .done (.text operand) := rfl
    have hresult : Evaluation.operatorResult (.compare op) v (.text operand) =
        .ok (.boolean (Value.compare op v (.text operand))) := rfl
    have hboolean (b : Bool) : (Value.boolean b).toBoolean = .ok b := rfl
    simp only [Criterion.test, Evaluation.applyOperator, hvalue, hright, hresult, hboolean, bind_eq,
      done_bind, Program.ofExcept, Criterion.holds]
  | _ => rfl

/-! ## Complements -/

theorem compare_notEqual (v w : Value) : compare .notEqual v w = !compare .equal v w := by
  unfold compare
  dsimp only
  split <;> rfl

/-- Two criteria are both refused for the same reason, or a value that is no reference satisfies
exactly one of them. -/
inductive Criterion.Complements : Except Error Criterion → Except Error Criterion → Prop where
  /-- Both are refused. -/
  | refused (e : Error) : Complements (.error e) (.error e)
  /-- Each selects what the other one leaves out. -/
  | exclusive {c c' : Criterion}
      (h : ∀ v, (∀ r, v ≠ .reference r) → ∃ b, c.test v = .done b ∧ c'.test v = .done !b) :
    Complements (.ok c) (.ok c')

theorem Criterion.complements_of_holds {c c' : Criterion} (h : ∀ v, c'.holds v = !c.holds v) :
    Complements (.ok c) (.ok c') :=
  .exclusive fun v hv => ⟨c.holds v, c.test_eq_done hv, h v ▸ c'.test_eq_done hv⟩

/-- The operators `=` and `<>` make complements of an operand. -/
theorem Criterion.complements_ofOperand (whole whole' operand : String) :
    Complements (ofOperand whole .equal operand) (ofOperand whole' .notEqual operand) := by
  unfold ofOperand
  dsimp only
  split
  · exact complements_of_holds fun v => rfl
  · split
    · cases wholePattern operand with
      | error e => exact .refused e
      | ok pieces =>
        refine complements_of_holds fun v => ?_
        simp only [holds]
        cases Text.Glob.matchesAll pieces v.asText <;> rfl
    · exact complements_of_holds fun v => compare_notEqual v (.text operand)

/-- The criteria that `=` and `<>` make of a text are complements. -/
theorem Criterion.complements {v' : Value} (hv : v.asText = "=" ++ s)
    (hv' : v'.asText = "<>" ++ s) : Complements (read v) (read v') := by
  rw [read_eq (hv ▸ splitOperator_equal s), read_eq (hv' ▸ splitOperator_notEqual s)]
  exact complements_ofOperand _ _ _

/-- With the operator `=` nothing is refused for the sake of the operator, so only the operand
counts. -/
theorem Criterion.ofOperand_equal (whole whole' operand : String) :
    ofOperand whole .equal operand = ofOperand whole' .equal operand := rfl

/-- A text without an operator is the criterion that `=` makes of it. -/
theorem Criterion.read_unmarked (hs : Unmarked s) :
    read (.text s) = read (.text ("=" ++ s)) := by
  rw [read_eq (v := .text s) (splitOperator_unmarked hs),
    read_eq (v := .text ("=" ++ s)) (splitOperator_equal s)]
  exact ofOperand_equal _ _ _

/-! ## Comparisons -/

/-- White space around a text does not count in its number. -/
theorem toNumber_trim (s : String) : (text (trim s)).toNumber = (text s).toNumber := by
  change numberOfText (trim s) = numberOfText s
  rw [numberOfText, numberOfText, trim_trim]

/-- Values with a difference compare by it. -/
theorem compare_of_number {w : Value} (h : (v.toNumber - w.toNumber).isNaN = false) :
    compare op v w = op.holds (v.toNumber - w.toNumber) :=
  if_neg (by rw [h]; exact Bool.false_ne_true)

/-- The operators that order take nothing but the difference into account. -/
theorem compare_of_ordering {w : Value} (hequal : op ≠ .equal) (hnotEqual : op ≠ .notEqual) :
    compare op v w =
      if (v.toNumber - w.toNumber).isNaN then false else op.holds (v.toNumber - w.toNumber) := by
  unfold compare
  dsimp only
  cases op with
  | equal => exact absurd rfl hequal
  | notEqual => exact absurd rfl hnotEqual
  | _ => rfl

/-- White space around a text does not count in a comparison, unless it is one of texts by `=` or
`<>`. -/
theorem compare_trim (h : (op ≠ .equal ∧ op ≠ .notEqual) ∨
      (v.toNumber - (text s).toNumber).isNaN = false ∨ trim s = s) :
    compare op v (.text (trim s)) = compare op v (.text s) := by
  obtain ⟨hequal, hnotEqual⟩ | hnumber | hs := h
  · rw [compare_of_ordering hequal hnotEqual, compare_of_ordering hequal hnotEqual, toNumber_trim]
  · have htrim : (v.toNumber - (text (trim s)).toNumber).isNaN = false := by
      rw [toNumber_trim]
      exact hnumber
    rw [compare_of_number hnumber, compare_of_number htrim, toNumber_trim]
  · rw [hs]

/-- A criterion with an operator and an operand without wildcards selects the values that compare
with the trimmed operand in the way of the operator, and the operand alone does the same as `=`.  To
trim makes no difference apart from comparing texts by `=` or `<>`.  Without an operand, `=` selects
what is blank, `<>` what is not, and the others are refused. -/
theorem Criterion.test_eq_compare (op : Comparison) {s : String} (hs : Unmarked s)
    (hwild : Glob.hasWildcards s = false) :
    let written := Operator.text (.compare op) ++ s
    (op = .equal → read (.text s) = read (.text written)) ∧
      (trim s ≠ "" → ∃ c, read (.text written) = .ok c ∧
        ∀ v, (∀ r, v ≠ .reference r) →
          c.test v = .done (Value.compare op v (.text (trim s))) ∧
            ((op ≠ .equal ∧ op ≠ .notEqual) ∨
              (v.toNumber - (text s).toNumber).isNaN = false ∨ trim s = s →
              c.test v = .done (Value.compare op v (.text s)))) ∧
      (trim s = "" → read (.text written) =
        match op with
        | .equal => .ok .blank
        | .notEqual => .ok .nonBlank
        | _ => .error (.invalidCriterion written)) := by
  intro written
  have hread : read (.text written) = ofOperand written op (trim s) :=
    read_eq (v := .text written) (splitOperator_append op hs)
  refine ⟨?_, fun hne => ?_, fun hblank => ?_⟩
  · rintro rfl
    exact read_unmarked hs
  · have hcompare : ofOperand written op (trim s) = .ok (.compare op (trim s)) := by
      unfold ofOperand
      dsimp only
      rw [if_neg (by simpa using hne), if_neg (by simp [Glob.hasWildcards_trim hwild])]
    refine ⟨.compare op (trim s), hread.trans hcompare, fun v hv => ?_⟩
    have htest : (compare op (trim s)).test v = .done (Value.compare op v (.text (trim s))) :=
      test_eq_done _ hv
    exact ⟨htest, fun h => htest.trans (congrArg Program.done (compare_trim h))⟩
  · rw [hread, hblank]
    cases op <;> rfl

/-- A number is above five, with white space in front of the five. -/
theorem Criterion.test_eq_compare_greater :
    Unmarked " 5" ∧ Glob.hasWildcards " 5" = false ∧
      ∃ c, read (.text "> 5") = .ok c ∧
        c.test (.number 7.0) = .done (Value.compare .greater (.number 7.0) (.text " 5")) ∧
        Value.compare .greater (.number 7.0) (.text " 5") = true := by
  have hs : Unmarked " 5" := by simp [Unmarked]
  have hwild : Glob.hasWildcards " 5" = false := by simp [Glob.hasWildcards]
  obtain ⟨-, hcriterion, -⟩ := Criterion.test_eq_compare .greater hs hwild
  obtain ⟨c, hread, htest⟩ := hcriterion (by decide +kernel)
  obtain ⟨-, hsame⟩ := htest (.number 7.0) nofun
  exact ⟨hs, hwild, c, hread, hsame (.inl ⟨nofun, nofun⟩), by decide +kernel⟩

/-- A text equals the trimmed operand of a criterion, but not the operand as it is written. -/
theorem compare_ne_test :
    Unmarked " abc" ∧ Glob.hasWildcards " abc" = false ∧
      ∃ c, Criterion.read (.text "= abc") = .ok c ∧ c.test (.text "abc") = .done true ∧
        compare .equal (.text "abc") (.text " abc") = false := by
  have hholds : (Criterion.compare .equal "abc").holds (.text "abc") = true := by decide +kernel
  refine ⟨by simp [Unmarked], by simp [Glob.hasWildcards], .compare .equal "abc", by decide +kernel,
    ?_, by decide +kernel⟩
  rw [Criterion.test_eq_done _ (v := .text "abc") nofun, hholds]

end Spreadsheet.Value

namespace Spreadsheet.Functions

open Spreadsheet.Evaluation.Program
open Spreadsheet.Formula (Error)
open Spreadsheet.Value (Criterion)

/-! ## Counting -/

section

variable {vs : List Value}

/-- The outcomes of two counts that have a total: both are refused with their criterion, or every
value is counted by exactly one of them. -/
inductive SplitCounts (total : Nat) :
    Except Error Criterion → Except Error Value → Except Error Value → Prop where
  /-- Both are refused. -/
  | refused (e : Error) : SplitCounts total (.error e) (.error e) (.error e)
  /-- The counts add up to the total. -/
  | counted (c : Criterion) {n n' : Nat} (h : n + n' = total) :
    SplitCounts total (.ok c) (.ok (.number (Float.ofNat n))) (.ok (.number (Float.ofNat n')))

/-- Complements split the values of a range between them. -/
theorem splitCounts_of_complements {read read' : Except Error Criterion}
    (h : Criterion.Complements read read') (hvs : ∀ w ∈ vs, ∀ r, w ≠ .reference r) :
    SplitCounts vs.length read (read.map fun c => .number (Float.ofNat (vs.countP c.holds)))
      (read'.map fun c => .number (Float.ofNat (vs.countP c.holds))) := by
  cases h with
  | refused e => exact .refused e
  | @exclusive c c' h =>
    have hcount : vs.countP c'.holds = vs.countP fun w => decide ¬c.holds w = true := by
      refine List.countP_congr fun w hw => ?_
      obtain ⟨flag, htest, htest'⟩ := h w (hvs w hw)
      rw [Criterion.test_eq_done _ (hvs w hw), done.injEq] at htest htest'
      rw [htest', ← htest]
      simp
    refine .counted c ?_
    rw [hcount]
    exact (List.length_eq_countP_add_countP _).symm

end

end Spreadsheet.Functions
