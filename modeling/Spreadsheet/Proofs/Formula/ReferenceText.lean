import Spreadsheet.Formula.Reference
import Spreadsheet.Proofs.Grid.AddressText

/-!
# The texts of references

A reference is read back whenever what stands in front of its range names its
sheet (`Reference.Heads`).  The name can always be written in quotes
(`Reference.spelling`): no mark in it divides the text, because every quote in it
is written twice and so the name as a whole leaves the quotes closed
(`splitUnquoted_quoted`).
-/

namespace Spreadsheet.Formula

open Spreadsheet.Grid (Range Address indexLimit)
open Spreadsheet.Text (replaceAll)

/-- A text with each quote in it written twice. -/
def quotesDoubled (quote : Char) (cs : List Char) : List Char :=
  cs.flatMap fun c => if c = quote then [quote, quote] else [c]

theorem doubled_eq (cs : List Char) : doubled cs = quotesDoubled apostrophe cs := rfl

theorem quotesDoubled_cons_self (quote : Char) (cs : List Char) :
    quotesDoubled quote (quote :: cs) = quote :: quote :: quotesDoubled quote cs := by
  simp [quotesDoubled]

theorem quotesDoubled_cons_of_ne {quote c : Char} (h : c ≠ quote) (cs : List Char) :
    quotesDoubled quote (c :: cs) = c :: quotesDoubled quote cs := by
  simp [quotesDoubled, h]

namespace Reference

/-! ## Names in quotes -/

/-- Of two quotes one is left. -/
theorem replaceAll_doubled (cs : List Char) :
    replaceAll [apostrophe, apostrophe] [apostrophe] 0 (doubled cs) = cs := by
  rw [doubled_eq]
  induction cs with
  | nil => rfl
  | cons c cs ih =>
    by_cases hc : c = apostrophe
    · subst hc
      simp [quotesDoubled_cons_self, ih]
    · have hne : [apostrophe, apostrophe].isPrefixOf (c :: quotesDoubled apostrophe cs) = false := by
        simp [List.isPrefixOf, Ne.symm hc]
      rw [quotesDoubled_cons_of_ne hc, Text.replaceAll_zero, hne, ih]
      rfl

/-- A name is read back from its quotes. -/
theorem unquoted_quoted (cs : List Char) : unquoted (quoted cs) = cs := by
  simp [unquoted, quoted, replaceAll_doubled]

/-! ## Splitting -/

section

variable {mark : Char} {inside : Bool} {cs front part : List Char} {parts : List (List Char)}

theorem splitUnquoted_cons_of_ne {c : Char} (h : splitUnquoted mark inside cs = part :: parts)
    (hmark : c ≠ mark ∨ inside = true) (hquote : c ≠ apostrophe) :
    splitUnquoted mark inside (c :: cs) = (c :: part) :: parts := by
  have hsplit : (decide (c = mark) && !inside) = false := by
    rcases hmark with hc | rfl <;> simp_all
  simp only [splitUnquoted, hsplit, hquote, if_false, h, Bool.false_eq_true]

theorem splitUnquoted_quote (inside : Bool) (h : splitUnquoted mark (!inside) cs = part :: parts)
    (hmark : mark ≠ apostrophe) :
    splitUnquoted mark inside (apostrophe :: cs) = (apostrophe :: part) :: parts := by
  simp only [splitUnquoted, Ne.symm hmark, decide_false, Bool.false_and, Bool.false_eq_true,
    if_false, if_true, h]

/-- What has neither marks nor quotes joins the first part. -/
theorem splitUnquoted_append (hfront : ∀ c ∈ front, c ≠ mark ∧ c ≠ apostrophe)
    (h : splitUnquoted mark false cs = part :: parts) :
    splitUnquoted mark false (front ++ cs) = (front ++ part) :: parts := by
  induction front with
  | nil => exact h
  | cons c front ih =>
    have hc := hfront c (List.mem_cons_self ..)
    have hrest := ih fun c' hc' => hfront c' (List.mem_cons_of_mem _ hc')
    exact splitUnquoted_cons_of_ne hrest (.inl hc.1) hc.2

theorem splitUnquoted_doubled (hmark : mark ≠ apostrophe) (name : List Char)
    (h : splitUnquoted mark true cs = part :: parts) :
    splitUnquoted mark true (doubled name ++ cs) = (doubled name ++ part) :: parts := by
  rw [doubled_eq]
  induction name with
  | nil => exact h
  | cons c name ih =>
    by_cases hc : c = apostrophe
    · -- The first of the two quotes leaves the name, and the second enters it again.
      subst hc
      rw [quotesDoubled_cons_self]
      exact splitUnquoted_quote true (splitUnquoted_quote false ih hmark) hmark
    · rw [quotesDoubled_cons_of_ne hc]
      exact splitUnquoted_cons_of_ne ih (.inr rfl) hc

/-- A name in quotes joins the first part, whatever is in it. -/
theorem splitUnquoted_quoted (hmark : mark ≠ apostrophe) (name : List Char)
    (h : splitUnquoted mark false cs = part :: parts) :
    splitUnquoted mark false (quoted name ++ cs) = (quoted name ++ part) :: parts := by
  have hclosed := splitUnquoted_doubled hmark name (splitUnquoted_quote true h hmark)
  have hopened := splitUnquoted_quote false hclosed hmark
  simpa [quoted] using hopened

theorem splitUnquoted_mark (h : splitUnquoted mark false cs = part :: parts) :
    splitUnquoted mark false (mark :: cs) = [] :: part :: parts := by
  simp [splitUnquoted, h]

/-- What has neither marks nor quotes is one part. -/
theorem splitUnquoted_of_plain (h : ∀ c ∈ cs, c ≠ mark ∧ c ≠ apostrophe) :
    splitUnquoted mark false cs = [cs] := by
  have hall : splitUnquoted mark false (cs ++ []) = [cs ++ []] := splitUnquoted_append h rfl
  rwa [List.append_nil] at hall

end

/-! ## Reading -/

/-- The name of a sheet in front of an address, always in quotes. -/
def sheetSpelling : Option String → List Char
  | none => []
  | some name => quoted name.toList ++ ['!']

/-- The text of a reference, with the sheet name always in quotes. -/
def spelling (r : Reference) : List Char := sheetSpelling r.sheet ++ r.range.text.toList

/-- A text that has none of the marks that divide a reference. -/
def Undivided (cs : List Char) : Prop := ∀ c ∈ cs, c ≠ '!' ∧ c ≠ ':' ∧ c ≠ apostrophe

/-- An address has none of them. -/
theorem undivided_text (a : Address) : Undivided a.text.toList := by
  intro c hc
  have hc := Address.mem_text hc
  refine ⟨?_, ?_, ?_⟩ <;> rintro rfl <;> revert hc <;> decide

theorem undivided_form (f : Address.Form) : Undivided f.text := by
  intro c hc
  have hc := Address.Form.mem_text hc
  refine ⟨?_, ?_, ?_⟩ <;> rintro rfl <;> revert hc <;> decide

/-- What is split off an address names its sheet. -/
theorem splitSheet_of_splitUnquoted {front address : List Char} (hfront : front ≠ [])
    (h : splitUnquoted '!' false (front ++ '!' :: address) = [front, address]) :
    splitSheet (front ++ ['!'] ++ address) =
      .ok (some (String.ofList (unquoted front)), address) := by
  have hempty : front.isEmpty = false := by simpa using hfront
  simp only [List.append_assoc, List.singleton_append, splitSheet, h, hempty, Bool.false_eq_true,
    if_false]

section

variable {cs : List Char} (h : Undivided cs)
include h

theorem Undivided.splitUnquoted {mark : Char} (hmark : mark = '!' ∨ mark = ':') :
    splitUnquoted mark false cs = [cs] := by
  apply splitUnquoted_of_plain
  intro c hc
  obtain ⟨hsheet, hcorner, hquote⟩ := h c hc
  rcases hmark with rfl | rfl
  · exact ⟨hsheet, hquote⟩
  · exact ⟨hcorner, hquote⟩

/-- A colon ends the first corner of a range. -/
theorem Undivided.splitUnquoted_colon {rest part : List Char} {parts : List (List Char)}
    (hrest : Reference.splitUnquoted ':' false rest = part :: parts) :
    Reference.splitUnquoted ':' false (cs ++ ':' :: rest) = cs :: part :: parts := by
  have hsplit := splitUnquoted_append (fun c hc => (h c hc).2) (splitUnquoted_mark hrest)
  rwa [List.append_nil] at hsplit

theorem splitSheet_spelling (sheet : Option String) :
    splitSheet (sheetSpelling sheet ++ cs) = .ok (sheet, cs) := by
  have haddress := h.splitUnquoted (.inl rfl)
  cases sheet with
  | none => simp only [sheetSpelling, List.nil_append, splitSheet, haddress]
  | some name =>
    have hsplit := splitUnquoted_quoted (by decide) name.toList (splitUnquoted_mark haddress)
    rw [List.append_nil] at hsplit
    have hname : quoted name.toList ≠ [] := List.cons_ne_nil _ _
    rw [sheetSpelling, splitSheet_of_splitUnquoted hname hsplit, unquoted_quoted,
      String.ofList_toList]

end

/-- A sheet name joins the first part, whatever is in it. -/
theorem splitUnquoted_sheetSpelling (sheet : Option String) {cs part : List Char}
    {parts : List (List Char)} (h : splitUnquoted ':' false cs = part :: parts) :
    splitUnquoted ':' false (sheetSpelling sheet ++ cs) =
      (sheetSpelling sheet ++ part) :: parts := by
  cases sheet with
  | none => exact h
  | some name =>
    rw [sheetSpelling, List.append_assoc, List.append_assoc]
    have hmark : ∀ c ∈ ['!'], c ≠ ':' ∧ c ≠ apostrophe := by
      intro c hc
      rw [List.mem_singleton.1 hc]
      decide
    exact splitUnquoted_quoted (by decide) name.toList (splitUnquoted_append hmark h)

/-- A text in front of an address names a sheet, or it is empty and names none. -/
structure Heads (front : List Char) (sheet : Option String) : Prop where
  /-- It joins the first corner of a range. -/
  joins : ∀ {cs part parts}, splitUnquoted ':' false cs = part :: parts →
    splitUnquoted ':' false (front ++ cs) = (front ++ part) :: parts
  /-- It is split off an address. -/
  splits : ∀ a : Address, splitSheet (front ++ a.text.toList) = .ok (sheet, a.text.toList)

theorem heads_sheetSpelling (sheet : Option String) : Heads (sheetSpelling sheet) sheet :=
  ⟨splitUnquoted_sheetSpelling sheet, fun a => splitSheet_spelling (undivided_text a) sheet⟩

theorem heads_nil : Heads [] none := heads_sheetSpelling none

theorem Heads.readCorner {front : List Char} {sheet : Option String} (h : Heads front sheet)
    {a : Address} (hrow : a.row + 1 < indexLimit) (hcolumn : a.column + 1 < indexLimit) :
    readCorner (front ++ a.text.toList) = .ok (some (sheet, a)) := by
  simp only [Reference.readCorner, h.splits, String.ofList_toList,
    Address.read_text hrow hcolumn]

theorem read_eq_single {cs corner : List Char} {sheet : Option String} {a : Address}
    (hsplit : splitUnquoted ':' false cs = [corner])
    (hcorner : readCorner corner = .ok (some (sheet, a))) :
    read cs = .ok (some ⟨.single a, sheet⟩) := by
  simp only [read, hsplit, hcorner]
  rfl

/-- One corner need not repeat the sheet that the other one names. -/
theorem read_eq_ofCorners {cs first second : List Char} {sheet sheet' : Option String}
    {a b : Address} (hsplit : splitUnquoted ':' false cs = [first, second])
    (hfirst : readCorner first = .ok (some (sheet, a)))
    (hsecond : readCorner second = .ok (some (sheet', b)))
    (hsheet : sheet = none ∨ sheet' = none ∨ sheet = sheet') :
    read cs = .ok (some ⟨.ofCorners a b, sheet.or sheet'⟩) := by
  have hsame : (sheet.isSome && sheet'.isSome && decide (sheet ≠ sheet')) = false := by
    rcases hsheet with rfl | rfl | rfl <;> simp
  simp only [read, hsplit, hfirst, hsecond, hsame, Bool.false_eq_true, if_false]

/-- A reference is read back behind a text that names its sheet, if its numbers are below the
limit. -/
theorem Heads.read {front : List Char} {r : Reference} (h : Heads front r.sheet)
    (hbottom : r.range.bottom + 1 < indexLimit) (hright : r.range.right + 1 < indexLimit) :
    read (front ++ r.range.text.toList) = .ok (some r) := by
  obtain ⟨range, sheet⟩ := r
  have htop : range.top + 1 < indexLimit :=
    Nat.lt_of_le_of_lt (Nat.succ_le_succ range.top_le) hbottom
  have hleft : range.left + 1 < indexLimit :=
    Nat.lt_of_le_of_lt (Nat.succ_le_succ range.left_le) hright
  have hfirst := h.readCorner (a := range.corners.1) htop hleft
  have hsecond := heads_nil.readCorner (a := range.corners.2) hbottom hright
  cases hsingle : range.isSingle with
  | true =>
    have hsplit := h.joins ((undivided_text range.corners.1).splitUnquoted (.inr rfl))
    rw [Range.text_of_isSingle hsingle, read_eq_single hsplit hfirst,
      Range.single_corners hsingle]
  | false =>
    have hsplit := h.joins ((undivided_text range.corners.1).splitUnquoted_colon
      ((undivided_text range.corners.2).splitUnquoted (.inr rfl)))
    rw [Range.toList_text_of_not_isSingle hsingle,
      read_eq_ofCorners hsplit hfirst hsecond (.inr (.inl rfl)), Range.ofCorners_corners,
      Option.or_none]

/-- A reference is read back from its text with the sheet name in quotes. -/
theorem read_spelling {r : Reference} (hbottom : r.range.bottom + 1 < indexLimit)
    (hright : r.range.right + 1 < indexLimit) : read r.spelling = .ok (some r) :=
  (heads_sheetSpelling r.sheet).read hbottom hright

end Reference

end Spreadsheet.Formula
