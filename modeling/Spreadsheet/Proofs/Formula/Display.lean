import Spreadsheet.Grid.Workbook
import Spreadsheet.Proofs.Formula.Printing

/-!
# References as they are displayed

A reference is displayed with a sheet name in quotes only if the name needs them.
Such a text is a formula that means the reference (`parse_displayed`).

Behind quotes this is the text that trees are written with
(`Proofs.Formula.Printing`).  A plain name has letters, digits and underscores
alone, so neither scanning nor reading divides it, and the `!` behind it keeps the
whole from being the name of a function.  Without a sheet nothing does: the cell
in column `LOG` and row 10 is displayed as the name of a function, which is what
the parser takes it for (`not_parse_displayed_functionName`).
-/

namespace Spreadsheet.Formula

open Spreadsheet.Grid (indexLimit)
open Spreadsheet.Text (isAlphanumeric isBlank)

/-! ## Plain names -/

/-- None of the marks in a reference belongs to a plain name. -/
theorem ne_of_isPlainName {cs : List Char} (h : isPlainName cs = true) {c : Char} (hc : c ∈ cs) :
    c ≠ '!' ∧ c ≠ ':' ∧ c ≠ apostrophe := by
  have hplain := List.all_eq_true.1 h c hc
  refine ⟨?_, ?_, ?_⟩ <;> rintro rfl <;> revert hplain <;> decide +kernel

/-- A plain name goes on an identifier. -/
theorem continuesIdentifier_of_isPlainName {cs : List Char} (h : isPlainName cs = true) {c : Char}
    (hc : c ∈ cs) : continuesIdentifier c = true := by
  have hplain := List.all_eq_true.1 h c hc
  simp only [Bool.or_eq_true, decide_eq_true_eq] at hplain
  rcases hplain with hplain | rfl
  · simp [continuesIdentifier, hplain]
  · decide +kernel

/-- A plain name is written without quotes, so there are none to be removed. -/
theorem Reference.unquoted_of_isPlainName {cs : List Char} (h : isPlainName cs = true) :
    unquoted cs = cs := by
  cases cs with
  | nil => rfl
  | cons c cs =>
    have hc := (ne_of_isPlainName h (List.mem_cons_self ..)).2.2
    simp [unquoted, hc]

/-- A plain name with a `!` behind it names a sheet. -/
theorem Reference.heads_plain {name : String} (hname : name ≠ "")
    (h : isPlainName name.toList = true) :
    Reference.Heads (name.toList ++ ['!']) (some name) where
  joins {cs part parts} hsplit := by
    have hfront : ∀ c ∈ name.toList ++ ['!'], c ≠ ':' ∧ c ≠ apostrophe := by
      intro c hc
      rcases List.mem_append.1 hc with hc | hc
      · exact (ne_of_isPlainName h hc).2
      · rw [List.mem_singleton.1 hc]
        decide
    exact splitUnquoted_append hfront hsplit
  splits a := by
    have hfront : ∀ c ∈ name.toList, c ≠ '!' ∧ c ≠ apostrophe := fun c hc =>
      ⟨(ne_of_isPlainName h hc).1, (ne_of_isPlainName h hc).2.2⟩
    have haddress := (undivided_text a).splitUnquoted (.inl rfl)
    have hsplit := splitUnquoted_append hfront (splitUnquoted_mark haddress)
    rw [List.append_nil] at hsplit
    rw [splitSheet_of_splitUnquoted (by simpa using hname) hsplit, unquoted_of_isPlainName h,
      String.ofList_toList]

/-! ## Texts that are identifiers -/

/-- The code points between the bounds of a set, the last one of which is outside. -/
def membersBetween : List Nat → List Nat
  | lo :: hi :: rest => List.range' lo (hi - lo) ++ membersBetween rest
  | _ => []

theorem mem_membersBetween {bounds : List Nat} {c : Char} (heven : bounds.length % 2 = 0)
    (h : Text.CodeSet.contains ⟨bounds⟩ c = true) : c.toNat ∈ membersBetween bounds := by
  fun_induction membersBetween bounds with
  | case1 lo hi rest ih =>
    simp only [Text.CodeSet.contains, Text.CodeSet.below] at h ih
    rw [List.mem_append, List.mem_range'_1]
    split at h
    next hlo =>
      split at h
      next hhi =>
        have heven' : rest.length % 2 = 0 := by
          simpa [Nat.add_assoc] using heven
        exact .inr (ih heven' (by simpa [Nat.add_assoc] using h))
      next hhi => exact .inl (by omega)
    next => cases h
  | case2 bounds hbounds =>
    cases bounds with
    | nil => cases h
    | cons lo rest =>
      cases rest with
      | nil => cases heven
      | cons hi rest => exact absurd rfl (hbounds lo hi rest)

/-- White space starts no identifier. -/
theorem isBlank_of_startsIdentifier {c : Char} (h : startsIdentifier c = true) :
    isBlank c = false := by
  have hblanks : ∀ n ∈ membersBetween Text.blanks.bounds,
      startsIdentifier (Char.ofNat n) = false := by decide +kernel
  by_contra hblank
  have hmem : c.toNat ∈ membersBetween Text.blanks.bounds :=
    mem_membersBetween rfl (eq_true_of_ne_false hblank)
  have hstarts := hblanks _ hmem
  rw [Char.ofNat_toNat, h] at hstarts
  cases hstarts

/-- A text is one identifier if all of it goes on from what starts one. -/
theorem tokenizes_identifier {s : String} {c : Char} {steps : Nat}
    (hhead : s.toList.head? = some c) (hc : c = apostrophe ∨ startsIdentifier c = true)
    (hs : GoesOn steps s.toList) (hsteps : steps ≤ s.toList.length) :
    Tokenizes s.toList [.identifier s] := by
  obtain ⟨cs, hcs⟩ := List.head?_eq_some_iff.1 hhead
  have htaken : takeIdentifier s.toList.length s.toList = .ok (s.toList, []) := by
    simpa using hs _ [] [] hsteps (by simp) (by simp)
  rw [hcs] at htaken
  have htoken := takeToken_eq_identifier hc htaken
  rw [← hcs, String.ofList_toList] at htoken
  have hblank : isBlank c = false := by
    rcases hc with rfl | hc
    · decide
    · exact isBlank_of_startsIdentifier hc
  have hdrop : s.toList.dropWhile isBlank = s.toList := by
    rw [hcs, List.dropWhile_cons_of_neg (by simp [hblank])]
  rw [← hdrop] at htoken
  exact .token htoken (.done rfl)

/-- A text that is one identifier means the reference it is read as, unless a function has it for a
name. -/
theorem parse_eq_reference {s : String} {r : Reference} (hs : Tokenizes s.toList [.identifier s])
    (hname : Registry.standard.find? s = none)
    (hread : Reference.read s.toList = .ok (some r)) :
    parse .standard s = .ok (.reference r) := by
  have hatom : Derivable .atom [.identifier s] (.reference r) :=
    ⟨.reference s r hname hread, rfl, rfl⟩
  obtain ⟨d, htokens, htree⟩ := hatom.loosen (.level .comparison) (Nat.zero_le _)
  rw [parse_eq_ok_of_derivation d (htokens ▸ hs), htree]

/-! ## Displayed references -/

/-- The text of a reference is a formula of its own: the reference has a text that is not the name
of a function, the name of its sheet is not empty, and a name that is written without quotes starts
like an identifier. -/
structure Reference.Displayable (r : Reference) : Prop extends r.Printable where
  /-- The sheet has a name if there is one. -/
  ne_empty : ∀ name, r.sheet = some name → name ≠ ""
  /-- A name without quotes starts like an identifier. -/
  starts : ∀ name, r.sheet = some name → isPlainName name.toList = true →
    ∀ c ∈ name.toList.head?, startsIdentifier c = true

theorem Reference.toList_text_plain {name : String} (h : isPlainName name.toList = true)
    (range : Grid.Range) :
    (Reference.text ⟨range, some name⟩).toList =
      name.toList ++ ['!'] ++ range.text.toList := by
  simp [Reference.text, h]

theorem Reference.text_eq_spelling {r : Reference}
    (h : ∀ name, r.sheet = some name → isPlainName name.toList = false) :
    (Expr.reference r).text = r.text := by
  obtain ⟨range, sheet⟩ := r
  cases sheet with
  | none =>
    simp [Expr.text, Expr.tokens, Token.spelling_identifier, spelling, sheetSpelling, text]
  | some name =>
    simp only [Expr.text, Expr.tokens, List.flatMap_cons, List.flatMap_nil, List.append_nil,
      Token.spelling_identifier, String.ofList_append, spelling, sheetSpelling, text, h name rfl,
      Bool.false_eq_true, if_false, String.ofList_toList]

/-- The text in which a reference is displayed is a formula that means the reference. -/
theorem parse_displayed {r : Reference} (h : r.Displayable) :
    parse .standard r.text = .ok (.reference r) := by
  obtain ⟨range, sheet⟩ := r
  by_cases hquotes : ∀ name, sheet = some name → isPlainName name.toList = false
  · rw [← Reference.text_eq_spelling hquotes]
    exact parse_text (.reference h.toPrintable)
  · obtain ⟨name, rfl, hplain⟩ : ∃ name, sheet = some name ∧ isPlainName name.toList = true := by
      simpa using hquotes
    have hne := h.ne_empty name rfl
    have htext := Reference.toList_text_plain hplain range
    obtain ⟨c, hc⟩ : ∃ c, name.toList.head? = some c := by
      cases hname : name.toList with
      | nil => simp_all
      | cons c cs => exact ⟨c, rfl⟩
    have hlength : 1 ≤ (Reference.text ⟨range, some name⟩).toList.length := by
      simp only [htext, List.length_append, List.length_singleton]
      omega
    apply parse_eq_reference
    · refine tokenizes_identifier (c := c) ?_ (.inr (h.starts name rfl hplain c hc))
        (.plain fun c hc => ?_) hlength
      · rw [htext, List.append_assoc, List.head?_append_of_ne_nil, hc]
        simpa using hne
      · simp only [htext, List.mem_append, List.mem_singleton] at hc
        rcases hc with (hc | rfl) | hc
        · exact continuesIdentifier_of_isPlainName hplain hc
        · decide +kernel
        · exact continuesIdentifier_of_mem_text hc
    · exact find?_of_mem (by simp [htext])
    · rw [htext]
      exact (Reference.heads_plain hne hplain).read (r := ⟨range, some name⟩) h.bottom_lt h.right_lt

/-- A workbook accepts no empty sheet name. -/
theorem ne_empty_of_checkName {b : Grid.Workbook} {name : String} (h : b.checkName name = .ok ()) :
    name ≠ "" := by
  rintro rfl
  cases h

/-- A range on a sheet with a plain name, which any workbook without a sheet of this name accepts. -/
theorem parse_displayed_plain :
    let r : Reference := ⟨{ top := 0, left := 0, bottom := 2, right := 1 }, some "Ann\u00e9e_2024"⟩
    r.Displayable ∧ r.text = "Ann\u00e9e_2024!A1:B3" ∧ parse .standard r.text = .ok (.reference r) := by
  intro r
  have hdisplayable : r.Displayable := by
    refine ⟨⟨by decide, by decide, nofun⟩, ?_, ?_⟩
    · rintro name ⟨⟩
      exact ne_empty_of_checkName (b := Grid.Workbook.empty) (by decide +kernel)
    · rintro name ⟨⟩ - c hc
      have hstarts : ("Ann\u00e9e_2024".toList.head?.all startsIdentifier) = true := by
        decide +kernel
      rw [hc] at hstarts
      exact hstarts
  exact ⟨hdisplayable, by decide +kernel, parse_displayed hdisplayable⟩

/-- The cell in row 10 of the column `LOG`. -/
def logCell : Reference := ⟨{ top := 9, left := 8508, bottom := 9, right := 8508 }, none⟩

/-- A cell on a sheet whose name starts with a digit. -/
def yearCell : Reference := ⟨{ top := 6, left := 3, bottom := 6, right := 3 }, some "2024"⟩

/-- References that do not come back from the texts in which they are displayed.  The first is taken
for a function, the number of the second is too large, and the third is scanned as a number. -/
theorem not_parse_displayed :
    (logCell.text = "LOG10" ∧ ¬ parse .standard logCell.text = .ok (.reference logCell)) ∧
      (lastRow.text = "A18446744073709551616" ∧
        ¬ parse .standard lastRow.text = .ok (.reference lastRow)) ∧
      (Grid.Workbook.empty.checkName "2024" = .ok () ∧ yearCell.text = "2024!D7" ∧
        ¬ parse .standard yearCell.text = .ok (.reference yearCell)) := by
  have hfails {r : Reference} (h : (parse .standard r.text).isOk = false) :
      ¬ parse .standard r.text = .ok (.reference r) := by
    intro hok
    rw [hok] at h
    cases h
  exact ⟨⟨by decide +kernel, hfails (by decide +kernel)⟩,
    ⟨by decide +kernel, hfails (by decide +kernel)⟩,
    by decide +kernel, by decide +kernel, hfails (by decide +kernel)⟩

end Spreadsheet.Formula
