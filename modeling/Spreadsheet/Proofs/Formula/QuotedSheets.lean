import Spreadsheet.Proofs.Formula.Display

/-!
# Sheet names in quotes

Every sheet can be named in a formula, whatever its name is: the name stands in
quotes in front of a corner of a range, or of both (`parse_corners`,
`parse_corner`).

The corners are any texts that are addresses (`Grid.Address.Form`).  Together
with the names they are one identifier.  A name takes a step of its own, so the
steps are counted (`GoesOn`).  The `!` keeps the identifier from being the name
of a function.

Both corners may name a sheet, but it has to be the same one.  If it is not, the
error is found where the atom is parsed and goes up through all levels
(`parseLevel_error`).
-/

namespace Spreadsheet.Formula

open Spreadsheet.Grid (Range Address)
open Spreadsheet.Grid.Address (Form)
open Spreadsheet.Text (isAsciiLetter toNat_lt_of_isAsciiLetter)

variable {f g : Form} {sheet sheet' : Option String}

/-! ## The texts of corners -/

/-- An address starts with a letter or with a `$`. -/
theorem form_eq_cons (f : Form) : ∃ c cs, f.text = c :: cs ∧ startsIdentifier c = true := by
  obtain ⟨c, letters, hletters⟩ := List.exists_cons_of_ne_nil f.letters_ne_nil
  have hall : ∀ c : Char, c.toNat < 128 → isAsciiLetter c = true →
      startsIdentifier c = true := by decide +kernel
  have hc := f.isAsciiLetter c (hletters ▸ List.mem_cons_self)
  cases habsolute : f.columnAbsolute with
  | true => exact ⟨'$', _, by rw [Form.text, habsolute]; rfl, by decide +kernel⟩
  | false =>
    exact ⟨c, _, by rw [Form.text, habsolute, hletters]; rfl,
      hall c (toNat_lt_of_isAsciiLetter hc) hc⟩

namespace Reference

/-- The text of a corner with the name of its sheet. -/
def cornerSpelling (sheet : Option String) (f : Form) : List Char := sheetSpelling sheet ++ f.text

/-- The text of a range with a sheet in front of each corner, or in front of one, or none. -/
def cornersSpelling (sheet : Option String) (f : Form) (sheet' : Option String) (g : Form) :
    List Char :=
  cornerSpelling sheet f ++ ':' :: cornerSpelling sheet' g

/-! ## Scanning -/

theorem goesOn_corner (sheet : Option String) (f : Form) : GoesOn 2 (cornerSpelling sheet f) :=
  .sheet sheet (.plain fun _ => continuesIdentifier_of_mem_form)

theorem goesOn_corners (sheet : Option String) (f : Form) (sheet' : Option String) (g : Form) :
    GoesOn 3 (cornersSpelling sheet f sheet' g) := by
  have hcolon : ∀ c ∈ [':'], continuesIdentifier c = true :=
    List.forall_mem_singleton.2 (by decide +kernel)
  have hform : ∀ c ∈ f.text, continuesIdentifier c = true := fun _ =>
    continuesIdentifier_of_mem_form
  have hbehind := GoesOn.sheet sheet (((goesOn_corner sheet' g).append hcolon).append hform)
  rwa [← List.append_assoc] at hbehind

theorem corner_eq_cons (sheet : Option String) (f : Form) : ∃ c cs,
    cornerSpelling sheet f = c :: cs ∧ (c = apostrophe ∨ startsIdentifier c = true) := by
  cases sheet with
  | none =>
    obtain ⟨c, cs, hform, hc⟩ := form_eq_cons f
    exact ⟨c, cs, hform, .inr hc⟩
  | some name => exact ⟨apostrophe, _, rfl, .inl rfl⟩

/-! ## Reading -/

theorem readCorner_spelling (sheet : Option String) (f : Form) :
    readCorner (cornerSpelling sheet f) = .ok (some (sheet, f.address)) := by
  simp only [readCorner, cornerSpelling, splitSheet_spelling (undivided_form f), f.read_text]

theorem splitUnquoted_corner (sheet : Option String) (f : Form) :
    splitUnquoted ':' false (cornerSpelling sheet f) = [cornerSpelling sheet f] :=
  splitUnquoted_sheetSpelling sheet ((undivided_form f).splitUnquoted (.inr rfl))

theorem splitUnquoted_corners (sheet : Option String) (f : Form) (sheet' : Option String)
    (g : Form) : splitUnquoted ':' false (cornersSpelling sheet f sheet' g) =
      [cornerSpelling sheet f, cornerSpelling sheet' g] := by
  have hbehind := (undivided_form f).splitUnquoted_colon (splitUnquoted_corner sheet' g)
  have hsplit := splitUnquoted_sheetSpelling sheet hbehind
  rwa [← List.append_assoc] at hsplit

theorem read_corner (sheet : Option String) (f : Form) :
    read (cornerSpelling sheet f) = .ok (some ⟨.single f.address, sheet⟩) :=
  read_eq_single (splitUnquoted_corner sheet f) (readCorner_spelling sheet f)

theorem read_corners (f g : Form) (h : sheet = none ∨ sheet' = none ∨ sheet = sheet') :
    read (cornersSpelling sheet f sheet' g) =
      .ok (some ⟨.ofCorners f.address g.address, sheet.or sheet'⟩) :=
  read_eq_ofCorners (splitUnquoted_corners sheet f sheet' g) (readCorner_spelling sheet f)
    (readCorner_spelling sheet' g) h

/-- Corners on different sheets are refused. -/
theorem read_corners_of_ne {s t : String} (f g : Form) (h : s ≠ t) :
    read (cornersSpelling (some s) f (some t) g) =
      .error (String.ofList (cornersSpelling (some s) f (some t) g)) := by
  simp only [read, splitUnquoted_corners, readCorner_spelling]
  simp [h]

end Reference

/-! ## Parsing -/

open Reference (cornerSpelling cornersSpelling goesOn_corner goesOn_corners corner_eq_cons)

/-- There is a letter and a digit. -/
theorem two_le_length_form (f : Form) : 2 ≤ f.text.length := by
  have hletters := List.length_pos_iff.2 f.letters_ne_nil
  have hdigits := List.length_pos_iff.2 f.digits_ne_nil
  simp only [Form.text, List.length_append]
  omega

/-- A text that starts like an identifier and goes on to its end is one. -/
theorem tokenizes_ofList {cs : List Char} {steps : Nat}
    (hstarts : ∃ c rest, cs = c :: rest ∧ (c = apostrophe ∨ startsIdentifier c = true))
    (h : GoesOn steps cs) (hsteps : steps ≤ cs.length) :
    Tokenizes (String.ofList cs).toList [.identifier (String.ofList cs)] := by
  obtain ⟨c, rest, rfl, hc⟩ := hstarts
  rw [← String.toList_ofList (l := c :: rest)] at h hsteps
  exact tokenizes_identifier (by rw [String.toList_ofList, List.head?_cons]) hc h hsteps

theorem tokenizes_corner (sheet : Option String) (f : Form) :
    Tokenizes (String.ofList (cornerSpelling sheet f)).toList
      [.identifier (String.ofList (cornerSpelling sheet f))] := by
  have hlength := two_le_length_form f
  refine tokenizes_ofList (corner_eq_cons sheet f) (goesOn_corner sheet f) ?_
  rw [cornerSpelling, List.length_append]
  omega

theorem tokenizes_corners (sheet : Option String) (f : Form) (sheet' : Option String) (g : Form) :
    Tokenizes (String.ofList (cornersSpelling sheet f sheet' g)).toList
      [.identifier (String.ofList (cornersSpelling sheet f sheet' g))] := by
  obtain ⟨c, rest, hcons, hc⟩ := corner_eq_cons sheet f
  have hlength := two_le_length_form f
  refine tokenizes_ofList ⟨c, _, by rw [cornersSpelling, hcons, List.cons_append], hc⟩
    (goesOn_corners sheet f sheet' g) ?_
  simp only [cornersSpelling, cornerSpelling, List.length_append, List.length_cons]
  omega

theorem mem_cornerSpelling (s : String) (f : Form) : '!' ∈ cornerSpelling (some s) f := by
  simp [cornerSpelling, Reference.sheetSpelling]

/-- What an atom is refused for, the formula is. -/
theorem parseLevel_error {d : Dialect (Except Error)} {n : Nat} {ts : List Token} {e : Error}
    (hsign : sign? ts = none) (h : parseAtom d n ts = .error e) :
    parseLevel d (n + 9) .comparison ts = .error e := by
  simp only [parseLevel, parseOperand, parseSigned, hsign, h]
  rfl

/-- A text that is one identifier, but is no function and no reference for a reason, is refused for
the reason. -/
theorem parse_eq_error {s text : String} (hs : Tokenizes s.toList [.identifier s])
    (hname : Registry.standard.find? s = none) (hread : Reference.read s.toList = .error text) :
    parse .standard s = .error (.invalidReference text) := by
  let d : Dialect (Except Error) := ⟨.standard, fun name _ => .error (.unknownFunction name), none⟩
  have hatom : parseAtom d 23 [.identifier s] = .error (.invalidReference text) := by
    simp only [parseAtom, d, hname]
    simp only [advance, parseArguments, meaning, hread, List.tail_cons, pure_bind]
    rfl
  have hlevel : parseLevel d (stepBound [Token.identifier s].length) .comparison [.identifier s] =
      .error (.invalidReference text) := parseLevel_error rfl hatom
  unfold parse parseWith
  rw [scan_eq_iff.2 hs]
  dsimp only
  rw [hlevel]
  rfl

/-- A corner with the name of its sheet is a formula that means the cell. -/
theorem parse_corner (s : String) (f : Form) :
    parse .standard (String.ofList (cornerSpelling (some s) f)) =
      .ok (.reference ⟨.single f.address, some s⟩) := by
  apply parse_eq_reference (tokenizes_corner (some s) f)
  · exact find?_of_mem (by rw [String.toList_ofList]; exact mem_cornerSpelling s f)
  · rw [String.toList_ofList, Reference.read_corner]

theorem mem_cornersSpelling {s : String} (h : sheet = some s ∨ sheet' = some s) (f g : Form) :
    '!' ∈ cornersSpelling sheet f sheet' g := by
  rw [cornersSpelling, List.mem_append, List.mem_cons]
  rcases h with rfl | rfl
  · exact .inl (mem_cornerSpelling s f)
  · exact .inr (.inr (mem_cornerSpelling s g))

/-- Two corners of which one or both have the name of the sheet are a formula that means the range
between them. -/
theorem parse_corners {s : String} (f g : Form) (h : sheet = some s ∨ sheet' = some s)
    (hsheet : sheet = none ∨ sheet' = none ∨ sheet = sheet') :
    parse .standard (String.ofList (cornersSpelling sheet f sheet' g)) =
      .ok (.reference ⟨.ofCorners f.address g.address, some s⟩) := by
  have hname : sheet.or sheet' = some s := by
    cases sheet <;> cases sheet' <;> simp_all
  apply parse_eq_reference (tokenizes_corners sheet f sheet' g)
  · exact find?_of_mem (by rw [String.toList_ofList]; exact mem_cornersSpelling h f g)
  · rw [String.toList_ofList, Reference.read_corners f g hsheet, hname]

/-- Every sheet is named by its name in quotes, and a quote in the name is written twice.  In front
of the first corner of a range, of the second one or of both, it makes a formula that means the range
between the corners on this sheet, and in front of one address it makes one that means the cell.
Corners that name different sheets are an invalid reference. -/
theorem parse_quoted_sheet (s : String) (f g : Form) :
    let sheet := quoted s.toList ++ ['!']
    let range : Expr := .reference ⟨.ofCorners f.address g.address, some s⟩
    parse .standard (String.ofList (sheet ++ f.text ++ ':' :: g.text)) = .ok range ∧
      parse .standard (String.ofList (f.text ++ ':' :: (sheet ++ g.text))) = .ok range ∧
      parse .standard (String.ofList (sheet ++ f.text ++ ':' :: (sheet ++ g.text))) = .ok range ∧
      parse .standard (String.ofList (sheet ++ f.text)) =
        .ok (.reference ⟨.single f.address, some s⟩) ∧
      ∀ t, t ≠ s →
        let text := String.ofList (sheet ++ f.text ++ ':' :: (quoted t.toList ++ ['!'] ++ g.text))
        parse .standard text = .error (.invalidReference text) := by
  refine ⟨@parse_corners (some s) none s f g (.inl rfl) (.inr (.inl rfl)),
    @parse_corners none (some s) s f g (.inr rfl) (.inl rfl),
    @parse_corners (some s) (some s) s f g (.inl rfl) (.inr (.inr rfl)),
    parse_corner s f, fun t ht => ?_⟩
  apply parse_eq_error (tokenizes_corners (some s) f (some t) g)
  · exact find?_of_mem (by rw [String.toList_ofList]; exact mem_cornersSpelling (.inl rfl) f g)
  · rw [String.toList_ofList, Reference.read_corners_of_ne f g ht.symm]
    rfl

/-- A name with quotes, both marks, a space and a line break, and the empty name. -/
theorem parse_quoted_sheet_marks :
    let name := "'it's!'\nA1: "
    let block : Range := ⟨0, 0, 1, 1, by decide, by decide, by decide, by decide⟩
    let mixed := "'''it''s!''\nA1: '!b$02:''!$A1"
    parse .standard "'''it''s!''\nA1: '!b$02:$A1" = .ok (.reference ⟨block, some name⟩) ∧
      parse .standard "b$02:''!$A1" = .ok (.reference ⟨block, some ""⟩) ∧
      ("" ≠ name ∧ parse .standard mixed = .error (.invalidReference mixed)) := by
  intro name block mixed
  let b2 : Form := ⟨false, ['b'], true, ['0', '2'], by decide, List.all_eq_true.1 rfl, by decide,
    List.all_eq_true.1 rfl, by decide, by decide⟩
  let a1 : Form := ⟨true, ['A'], false, ['1'], by decide, List.all_eq_true.1 rfl, by decide,
    List.all_eq_true.1 rfl, by decide, by decide⟩
  have hblock : Range.ofCorners b2.address a1.address = block := by decide +kernel
  have hfirst : String.ofList (quoted name.toList ++ ['!'] ++ b2.text ++ ':' :: a1.text) =
      "'''it''s!''\nA1: '!b$02:$A1" := by decide +kernel
  have hsecond : String.ofList (b2.text ++ ':' :: (quoted "".toList ++ ['!'] ++ a1.text)) =
      "b$02:''!$A1" := by decide +kernel
  have hmixed : String.ofList (quoted name.toList ++ ['!'] ++ b2.text ++
      ':' :: (quoted "".toList ++ ['!'] ++ a1.text)) = mixed := by decide +kernel
  have hnamed := parse_quoted_sheet name b2 a1
  have hempty := parse_quoted_sheet "" b2 a1
  dsimp only at hnamed hempty
  rw [hblock, hfirst] at hnamed
  rw [hblock, hsecond] at hempty
  have hother := hnamed.2.2.2.2 "" (by decide)
  rw [hmixed] at hother
  exact ⟨hnamed.1, hempty.2.1, by decide, hother⟩

end Spreadsheet.Formula
