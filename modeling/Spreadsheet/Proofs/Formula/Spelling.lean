import Spreadsheet.Proofs.Formula.Grammar
import Spreadsheet.Proofs.Formula.ReferenceText
import Spreadsheet.Proofs.Formula.Tokenizing

/-!
# The texts of tokens

Tokens are written one behind the other without white space between them, and
scanning the text gives them back (`tokenizes_spelling`).  For this they must be
*separate*: behind an operator stands what may start an expression, so that no
two marks form a longer one, and behind a literal or an identifier stands a mark
(`Separate`).  The tokens of every derivation are (`Derivation.separate`).
-/

namespace Spreadsheet.Formula

open Spreadsheet.Text (isDigit isBlank isBlank_eq_false takeWhile_append_of_stop
  dropWhile_append_of_stop)

/-- The text of a token.  The quotes in a text are written twice. -/
def Token.spelling : Token → List Char
  | .literal (.text s) => '"' :: (quotesDoubled '"' s.toList ++ ['"'])
  | t => t.describe.toList

theorem Token.spelling_mark (m : Mark) : (Token.mark m).spelling = m.text.toList := rfl

theorem Token.spelling_identifier (s : String) : (Token.identifier s).spelling = s.toList := rfl

/-- The tokens of trees that have no other literals than texts. -/
inductive Token.Printed : Token → Prop where
  /-- A mark. -/
  | mark (m : Mark) : Printed (.mark m)
  /-- A text. -/
  | text (s : String) : Printed (.literal (.text s))
  /-- The name of a function. -/
  | name (b : Builtin) : Printed (.identifier b.signature.name)
  /-- A reference. -/
  | reference (r : Reference) : Printed (.identifier (String.ofList r.spelling))

/-! ## Separate tokens -/

/-- Whether a mark or nothing stands here. -/
def meetsMark : List Token → Bool
  | [] | .mark _ :: _ => true
  | _ => false

/-- A token may be written in front of others. -/
def Token.MayPrecede : Token → List Token → Prop
  | .mark (.operator _), ts => startsExpression ts = true
  | .mark _, _ => True
  | _, ts => meetsMark ts = true

/-- Tokens may be written one behind the other. -/
def Separate : List Token → Prop
  | [] => True
  | t :: ts => t.MayPrecede ts ∧ Separate ts

namespace Derivation

variable {registry : Registry}

theorem meetsMark_links {l : Level} (links : Derivation registry (.links l)) {rest : List Token}
    (h : meetsMark rest = true) : meetsMark (links.tokens ++ rest) = true := by
  cases links with
  | done => exact h
  | link => rfl

/-- The tokens of a derivation are separate. -/
theorem separate {p : Phrase} (d : Derivation registry p) {rest : List Token} (h : Separate rest)
    (hmark : meetsMark rest = true) : Separate (d.tokens ++ rest) := by
  induction d generalizing rest with
  | chain first links hfirst hlinks =>
    rw [tokens, List.append_assoc]
    exact hfirst (hlinks h hmark) (links.meetsMark_links hmark)
  | done => exact h
  | link op hop right links hright hlinks =>
    rw [tokens, List.cons_append, List.append_assoc]
    exact ⟨right.startsExpression_tokens nofun _,
      hright (hlinks h hmark) (links.meetsMark_links hmark)⟩
  | unsigned d hd => exact hd h hmark
  | signed s d hd => exact ⟨d.startsExpression_tokens nofun _, hd h hmark⟩
  | literal v => exact ⟨hmark, h⟩
  | group d hd =>
    rw [tokens, List.cons_append, List.append_assoc]
    exact ⟨trivial, hd ⟨trivial, h⟩ rfl⟩
  | reference name r hname hr => exact ⟨hmark, h⟩
  | bareCall name f hf hcount => exact ⟨hmark, h⟩
  | emptyCall name f hf hcount => exact ⟨rfl, trivial, trivial, h⟩
  | call name f hf hcount arguments harguments => exact ⟨rfl, trivial, harguments h hmark⟩
  | last d hd =>
    rw [tokens, List.append_assoc]
    exact hd ⟨trivial, h⟩ rfl
  | more d arguments hd harguments =>
    rw [tokens, List.append_assoc]
    exact hd ⟨trivial, harguments h hmark⟩ rfl

end Derivation

/-! ## Texts in quotes -/

theorem takeQuoted_cons_of_ne {quote c : Char} (h : c ≠ quote) (cs : List Char) :
    takeQuoted quote (c :: cs) =
      (takeQuoted quote cs).map fun (text, rest) => (c :: text, rest) := by
  cases cs with
  | nil => simp [takeQuoted, h]
  | cons d cs => rw [takeQuoted, if_neg h]

/-- A text in quotes ends at the quote that no other follows. -/
theorem takeQuoted_quotesDoubled {quote : Char} (cs : List Char) {rest : List Char}
    (h : rest.head? ≠ some quote) :
    takeQuoted quote (quotesDoubled quote cs ++ quote :: rest) = some (cs, rest) := by
  induction cs with
  | nil =>
    cases rest with
    | nil => simp [quotesDoubled, takeQuoted]
    | cons d rest =>
      have hd : d ≠ quote := fun hd => h (congrArg some hd)
      simp [quotesDoubled, takeQuoted, hd]
  | cons c cs ih =>
    by_cases hc : c = quote
    · subst hc
      simp [quotesDoubled_cons_self, takeQuoted, ih]
    · simp [quotesDoubled_cons_of_ne hc, takeQuoted_cons_of_ne hc, ih]

/-! ## Single tokens -/

/-- Nothing that a mark, a literal or an identifier could go on with starts here. -/
def Token.StopsBefore : Token → List Char → Prop
  | .mark (.operator _), rest => ∀ c ∈ rest.head?, c ≠ '=' ∧ c ≠ '>'
  | .mark _, _ => True
  | _, rest => ∀ c ∈ rest.head?, continuesIdentifier c = false ∧ c ≠ apostrophe ∧ c ≠ '"'

theorem takeMark?_cons {c : Char} {m : Mark} {rest : List Char} (hchar : Mark.ofChar? c = some m)
    (hpair : ∀ d ∈ rest.head?, Mark.ofPair? c d = none) :
    takeMark? (c :: rest) = some (m, rest) := by
  cases rest with
  | nil => simp [takeMark?, hchar]
  | cons d rest => simp [takeMark?, hchar, hpair d rfl]

/-- Longer marks end with `=` or `>`. -/
theorem ofPair?_eq_none (c : Char) {d : Char} (h : d ≠ '=' ∧ d ≠ '>') :
    Mark.ofPair? c d = none := by
  unfold Mark.ofPair?
  split <;> simp_all

theorem takeMark?_text {m : Mark} {rest : List Char} (h : (Token.mark m).StopsBefore rest) :
    takeMark? (m.text.toList ++ rest) = some (m, rest) := by
  cases m with
  | operator op =>
    have hpair (c d : Char) (hd : d ∈ rest.head?) : Mark.ofPair? c d = none :=
      ofPair?_eq_none c (h d hd)
    cases op with
    | compare c =>
      cases c with
      | equal => exact takeMark?_cons rfl (hpair '=')
      | less => exact takeMark?_cons rfl (hpair '<')
      | greater => exact takeMark?_cons rfl (hpair '>')
      | notEqual => rfl
      | lessEqual => rfl
      | greaterEqual => rfl
    | _ => exact takeMark?_cons rfl (hpair _)
  | _ => exact takeMark?_cons rfl fun _ _ => rfl

theorem takeMark?_eq_none {c : Char} (h : Mark.ofChar? c = none) (cs : List Char) :
    takeMark? (c :: cs) = none := by
  cases cs with
  | nil => simp [takeMark?, h]
  | cons d cs =>
    have hpair : Mark.ofPair? c d = none := by
      unfold Mark.ofPair?
      split <;> first | rfl | cases h
    simp [takeMark?, h, hpair]

theorem startsNumber_eq_false {c : Char} (hpoint : c ≠ '.') (hdigit : isDigit c = false)
    (cs : List Char) : startsNumber (c :: cs) = false := by
  unfold startsNumber
  split
  · simp_all
  · simp_all
  · rfl

/-- A text in quotes is taken as a literal. -/
theorem takeToken_text (s : String) {rest : List Char}
    (h : (Token.literal (.text s)).StopsBefore rest) :
    takeToken ((Token.literal (.text s)).spelling ++ rest) = .ok (.literal (.text s), rest) := by
  have hquote : rest.head? ≠ some '"' := fun hrest => (h '"' hrest).2.2 rfl
  have hquoted := takeQuoted_quotesDoubled s.toList hquote
  rw [Token.spelling, List.cons_append, List.append_assoc, List.singleton_append, takeToken,
    takeMark?_eq_none rfl, startsNumber_eq_false (by decide) (by decide)]
  dsimp only
  rw [hquoted, if_neg Bool.false_ne_true]
  split
  next hnone => cases hnone
  next text left hsheet =>
    -- A `!` would go on with an identifier, so it does not stand here.
    cases hsheet
    have hcontinues : continuesIdentifier '!' = true := by decide +kernel
    rw [(h '!' rfl).1] at hcontinues
    cases hcontinues
  next text left _ hsome =>
    cases hsome
    rw [String.ofList_toList]

section

variable {c : Char} (hc : c = apostrophe ∨ startsIdentifier c = true)
include hc

/-- An identifier starts with none of the characters that start something else. -/
theorem ne_of_startsIdentifier {d : Char}
    (hd : (decide (d = apostrophe) || startsIdentifier d) = false) : c ≠ d := by
  rintro rfl
  simp only [Bool.or_eq_false_iff, decide_eq_false_iff_not] at hd
  rcases hc with hc | hc
  · exact hd.1 hc
  · exact Bool.false_ne_true (hd.2.symm.trans hc)

theorem ofChar?_eq_none_of_startsIdentifier : Mark.ofChar? c = none := by
  unfold Mark.ofChar?
  split <;> first | rfl | exact absurd rfl (ne_of_startsIdentifier hc (by decide +kernel))

theorem isDigit_eq_false_of_startsIdentifier : isDigit c = false := by
  have hall : ∀ c : Char, c.toNat < 128 → isDigit c = true →
      (decide (c = apostrophe) || startsIdentifier c) = false := by decide +kernel
  by_contra hdigit
  rw [Bool.not_eq_false] at hdigit
  exact ne_of_startsIdentifier hc (hall c (Text.toNat_lt_of_isDigit hdigit) hdigit) rfl

/-- What starts like an identifier is taken as one. -/
theorem takeToken_eq_identifier {cs text rest : List Char}
    (h : takeIdentifier (c :: cs).length (c :: cs) = .ok (text, rest)) :
    takeToken (c :: cs) = .ok (.identifier (String.ofList text), rest) := by
  have hpoint : c ≠ '.' := ne_of_startsIdentifier hc (by decide +kernel)
  have hquote : c ≠ '"' := ne_of_startsIdentifier hc (by decide +kernel)
  have hnumber : c ≠ '#' := ne_of_startsIdentifier hc (by decide +kernel)
  have hstarts : (decide (c = apostrophe) || startsIdentifier c) = true := by simpa using hc
  rw [takeToken, takeMark?_eq_none (ofChar?_eq_none_of_startsIdentifier hc),
    startsNumber_eq_false hpoint (isDigit_eq_false_of_startsIdentifier hc)]
  · dsimp only
    rw [if_neg Bool.false_ne_true, if_pos hstarts, h]
    rfl
  · exact hquote
  · exact hnumber

end

/-- Names and references start with a capital letter or a quote. -/
def StartsName (c : Char) : Prop := c = apostrophe ∨ (65 ≤ c.toNat ∧ c.toNat ≤ 90)

instance (c : Char) : Decidable (StartsName c) := inferInstanceAs (Decidable (_ ∨ _))

namespace StartsName

variable {c : Char}

theorem ne {d : Char} (h : StartsName c) (hd : ¬ StartsName d) : c ≠ d := by
  rintro rfl
  exact hd h

theorem startsIdentifier (h : StartsName c) :
    c = apostrophe ∨ Formula.startsIdentifier c = true := by
  refine h.imp_right fun h => ?_
  have halphabetic : Text.isAlphabetic c = true := by
    rw [Text.isAlphabetic, if_pos (by omega)]
    simp [Text.isAsciiLetter, h]
  simp [Formula.startsIdentifier, halphabetic]

end StartsName

/-! ## Names and references -/

/-- An identifier may go on with the letters of the alphabet, digits, `$` and a colon. -/
theorem continuesIdentifier_of_ascii {c : Char}
    (h : c = ':' ∨ c = '$' ∨ Text.isAsciiLetter c = true ∨ isDigit c = true) :
    continuesIdentifier c = true := by
  have hall : ∀ c : Char, c.toNat < 128 →
      c = ':' ∨ c = '$' ∨ Text.isAsciiLetter c = true ∨ isDigit c = true →
      continuesIdentifier c = true := by decide +kernel
  refine hall c ?_ h
  rcases h with rfl | rfl | hletter | hdigit
  · decide
  · decide
  · exact Text.toNat_lt_of_isAsciiLetter hletter
  · exact Text.toNat_lt_of_isDigit hdigit

theorem continuesIdentifier_of_mem_text {r : Grid.Range} {c : Char} (h : c ∈ r.text.toList) :
    continuesIdentifier c = true := by
  apply continuesIdentifier_of_ascii
  rcases Grid.Range.mem_text h with hc | hc | hletter | hdigit
  · exact .inl hc
  · exact .inr (.inl hc)
  · exact .inr (.inr (.inl (by simp [Text.isAsciiLetter, hletter])))
  · exact .inr (.inr (.inr (by simp [isDigit, hdigit])))

theorem continuesIdentifier_of_mem_form {f : Grid.Address.Form} {c : Char} (h : c ∈ f.text) :
    continuesIdentifier c = true :=
  continuesIdentifier_of_ascii (.inr (Grid.Address.Form.mem_text h))

theorem takeSheetName_quoted (name rest : List Char) :
    takeSheetName (doubled name ++ apostrophe :: '!' :: rest) =
      .ok (quoted name ++ ['!'], rest) := by
  have hmark : ('!' :: rest).head? ≠ some apostrophe := by simp [apostrophe]
  simp only [takeSheetName, doubled_eq, takeQuoted_quotesDoubled name hmark]

section

variable {rest : List Char}
  (hrest : ∀ c ∈ rest.head?, continuesIdentifier c = false ∧ c ≠ apostrophe)
include hrest

theorem takeIdentifier_append {front : List Char} (n : Nat)
    (hfront : ∀ c ∈ front, continuesIdentifier c = true) :
    takeIdentifier (n + 1) (front ++ rest) = .ok (front, rest) := by
  have hstop : ∀ c ∈ rest.head?, continuesIdentifier c = false := fun c hc => (hrest c hc).1
  have hleft := dropWhile_append_of_stop hfront hstop
  have hquote : rest.head? ≠ some apostrophe := fun hc => (hrest _ hc).2 rfl
  rw [takeIdentifier_of_ne (by rwa [hleft]), takeWhile_append_of_stop hfront hstop, hleft]

end

/-- A text goes on an identifier to its end, which takes so many steps at most. -/
def GoesOn (steps : Nat) (cs : List Char) : Prop :=
  ∀ (n : Nat) (front rest : List Char), steps ≤ n →
    (∀ c ∈ front, continuesIdentifier c = true) →
    (∀ c ∈ rest.head?, continuesIdentifier c = false ∧ c ≠ apostrophe) →
    takeIdentifier n (front ++ (cs ++ rest)) = .ok (front ++ cs, rest)

namespace GoesOn

variable {steps : Nat} {cs : List Char}

theorem plain (h : ∀ c ∈ cs, continuesIdentifier c = true) : GoesOn 1 cs := by
  intro n front rest hn hfront hrest
  obtain ⟨k, rfl⟩ := Nat.exists_eq_add_of_le' hn
  rw [← List.append_assoc]
  exact takeIdentifier_append hrest k (List.forall_mem_append.2 ⟨hfront, h⟩)

theorem append {more : List Char} (hmore : ∀ c ∈ more, continuesIdentifier c = true)
    (h : GoesOn steps cs) : GoesOn steps (more ++ cs) := by
  intro n front rest hn hfront hrest
  have hall := h n (front ++ more) rest hn (List.forall_mem_append.2 ⟨hfront, hmore⟩) hrest
  simpa only [List.append_assoc] using hall

/-- The name of a sheet takes a step, and what stands behind it starts anew. -/
theorem sheet (sheet : Option String) (h : GoesOn steps cs) :
    GoesOn (steps + 1) (Reference.sheetSpelling sheet ++ cs) := by
  cases sheet with
  | none =>
    intro n front rest hn
    exact h n front rest (Nat.le_of_succ_le hn)
  | some name =>
    intro n front rest hn hfront hrest
    obtain ⟨k, rfl⟩ : ∃ k, n = k + 1 := ⟨n - 1, by omega⟩
    have htext : Reference.sheetSpelling (some name) ++ cs ++ rest =
        apostrophe :: (doubled name.toList ++ apostrophe :: '!' :: (cs ++ rest)) := by
      simp [Reference.sheetSpelling, quoted]
    have hstop : ∀ c ∈ (apostrophe :: (doubled name.toList ++
        apostrophe :: '!' :: (cs ++ rest))).head?, continuesIdentifier c = false := by
      simp [not_continuesIdentifier_apostrophe]
    have hbehind := h k [] rest (Nat.le_of_succ_le_succ hn) (by simp) hrest
    rw [htext, takeIdentifier_eq_ok (dropWhile_append_of_stop hfront hstop),
      takeWhile_append_of_stop hfront hstop]
    exact ⟨_, _, _, takeSheetName_quoted name.toList _, hbehind,
      by simp [Reference.sheetSpelling]⟩

end GoesOn

theorem goesOn_spelling (r : Reference) : GoesOn 2 r.spelling :=
  .sheet r.sheet (.plain fun _ => continuesIdentifier_of_mem_text)

theorem mem_builtins (b : Builtin) : b ∈ builtins := by
  cases b <;> decide

/-- The names of functions are identifiers. -/
theorem name_eq_cons (b : Builtin) : (∃ c cs, b.signature.name.toList = c :: cs ∧ StartsName c) ∧
    ∀ c ∈ b.signature.name.toList, continuesIdentifier c = true := by
  have hall : (builtins.all fun b => b.signature.name.toList.head?.any (StartsName ·) &&
      b.signature.name.toList.all continuesIdentifier) = true := by decide +kernel
  have hb := List.all_eq_true.1 hall b (mem_builtins b)
  simp only [Bool.and_eq_true] at hb
  obtain ⟨hstart, hcontinues⟩ := hb
  refine ⟨?_, List.all_eq_true.1 hcontinues⟩
  cases hname : b.signature.name.toList with
  | nil => simp [hname] at hstart
  | cons c cs => exact ⟨c, cs, rfl, by simpa [hname] using hstart⟩

theorem spelling_eq_cons (r : Reference) : ∃ c cs, r.spelling = c :: cs ∧ StartsName c := by
  obtain ⟨range, sheet⟩ := r
  cases sheet with
  | none =>
    obtain ⟨c, cs, hcorner, hc⟩ := Grid.Address.exists_text_eq_cons (a := range.corners.1) rfl
    obtain ⟨more, hmore⟩ := range.text_corner_isPrefix
    rw [hcorner] at hmore
    exact ⟨c, cs ++ more, hmore.symm, .inr hc⟩
  | some name => exact ⟨apostrophe, _, rfl, .inl rfl⟩

theorem two_le_length_spelling (r : Reference) : 2 ≤ r.spelling.length := by
  have hcorner := r.range.corners.1.two_le_length_text
  have hrange := r.range.text_corner_isPrefix.length_le
  rw [Reference.spelling, List.length_append]
  omega

/-- A token is scanned back if nothing goes on with it. -/
theorem takeToken_spelling {t : Token} {rest : List Char} (ht : t.Printed)
    (h : t.StopsBefore rest) : takeToken (t.spelling ++ rest) = .ok (t, rest) := by
  cases ht with
  | mark m =>
    rw [Token.spelling_mark, takeToken.eq_def, takeMark?_text h]
  | text s => exact takeToken_text s h
  | name b =>
    have hrest (c : Char) (hc : c ∈ rest.head?) := And.imp_right And.left (h c hc)
    obtain ⟨⟨c, cs, hname, hc⟩, hcontinues⟩ := name_eq_cons b
    have htaken := takeIdentifier_append hrest (cs ++ rest).length hcontinues
    rw [hname] at htaken
    have htoken := takeToken_eq_identifier hc.startsIdentifier htaken
    rw [← hname, String.ofList_toList, ← List.cons_append, ← hname] at htoken
    exact htoken
  | reference r =>
    have hrest (c : Char) (hc : c ∈ rest.head?) := And.imp_right And.left (h c hc)
    obtain ⟨c, cs, hspelling, hc⟩ := spelling_eq_cons r
    have hlength := two_le_length_spelling r
    have htaken := goesOn_spelling r (r.spelling ++ rest).length [] rest
      (by rw [List.length_append]; omega) (by simp) hrest
    rw [List.nil_append, List.nil_append, hspelling, List.cons_append] at htaken
    have htoken := takeToken_eq_identifier hc.startsIdentifier htaken
    rw [← List.cons_append, ← hspelling] at htoken
    rwa [Token.spelling_identifier, String.toList_ofList]

/-! ## All tokens -/

/-- Marks start with characters that literals and identifiers do not go on with. -/
theorem Mark.text_eq_cons (m : Mark) : ∃ c cs, m.text.toList = c :: cs ∧ isBlank c = false ∧
    continuesIdentifier c = false ∧ c ≠ apostrophe ∧ c ≠ '"' := by
  cases m with
  | operator op =>
    cases op with
    | compare c => cases c <;> exact ⟨_, _, rfl, by decide +kernel⟩
    | _ => exact ⟨_, _, rfl, by decide +kernel⟩
  | _ => exact ⟨_, _, rfl, by decide +kernel⟩

theorem StartsName.isBlank_eq_false {c : Char} (h : StartsName c) : isBlank c = false := by
  rcases h with rfl | h
  · decide
  · exact Text.isBlank_eq_false (by omega) (by omega)

/-- Names and references are identifiers. -/
theorem Token.Printed.identifier_eq_cons {text : String} (h : (Token.identifier text).Printed) :
    ∃ c cs, text.toList = c :: cs ∧ StartsName c := by
  cases h with
  | name b => exact (name_eq_cons b).1
  | reference r =>
    rw [String.toList_ofList]
    exact spelling_eq_cons r

/-- No white space stands in front of a token. -/
theorem Token.Printed.spelling_eq_cons {t : Token} (ht : t.Printed) :
    ∃ c cs, t.spelling = c :: cs ∧ isBlank c = false := by
  match t, ht with
  | .mark m, _ =>
    obtain ⟨c, cs, hm, hc, -⟩ := m.text_eq_cons
    exact ⟨c, cs, hm, hc⟩
  | .literal (.text s), _ => exact ⟨'"', _, rfl, by decide⟩
  | .identifier s, ht =>
    obtain ⟨c, cs, hs, hc⟩ := ht.identifier_eq_cons
    exact ⟨c, cs, hs, hc.isBlank_eq_false⟩

theorem stopsBefore_of_meetsMark {ts : List Token} (h : meetsMark ts = true) :
    ∀ c ∈ (ts.flatMap Token.spelling).head?,
      continuesIdentifier c = false ∧ c ≠ apostrophe ∧ c ≠ '"' := by
  match ts, h with
  | [], _ => nofun
  | .mark m :: ts, _ =>
    obtain ⟨c, cs, hm, -, hc⟩ := m.text_eq_cons
    intro c' hc'
    rw [List.flatMap_cons, Token.spelling_mark, hm] at hc'
    cases hc'
    exact hc

theorem stopsBefore_of_startsExpression {ts : List Token} (hts : ∀ t ∈ ts, t.Printed)
    (h : startsExpression ts = true) :
    ∀ c ∈ (ts.flatMap Token.spelling).head?, c ≠ '=' ∧ c ≠ '>' := by
  intro c hc
  match ts, h with
  | .literal v :: ts, _ =>
    have hv := hts (.literal v) (List.mem_cons_self ..)
    cases hv with
    | text s =>
      cases hc
      decide
  | .identifier s :: ts, _ =>
    obtain ⟨c', cs, hs, hc'⟩ := (hts (.identifier s) (List.mem_cons_self ..)).identifier_eq_cons
    rw [List.flatMap_cons, Token.spelling_identifier, hs] at hc
    cases hc
    exact ⟨hc'.ne (by decide), hc'.ne (by decide)⟩
  | .mark .opening :: ts, _ =>
    cases hc
    decide
  | .mark (.operator .add) :: ts, _ =>
    cases hc
    decide
  | .mark (.operator .subtract) :: ts, _ =>
    cases hc
    decide

theorem stopsBefore_of_mayPrecede {t : Token} {ts : List Token} (hts : ∀ t ∈ ts, t.Printed)
    (h : t.MayPrecede ts) : t.StopsBefore (ts.flatMap Token.spelling) := by
  match t, h with
  | .mark (.operator op), h => exact stopsBefore_of_startsExpression hts h
  | .mark .opening, _ => trivial
  | .mark .closing, _ => trivial
  | .mark .comma, _ => trivial
  | .literal v, h => exact stopsBefore_of_meetsMark h
  | .identifier text, h => exact stopsBefore_of_meetsMark h

/-- Separate tokens are scanned back from their texts. -/
theorem tokenizes_spelling {ts : List Token} (hts : ∀ t ∈ ts, t.Printed) (h : Separate ts) :
    Tokenizes (ts.flatMap Token.spelling) ts := by
  induction ts with
  | nil => exact .done rfl
  | cons t ts ih =>
    have ht := hts t (List.mem_cons_self ..)
    have hrest : ∀ t ∈ ts, t.Printed := fun t' ht' => hts t' (List.mem_cons_of_mem t ht')
    obtain ⟨c, cs, hspelling, hblank⟩ := ht.spelling_eq_cons
    have htaken := takeToken_spelling ht (stopsBefore_of_mayPrecede hrest h.1)
    refine .token ?_ (ih hrest h.2)
    rw [List.flatMap_cons]
    rw [hspelling, List.cons_append] at htaken ⊢
    rwa [List.dropWhile_cons_of_neg (by simp [hblank])]

end Spreadsheet.Formula
