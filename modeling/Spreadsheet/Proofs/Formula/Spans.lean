import Mathlib.Data.List.Basic
import Mathlib.Data.List.TakeWhile
import Spreadsheet.Formula.Scan
import Spreadsheet.Proofs.Formula.ReferenceText

/-!
# The spans of tokens

What a token is taken from is its *span*, and the span spells the token: a mark
and an identifier are their spans, a text and a date stand between their quotes,
and a number is what its span alone stands for (`Spells`).  No way of taking a
token skips a character or takes one that it gives back, so the text is the span
with what is left behind it (`exists_span`).

A number looks two characters ahead for its exponent.  Its parts are therefore
followed one by one, and each is taken alike in front of anything that could not
go on with it (`takePlaces_span`, `takeExponent?_append`).
-/

namespace Spreadsheet.Formula

open Spreadsheet.Text (isDigit takeWhile_append_of_stop dropWhile_append_of_stop)

variable {cs rest : List Char} {c d : Char} {m : Mark}

/-- A span spells a token. -/
inductive Spells : List Char → Token → Prop where
  /-- A mark is written as it is. -/
  | mark (m : Mark) : Spells m.text.toList (.mark m)
  /-- A number is what its span stands for, with nothing behind it. -/
  | number {span x} : span ≠ [] → takeNumber span = (x, []) → Spells span (.literal (.number x))
  /-- A text stands between quotes, and quotes in it are written twice. -/
  | text (cs : List Char) :
    Spells ('"' :: (quotesDoubled '"' cs ++ ['"'])) (.literal (.text (String.ofList cs)))
  /-- A date stands between number signs. -/
  | date {cs moment} : '#' ∉ cs → Calendar.Moment.read? (String.ofList cs) = some moment →
    Spells ('#' :: (cs ++ ['#'])) (.literal (.date moment))
  /-- An identifier is written as it is. -/
  | identifier {span} : span ≠ [] → Spells span (.identifier (String.ofList span))

/-! ## Marks -/

theorem toList_text_of_ofChar? (h : Mark.ofChar? c = some m) : m.text.toList = [c] := by
  unfold Mark.ofChar? at h
  split at h <;> cases h <;> rfl

theorem toList_text_of_ofPair? (h : Mark.ofPair? c d = some m) : m.text.toList = [c, d] := by
  unfold Mark.ofPair? at h
  split at h <;> cases h <;> rfl

theorem takeMark?_span (h : takeMark? cs = some (m, rest)) : cs = m.text.toList ++ rest := by
  unfold takeMark? at h
  split at h
  next => cases h
  next c cs =>
    split at h
    next =>
      obtain ⟨_, hmark, h⟩ := Option.map_eq_some_iff.1 h
      cases h
      rw [toList_text_of_ofChar? hmark]
      rfl
    next d left =>
      split at h
      next _ hpair =>
        cases h
        rw [toList_text_of_ofPair? hpair]
        rfl
      next =>
        obtain ⟨_, hmark, h⟩ := Option.map_eq_some_iff.1 h
        cases h
        rw [toList_text_of_ofChar? hmark]
        rfl

theorem text_ne_nil (m : Mark) : m.text.toList ≠ [] := by
  cases m with
  | operator op =>
    cases op with
    | compare c => cases c <;> decide
    | _ => decide
  | _ => decide

theorem Spells.ne_nil {span : List Char} {t : Token} (h : Spells span t) : span ≠ [] := by
  cases h with
  | mark m => exact text_ne_nil m
  | number h => exact h
  | text => exact List.cons_ne_nil _ _
  | date => exact List.cons_ne_nil _ _
  | identifier h => exact h

/-! ## Texts in quotes -/

/-- A text is taken with its closing quote, and quotes that are written twice. -/
theorem takeQuoted_span {quote : Char} {text : List Char}
    (h : takeQuoted quote cs = some (text, rest)) :
    cs = quotesDoubled quote text ++ quote :: rest := by
  fun_induction takeQuoted quote cs generalizing text rest with
  | case1 => cases h
  | case2 =>
    cases h
    rfl
  | case3 => cases h
  | case4 cs ih =>
    obtain ⟨⟨_, _⟩, htaken, h⟩ := Option.map_eq_some_iff.1 h
    cases h
    rw [ih htaken, quotesDoubled_cons_self]
    rfl
  | case5 =>
    cases h
    rfl
  | case6 c d cs hc ih =>
    obtain ⟨⟨_, _⟩, htaken, h⟩ := Option.map_eq_some_iff.1 h
    cases h
    rw [ih htaken, quotesDoubled_cons_of_ne hc]
    rfl

/-- What stands in front of a mark is taken with it. -/
theorem takeWhile_ne_span {mark : Char} (h : cs.dropWhile (· ≠ mark) = c :: rest) :
    mark ∉ cs.takeWhile (· ≠ mark) ∧ cs = cs.takeWhile (· ≠ mark) ++ mark :: rest := by
  have hne : cs.dropWhile (· ≠ mark) ≠ [] := h ▸ List.cons_ne_nil c rest
  have hc : c = mark := by
    have hhead := List.head_dropWhile_not _ hne
    simp only [h, List.head_cons] at hhead
    simpa using hhead
  subst hc
  refine ⟨fun hmem => by simpa using List.mem_takeWhile_imp hmem, ?_⟩
  rw [← h, List.takeWhile_append_dropWhile]

/-! ## Numbers -/

/-- The places are taken with their point, up to what could not be one of them. -/
theorem takePlaces_span (cs : List Char) :
    ∃ front, cs = front ++ (takePlaces cs).2 ∧
      (front.head? = if cs.head? = some '.' then some '.' else none) ∧
      ∀ after : List Char, (∀ c ∈ after.head?, isDigit c = false ∧ c ≠ '.') →
        takePlaces (front ++ after) = ((takePlaces cs).1, after) := by
  by_cases hpoint : cs.head? = some '.'
  · obtain ⟨places, rfl⟩ := List.head?_eq_some_iff.1 hpoint
    refine ⟨'.' :: places.takeWhile isDigit, by simp [takePlaces], by simp, fun after hafter => ?_⟩
    have hdigits : ∀ c ∈ places.takeWhile isDigit, isDigit c = true :=
      fun c => List.mem_takeWhile_imp
    have hstop : ∀ c ∈ after.head?, isDigit c = false := fun c hc => (hafter c hc).1
    rw [List.cons_append]
    simp only [takePlaces, takeWhile_append_of_stop hdigits hstop,
      dropWhile_append_of_stop hdigits hstop]
  · have hnone {after : List Char} (h : after.head? ≠ some '.') :
        takePlaces after = (none, after) := by
      unfold takePlaces
      split
      next => exact absurd rfl h
      next => rfl
    rw [hnone hpoint]
    exact ⟨[], rfl, by simp [hpoint], fun after hafter => hnone fun h => (hafter '.' h).2 rfl⟩

/-- The sign in front of an exponent's digits, if there is one. -/
def signFront (cs : List Char) : List Char :=
  cs.take (if cs.head? = some '+' || cs.head? = some '-' then 1 else 0)

theorem signFront_mem (cs : List Char) : signFront cs ∈ [[], ['+'], ['-']] := by
  unfold signFront
  cases cs with
  | nil => simp
  | cons c cs =>
    by_cases hsign : c = '+' ∨ c = '-'
    · rcases hsign with rfl | rfl <;> simp
    · simp [hsign]

/-- Digits follow the sign. -/
theorem signFront_append {sign digits after : List Char} (hsign : sign ∈ [[], ['+'], ['-']])
    (hne : digits ≠ []) (hdigits : ∀ d ∈ digits, isDigit d = true) :
    signFront (sign ++ (digits ++ after)) = sign := by
  obtain ⟨d, digits, rfl⟩ := List.exists_cons_of_ne_nil hne
  have hd : d ≠ '+' ∧ d ≠ '-' := by
    have hdigit := hdigits d (List.mem_cons_self ..)
    constructor <;> rintro rfl <;> revert hdigit <;> decide
  simp only [List.mem_cons, List.not_mem_nil, or_false] at hsign
  rcases hsign with rfl | rfl | rfl <;> simp [signFront, hd]

/-- An exponent is taken where digits follow the letter and the sign. -/
theorem takeExponent?_eq {sign back : List Char} (hc : c = 'e' ∨ c = 'E')
    (hsign : signFront (sign ++ back) = sign) :
    takeExponent? (c :: (sign ++ back)) =
      if back.takeWhile isDigit = [] then none
      else some (c :: (sign ++ back.takeWhile isDigit), back.dropWhile isDigit) := by
  have hdrop : (back.takeWhile isDigit ++ back.dropWhile isDigit).drop
      (back.takeWhile isDigit).length = back.dropWhile isDigit := List.drop_left
  rw [List.takeWhile_append_dropWhile] at hdrop
  unfold signFront at hsign
  simp only [takeExponent?, hsign, List.drop_left, hdrop, List.isEmpty_iff, List.cons_append]
  rw [if_pos (by simpa using hc)]

/-- A letter, a sign or none, and digits. -/
inductive IsExponent : List Char → Prop where
  | intro {c sign digits} : c = 'e' ∨ c = 'E' → sign ∈ [[], ['+'], ['-']] → digits ≠ [] →
    (∀ d ∈ digits, isDigit d = true) → IsExponent (c :: (sign ++ digits))

theorem takeExponent?_span {exponent : List Char} (h : takeExponent? cs = some (exponent, rest)) :
    cs = exponent ++ rest ∧ IsExponent exponent := by
  cases cs with
  | nil => cases h
  | cons c cs =>
    by_cases hc : c = 'e' ∨ c = 'E'
    · have hmem := signFront_mem cs
      obtain ⟨back, hback⟩ : signFront cs <+: cs := List.take_prefix _ _
      generalize hsign : signFront cs = sign at hmem hback
      subst hback
      rw [takeExponent?_eq hc hsign] at h
      split at h
      next => cases h
      next hdigits =>
        cases h
        exact ⟨by simp, .intro hc hmem hdigits fun d => List.mem_takeWhile_imp⟩
    · simp [takeExponent?, hc] at h

/-- An exponent is taken up to what could not be one of its digits. -/
theorem takeExponent?_append {exponent after : List Char} (h : IsExponent exponent)
    (hafter : ∀ c ∈ after.head?, isDigit c = false) :
    takeExponent? (exponent ++ after) = some (exponent, after) := by
  obtain ⟨hc, hsign, hne, hdigits⟩ := h
  rw [List.cons_append, List.append_assoc,
    takeExponent?_eq hc (signFront_append hsign hne hdigits),
    takeWhile_append_of_stop hdigits hafter, dropWhile_append_of_stop hdigits hafter,
    if_neg hne]

/-- A number with its whole digits and its places already taken, up to a percent sign. -/
def exponentBehind (whole : List Char) (places? : Option (List Char)) (cs : List Char) :
    Float × List Char :=
  let places := places?.getD []
  match takeExponent? cs with
  | some (exponent, rest) =>
    let point := if places?.isSome then ['.'] else []
    ((Decimal.read? (whole ++ point ++ places ++ exponent)).getD Value.nan, rest)
  | none => (roundedNumber (whole ++ places) / Decimal.power 10.0 places.length, cs)

/-- The exponent is taken, if there is one, and does not go on with the places. -/
theorem exponentBehind_span (whole : List Char) (places? : Option (List Char)) (cs : List Char) :
    ∃ front, cs = front ++ (exponentBehind whole places? cs).2 ∧
      (∀ c ∈ front.head?, isDigit c = false ∧ c ≠ '.') ∧
      ∀ after : List Char, (∀ c ∈ after.head?, c = '%') →
        exponentBehind whole places? (front ++ after) =
          ((exponentBehind whole places? cs).1, after) := by
  cases hexponent : takeExponent? cs with
  | none =>
    refine ⟨[], by simp [exponentBehind, hexponent], by simp, fun after hafter => ?_⟩
    have hnone : takeExponent? after = none := by
      cases after with
      | nil => rfl
      | cons c after =>
        rw [hafter c rfl]
        rfl
    simp [exponentBehind, hexponent, hnone]
  | some taken =>
    obtain ⟨exponent, rest⟩ := taken
    obtain ⟨hcs, hform⟩ := takeExponent?_span hexponent
    refine ⟨exponent, by simpa [exponentBehind, hexponent] using hcs, ?_, fun after hafter => ?_⟩
    · obtain ⟨rfl | rfl, -, -, -⟩ := hform <;> simp <;> decide
    · have hdigit : ∀ c ∈ after.head?, isDigit c = false := by
        rintro c hc
        rw [hafter c hc]
        decide
      simp [exponentBehind, hexponent, takeExponent?_append hform hdigit]

/-- A number in front of a percent sign or none, and what follows it. -/
def percentBehind (x : Float) (cs : List Char) : Float × List Char :=
  match cs with
  | '%' :: rest => (x / 100.0, rest)
  | _ => (x, cs)

theorem percentBehind_span (x : Float) (cs : List Char) :
    ∃ back, cs = back ++ (percentBehind x cs).2 ∧ (∀ c ∈ back.head?, c = '%') ∧
      percentBehind x back = ((percentBehind x cs).1, []) := by
  unfold percentBehind
  split
  next => exact ⟨['%'], rfl, by simp, rfl⟩
  next => exact ⟨[], rfl, by simp, rfl⟩

theorem takeNumber_eq {cs whole behind : List Char} {places? : Option (List Char)}
    (hwhole : cs.takeWhile isDigit = whole)
    (hplaces : takePlaces (cs.dropWhile isDigit) = (places?, behind)) :
    takeNumber cs = percentBehind (exponentBehind whole places? behind).1
      (exponentBehind whole places? behind).2 := by
  subst hwhole
  unfold takeNumber
  simp only [hplaces]
  rfl

/-- What starts the front, or the back when there is no front, starts both together. -/
theorem head?_append_of {P : Char → Prop} {front back : List Char}
    (hfront : ∀ c ∈ front.head?, P c) (hback : ∀ c ∈ back.head?, P c) :
    ∀ c ∈ (front ++ back).head?, P c := by
  cases front with
  | nil => exact hback
  | cons => exact hfront

/-- A number starts with a digit or with its point. -/
theorem exists_cons_of_startsNumber (h : startsNumber cs = true) :
    ∃ c left, cs = c :: left ∧ (isDigit c = true ∨ c = '.') := by
  unfold startsNumber at h
  split at h
  next => exact ⟨_, _, rfl, .inr rfl⟩
  next => exact ⟨_, _, rfl, .inl h⟩
  next => cases h

/-- A number is what its span stands for. -/
theorem takeNumber_span (h : startsNumber cs = true) :
    ∃ span, span ≠ [] ∧ cs = span ++ (takeNumber cs).2 ∧
      takeNumber span = ((takeNumber cs).1, []) := by
  obtain ⟨places, hplaces, hpoint, hplacesOf⟩ := takePlaces_span (cs.dropWhile isDigit)
  generalize htaken : takePlaces (cs.dropWhile isDigit) = taken at hplaces hplacesOf
  obtain ⟨places?, behind⟩ := taken
  have hnumber := takeNumber_eq rfl htaken
  obtain ⟨exponent, hexponent, hletter, hexponentOf⟩ :=
    exponentBehind_span (cs.takeWhile isDigit) places? behind
  generalize exponentBehind (cs.takeWhile isDigit) places? behind = taken
    at hnumber hexponent hexponentOf
  obtain ⟨x, left⟩ := taken
  obtain ⟨percent, hpercent, hsign, hpercentOf⟩ := percentBehind_span x left
  rw [hnumber]
  refine ⟨cs.takeWhile isDigit ++ (places ++ (exponent ++ percent)), ?_, ?_, ?_⟩
  · obtain ⟨c, left, rfl, hc | rfl⟩ := exists_cons_of_startsNumber h
    · simp [hc]
    · have hplaces : places ≠ [] := by
        rintro rfl
        simp [show isDigit '.' = false from by decide] at hpoint
      simp [hplaces]
  · calc cs = cs.takeWhile isDigit ++ cs.dropWhile isDigit := List.takeWhile_append_dropWhile.symm
      _ = cs.takeWhile isDigit ++ (places ++ (exponent ++ (percent ++ (percentBehind x left).2))) := by
        rw [hplaces, hexponent, ← hpercent]
      _ = _ := by simp
  · -- Each part ends where the next one starts, because none of them starts with a digit.
    have hdigits : ∀ c ∈ cs.takeWhile isDigit, isDigit c = true := fun c => List.mem_takeWhile_imp
    have hbehind : ∀ c ∈ (exponent ++ percent).head?, isDigit c = false ∧ c ≠ '.' :=
      head?_append_of hletter fun c hc => by
        rw [hsign c hc]
        decide
    have hplacesStop : ∀ c ∈ places.head?, isDigit c = false := by
      intro c hc
      rw [hpoint] at hc
      obtain ⟨-, rfl⟩ : (cs.dropWhile isDigit).head? = some '.' ∧ '.' = c := by simpa using hc
      decide
    have hstop : ∀ c ∈ (places ++ (exponent ++ percent)).head?, isDigit c = false :=
      head?_append_of hplacesStop fun c hc => (hbehind c hc).1
    have hwhole := takeWhile_append_of_stop hdigits hstop
    have hplaces' : takePlaces ((cs.takeWhile isDigit ++
        (places ++ (exponent ++ percent))).dropWhile isDigit) = (places?, exponent ++ percent) := by
      rw [dropWhile_append_of_stop hdigits hstop, hplacesOf _ hbehind]
    rw [takeNumber_eq hwhole hplaces', hexponentOf _ hsign, hpercentOf]

/-! ## Identifiers -/

theorem takeSheetName_span {name : List Char} (h : takeSheetName cs = .ok (name, rest)) :
    name ≠ [] ∧ apostrophe :: cs = name ++ rest := by
  unfold takeSheetName at h
  split at h
  next => cases h
  next name rest hname =>
    cases h
    refine ⟨by simp, ?_⟩
    rw [takeQuoted_span hname, ← doubled_eq]
    simp [quoted]
  next => cases h

/-- An identifier goes on behind a sheet name. -/
theorem takeIdentifier_eq_ok {n : Nat} {cs left text rest : List Char}
    (hleft : cs.dropWhile continuesIdentifier = apostrophe :: left) :
    takeIdentifier (n + 1) cs = .ok (text, rest) ↔
      ∃ name left' more, takeSheetName left = .ok (name, left') ∧
        takeIdentifier n left' = .ok (more, rest) ∧
        cs.takeWhile continuesIdentifier ++ name ++ more = text := by
  simp only [takeIdentifier, hleft, if_true]
  cases hname : takeSheetName left with
  | error e => simp [bind, Except.bind]
  | ok taken =>
    obtain ⟨name, left'⟩ := taken
    cases hmore : takeIdentifier n left' with
    | error e => simp [bind, Except.bind, hmore]
    | ok taken =>
      obtain ⟨more, rest'⟩ := taken
      simp [bind, Except.bind, hmore]
      tauto

/-- What an identifier leaves, when it does not go on behind a sheet name. -/
theorem takeIdentifier_of_ne {n : Nat} {cs : List Char}
    (h : (cs.dropWhile continuesIdentifier).head? ≠ some apostrophe) :
    takeIdentifier (n + 1) cs =
      .ok (cs.takeWhile continuesIdentifier, cs.dropWhile continuesIdentifier) := by
  simp only [takeIdentifier]
  split
  next hleft => rw [hleft]
  next c left hleft =>
    rw [hleft] at h ⊢
    rw [if_neg fun hc => h (congrArg some hc)]

theorem takeIdentifier_span {n : Nat} {text : List Char}
    (h : takeIdentifier n cs = .ok (text, rest)) : cs = text ++ rest := by
  induction n generalizing cs text rest with
  | zero =>
    cases h
    rfl
  | succ n ih =>
    have hpart : cs = cs.takeWhile continuesIdentifier ++ cs.dropWhile continuesIdentifier :=
      List.takeWhile_append_dropWhile.symm
    by_cases hquote : (cs.dropWhile continuesIdentifier).head? = some apostrophe
    · obtain ⟨left, hleft⟩ := List.head?_eq_some_iff.1 hquote
      obtain ⟨name, left', more, hname, hmore, rfl⟩ := (takeIdentifier_eq_ok hleft).1 h
      rw [hleft, (takeSheetName_span hname).2, ih hmore] at hpart
      simpa using hpart
    · rw [takeIdentifier_of_ne hquote] at h
      cases h
      exact hpart

theorem not_continuesIdentifier_apostrophe : continuesIdentifier apostrophe = false := by
  decide +kernel

/-- An identifier takes at least the character that starts it, or a sheet name. -/
theorem text_ne_nil_of_takeIdentifier {n : Nat} {c : Char} {cs text rest : List Char}
    (hc : c = apostrophe ∨ startsIdentifier c = true)
    (h : takeIdentifier (n + 1) (c :: cs) = .ok (text, rest)) : text ≠ [] := by
  by_cases hquote : ((c :: cs).dropWhile continuesIdentifier).head? = some apostrophe
  · obtain ⟨left, hleft⟩ := List.head?_eq_some_iff.1 hquote
    obtain ⟨name, left', more, hname, -, rfl⟩ := (takeIdentifier_eq_ok hleft).1 h
    simp [(takeSheetName_span hname).1]
  · rw [takeIdentifier_of_ne hquote] at h
    cases h
    rcases hc with rfl | hc
    · simp [not_continuesIdentifier_apostrophe] at hquote
    · simp [continuesIdentifier, hc]

/-! ## Tokens -/

/-- A token is taken with its span. -/
theorem exists_span {t : Token} (h : takeToken cs = .ok (t, rest)) :
    ∃ span, Spells span t ∧ cs = span ++ rest := by
  unfold takeToken at h
  split at h
  next m left hmark =>
    cases h
    exact ⟨_, .mark m, takeMark?_span hmark⟩
  next =>
    split at h
    next hnumber =>
      obtain ⟨span, hne, hcs, hspan⟩ := takeNumber_span hnumber
      generalize takeNumber cs = taken at h hcs hspan
      cases h
      exact ⟨span, .number hne hspan, hcs⟩
    next =>
      split at h
      next cs _ =>
        split at h
        next => cases h
        next => cases h
        next text left _ hquoted =>
          cases h
          exact ⟨_, .text text, by rw [takeQuoted_span hquoted]; simp⟩
      next cs _ _ =>
        split at h
        next => cases h
        next c left hdrop =>
          dsimp only at h
          split at h
          next m hread =>
            cases h
            obtain ⟨hmark, hcs⟩ := takeWhile_ne_span hdrop
            refine ⟨_, .date hmark hread, ?_⟩
            rw [List.cons_append, List.append_assoc, List.singleton_append, ← hcs]
          next => cases h
      next c cs _ _ _ _ =>
        split at h
        next hc =>
          cases htaken : takeIdentifier (c :: cs).length (c :: cs) with
          | error e =>
            rw [htaken] at h
            cases h
          | ok taken =>
            rw [htaken] at h
            cases h
            have hne := text_ne_nil_of_takeIdentifier (by simpa using hc) htaken
            exact ⟨_, .identifier hne, takeIdentifier_span htaken⟩
        next => cases h
      next => cases h

end Spreadsheet.Formula
