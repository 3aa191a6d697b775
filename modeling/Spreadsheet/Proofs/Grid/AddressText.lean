import Mathlib.Data.List.Basic
import Mathlib.Data.List.TakeWhile
import Spreadsheet.Grid.Range
import Spreadsheet.Proofs.Grid.ColumnLetters

/-!
# The texts of addresses and ranges

A text that is an address is taken apart in `Address.Form`, which holds what its
parts have to satisfy.  Such texts are read (`Address.Form.read`), with white
space around them or without, and no others are (`Address.exists_form_of_read`).

Reading undoes writing (`Address.read_text`), because what is written has a
form.  Row and column numbers count from one in a text, so this holds of the
addresses whose numbers are still below `indexLimit`.

The text of an address consists of capital letters, digits and `$`
(`Address.mem_text`), so it has no white space to be trimmed and none of the
marks that divide a reference.
-/

namespace Spreadsheet.Text

/-! ## Trimming -/

/-- The printed characters of ASCII are not white space. -/
theorem isBlank_eq_false {c : Char} (h : 33 ≤ c.toNat) (h' : c.toNat < 133) :
    isBlank c = false := by
  have hbelow : CodeSet.below c.toNat blanks.bounds = 4 := by
    simp only [blanks, CodeSet.below]
    rw [if_pos (by omega), if_pos (by omega), if_pos (by omega), if_pos (by omega),
      if_neg (by omega)]
  simp [isBlank, CodeSet.contains, hbelow]

theorem dropWhile_isBlank {cs : List Char} (h : ∀ c ∈ cs.head?, isBlank c = false) :
    cs.dropWhile isBlank = cs := by
  cases cs with
  | nil => rfl
  | cons c cs => exact List.dropWhile_cons_of_neg (by simp [h c rfl])

/-- Nothing is trimmed from a text without white space at its ends. -/
theorem trim_ofList {cs : List Char} (hhead : ∀ c ∈ cs.head?, isBlank c = false)
    (hlast : ∀ c ∈ cs.getLast?, isBlank c = false) :
    trim (String.ofList cs) = String.ofList cs := by
  rw [trim, String.toList_ofList, trimStart, dropWhile_isBlank hhead, trimEnd, dropWhile_isBlank,
    List.reverse_reverse]
  rwa [List.head?_reverse]

/-- Nothing is trimmed from a text without white space. -/
theorem trim_eq_self {s : String} (h : ∀ c ∈ s.toList, isBlank c = false) : trim s = s := by
  have htrim := trim_ofList (fun c hc => h c (List.mem_of_head? hc))
    (fun c hc => h c (List.mem_of_getLast? hc))
  rwa [String.ofList_toList] at htrim

/-! ## Cutting -/

section

variable {p : Char → Bool} {front back : List Char}

theorem takeWhile_append_of_stop (hfront : ∀ c ∈ front, p c = true)
    (hback : ∀ c ∈ back.head?, p c = false) : (front ++ back).takeWhile p = front := by
  rw [List.takeWhile_append_of_pos hfront]
  cases back with
  | nil => exact List.append_nil front
  | cons c cs => rw [List.takeWhile_cons_of_neg (by simp [hback c rfl]), List.append_nil]

theorem dropWhile_append_of_stop (hfront : ∀ c ∈ front, p c = true)
    (hback : ∀ c ∈ back.head?, p c = false) : (front ++ back).dropWhile p = back := by
  rw [List.dropWhile_append_of_pos hfront]
  cases back with
  | nil => rfl
  | cons c cs => exact List.dropWhile_cons_of_neg (by simp [hback c rfl])

end

end Spreadsheet.Text

namespace Spreadsheet.Grid

open Spreadsheet.Text (isDigit digitValue isAsciiLetter isBlank trim_eq_self isBlank_eq_false
  takeWhile_append_of_stop dropWhile_append_of_stop)
open Spreadsheet.Decimal (number numberBelow_eq_number le_numberBelow_iff digitsOf)

/-! ## Row numbers -/

theorem digitsOf_eq (n : Nat) :
    digitsOf n = if n < 10 then [Nat.digitChar n]
      else digitsOf (n / 10) ++ [Nat.digitChar (n % 10)] := by
  unfold digitsOf
  exact Nat.toDigits_eq_if (by omega)

theorem digitValue_digitChar : ∀ d < 10, digitValue (Nat.digitChar d) = d := by decide

theorem isDigit_digitChar : ∀ d < 10, isDigit (Nat.digitChar d) = true := by decide

theorem digitsOf_ne_nil (n : Nat) : digitsOf n ≠ [] := by
  rw [digitsOf_eq]
  split <;> simp

theorem isDigit_of_mem_digitsOf {n : Nat} {c : Char} (h : c ∈ digitsOf n) : isDigit c = true := by
  induction n using Nat.strongRecOn with
  | ind n ih =>
    rw [digitsOf_eq] at h
    split at h
    next hn =>
      rw [List.mem_singleton.1 h]
      exact isDigit_digitChar n hn
    next hn =>
      rw [List.mem_append, List.mem_singleton] at h
      rcases h with h | rfl
      · exact ih (n / 10) (by omega) h
      · exact isDigit_digitChar _ (Nat.mod_lt n (by omega))

/-- The digits of a number stand for it. -/
theorem number_digitsOf (n : Nat) : number 0 (digitsOf n) = n := by
  induction n using Nat.strongRecOn with
  | ind n ih =>
    rw [digitsOf_eq]
    split
    next hn => simp [number, digitValue_digitChar n hn]
    next hn =>
      have hfront := ih (n / 10) (by omega)
      have hlast := digitValue_digitChar (n % 10) (Nat.mod_lt n (by omega))
      simp only [number, List.foldl_append, List.foldl_cons, List.foldl_nil] at hfront ⊢
      rw [hfront, hlast]
      omega

namespace Address

variable {a : Address}

/-! ## The characters of an address -/

/-- The mark of an absolute index. -/
def dollar (absolute : Bool) : List Char := if absolute then ['$'] else []

theorem toList_text (a : Address) : a.text.toList = dollar a.columnAbsolute ++
    (lettersOf (a.column + 1) ++ (dollar a.rowAbsolute ++ digitsOf (a.row + 1))) := by
  unfold text dollar columnLetters
  cases a.columnAbsolute <;> cases a.rowAbsolute <;> simp

/-- An address is written with capital letters, digits and `$`. -/
theorem mem_text {c : Char} (h : c ∈ a.text.toList) :
    c = '$' ∨ (65 ≤ c.toNat ∧ c.toNat ≤ 90) ∨ (48 ≤ c.toNat ∧ c.toNat ≤ 57) := by
  rw [toList_text] at h
  simp only [dollar, List.mem_append] at h
  rcases h with h | h | h | h
  · left
    split at h <;> simp_all
  · exact .inr (.inl (mem_lettersOf h))
  · left
    split at h <;> simp_all
  · have hdigit := isDigit_of_mem_digitsOf h
    simp only [isDigit, Bool.and_eq_true, decide_eq_true_eq] at hdigit
    exact .inr (.inr hdigit)

theorem isBlank_of_mem_text {c : Char} (h : c ∈ a.text.toList) : isBlank c = false := by
  have hdollar : '$'.toNat = 36 := rfl
  have hc : 33 ≤ c.toNat ∧ c.toNat < 133 := by
    rcases mem_text h with rfl | h | h <;> omega
  exact isBlank_eq_false hc.1 hc.2

/-- There is a letter and a digit. -/
theorem two_le_length_text (a : Address) : 2 ≤ a.text.toList.length := by
  have hletters := List.length_pos_iff.2 (lettersOf_succ_ne_nil a.column)
  have hdigits := List.length_pos_iff.2 (digitsOf_ne_nil (a.row + 1))
  simp only [toList_text, List.length_append]
  omega

/-- The text of a relative address starts with a letter. -/
theorem exists_text_eq_cons (h : a.columnAbsolute = false) :
    ∃ c cs, a.text.toList = c :: cs ∧ 65 ≤ c.toNat ∧ c.toNat ≤ 90 := by
  obtain ⟨c, letters, hletters⟩ := List.exists_cons_of_ne_nil (lettersOf_succ_ne_nil a.column)
  have hc := mem_lettersOf (n := a.column + 1) (c := c) (by simp [hletters])
  exact ⟨c, letters ++ (dollar a.rowAbsolute ++ digitsOf (a.row + 1)),
    by simp [toList_text, h, dollar, hletters], hc⟩

/-! ## Reading -/

/-- A text that is an address, taken apart: the column letters and the digits of the row, each of
which may be marked with a `$`.  What they count is below the limit and not zero. -/
structure Form where
  /-- Whether the column is marked. -/
  columnAbsolute : Bool
  /-- The letters of the column. -/
  letters : List Char
  /-- Whether the row is marked. -/
  rowAbsolute : Bool
  /-- The digits of the row. -/
  digits : List Char
  /-- There is a letter. -/
  letters_ne_nil : letters ≠ []
  /-- The letters are those of the alphabet, in upper or lower case. -/
  isAsciiLetter : ∀ c ∈ letters, isAsciiLetter c = true
  /-- The letters count less than the limit. -/
  letters_lt : lettersNumber letters < indexLimit
  /-- The digits are decimal. -/
  isDigit : ∀ c ∈ digits, isDigit c = true
  /-- The digits count at least one, so there are some. -/
  digits_pos : 0 < number 0 digits
  /-- The digits count less than the limit. -/
  digits_lt : number 0 digits < indexLimit

namespace Form

variable {f : Form}

/-- The text. -/
def text (f : Form) : List Char :=
  dollar f.columnAbsolute ++ (f.letters ++ (dollar f.rowAbsolute ++ f.digits))

/-- The address, which counts from zero. -/
def address (f : Form) : Address where
  row := number 0 f.digits - 1
  column := lettersNumber f.letters - 1
  rowAbsolute := f.rowAbsolute
  columnAbsolute := f.columnAbsolute
  row_lt := Nat.lt_of_le_of_lt (Nat.sub_le _ _) f.digits_lt
  column_lt := Nat.lt_of_le_of_lt (Nat.sub_le _ _) f.letters_lt

theorem digits_ne_nil (f : Form) : f.digits ≠ [] := by
  intro h
  have hpos := f.digits_pos
  rw [h] at hpos
  exact Nat.lt_irrefl 0 hpos

/-- An address is a text of letters, digits and `$`. -/
theorem mem_text {c : Char} (h : c ∈ f.text) :
    c = '$' ∨ Text.isAsciiLetter c = true ∨ Text.isDigit c = true := by
  simp only [text, dollar, List.mem_append] at h
  rcases h with h | h | h | h
  · left
    split at h <;> simp_all
  · exact .inr (.inl (f.isAsciiLetter c h))
  · left
    split at h <;> simp_all
  · exact .inr (.inr (f.isDigit c h))

theorem isBlank_of_mem_text {c : Char} (h : c ∈ f.text) : isBlank c = false := by
  have hdollar : '$'.toNat = 36 := rfl
  have hc : 33 ≤ c.toNat ∧ c.toNat < 133 := by
    rcases mem_text h with rfl | h | h
    · omega
    · simp only [Text.isAsciiLetter, Bool.or_eq_true, Bool.and_eq_true, decide_eq_true_eq] at h
      omega
    · simp only [Text.isDigit, Bool.and_eq_true, decide_eq_true_eq] at h
      omega
  exact isBlank_eq_false hc.1 hc.2

end Form

theorem takeDollar_dollar (absolute : Bool) {cs : List Char} (h : cs.head? ≠ some '$') :
    takeDollar (dollar absolute ++ cs) = (absolute, cs) := by
  cases absolute with
  | true => rfl
  | false =>
    change takeDollar cs = _
    unfold takeDollar
    split
    next => exact absurd rfl h
    next => rfl

theorem eq_dollar_append {cs rest : List Char} {absolute : Bool}
    (h : takeDollar cs = (absolute, rest)) : cs = dollar absolute ++ rest := by
  unfold takeDollar at h
  split at h
  next => cases h; rfl
  next => cases h; rfl

/-- A text that starts with characters of a kind does not start with a `$` that is not. -/
theorem head?_ne_dollar {p : Char → Bool} (hp : p '$' = false) {cs rest : List Char} (hne : cs ≠ [])
    (h : ∀ c ∈ cs, p c = true) : (cs ++ rest).head? ≠ some '$' := by
  obtain ⟨c, cs, rfl⟩ := List.exists_cons_of_ne_nil hne
  rintro ⟨⟩
  exact Bool.false_ne_true (hp.symm.trans (h _ List.mem_cons_self))

/-- Letters end where a `$` or digits follow. -/
theorem not_isAsciiLetter_head? (absolute : Bool) {digits : List Char}
    (h : ∀ c ∈ digits, isDigit c = true) :
    ∀ c ∈ (dollar absolute ++ digits).head?, isAsciiLetter c = false := by
  intro c hc
  cases absolute with
  | true =>
    cases hc
    decide
  | false =>
    have hdigit := h c (List.mem_of_head? hc)
    simp only [isDigit, Bool.and_eq_true, decide_eq_true_eq] at hdigit
    simp only [isAsciiLetter, Bool.or_eq_false_iff, Bool.and_eq_false_iff, decide_eq_false_iff_not]
    omega

theorem ofRowNumber_eq_ok {text : String} {columnAbsolute rowAbsolute : Bool} {column n : Nat}
    (hpos : 0 < n) (hrow : n - 1 < indexLimit) (hcolumn : column < indexLimit) :
    ofRowNumber text columnAbsolute rowAbsolute column n =
      .ok ⟨n - 1, column, rowAbsolute, columnAbsolute, hrow, hcolumn⟩ := by
  unfold ofRowNumber
  rw [if_neg (Nat.ne_of_gt hpos), dif_pos ⟨hrow, hcolumn⟩]

/-- A text is read as the address that it is, with white space around it or without. -/
theorem Form.read {f : Form} {s : String} (h : (Text.trim s).toList = f.text) :
    Address.read s = .ok f.address := by
  have hstop := not_isAsciiLetter_head? f.rowAbsolute f.isDigit
  have htext : (Text.trim s).isEmpty = false := by
    rw [Bool.eq_false_iff, ne_eq, String.isEmpty_iff, ← String.toList_eq_nil_iff, h]
    simp [text, f.letters_ne_nil]
  have hsome : f.letters.isEmpty = false := List.isEmpty_eq_false_iff.2 f.letters_ne_nil
  have hcolumn : columnOfLetters f.letters = .ok (lettersNumber f.letters - 1) := by
    rw [columnOfLetters_eq f.letters_ne_nil f.isAsciiLetter, if_pos f.letters_lt]
  have hdigits : (f.digits.isEmpty || !f.digits.all Text.isDigit ||
      decide (indexLimit ≤ number 0 f.digits)) = false := by
    rw [List.isEmpty_eq_false_iff.2 f.digits_ne_nil, List.all_eq_true.2 f.isDigit,
      decide_eq_false (Nat.not_le.2 f.digits_lt)]
    rfl
  have hrow : (f.digits ++ []).head? ≠ some '$' :=
    head?_ne_dollar (by decide) f.digits_ne_nil f.isDigit
  rw [List.append_nil] at hrow
  unfold Address.read
  simp only [htext, h, text,
    takeDollar_dollar _ (head?_ne_dollar (by decide) f.letters_ne_nil f.isAsciiLetter),
    takeWhile_append_of_stop f.isAsciiLetter hstop, dropWhile_append_of_stop f.isAsciiLetter hstop,
    hsome, takeDollar_dollar _ hrow, hcolumn, numberBelow_eq_number f.digits_lt, hdigits,
    Bool.false_eq_true, if_false]
  exact ofRowNumber_eq_ok f.digits_pos _ f.address.column_lt

theorem Form.read_text (f : Form) : Address.read (String.ofList f.text) = .ok f.address := by
  have htrim : Text.trim (String.ofList f.text) = String.ofList f.text :=
    trim_eq_self fun c hc => isBlank_of_mem_text (String.toList_ofList ▸ hc)
  exact Form.read (by rw [htrim, String.toList_ofList])

/-- What is read as an address is the text of one. -/
theorem exists_form_of_read {s : String} (h : read s = .ok a) :
    ∃ f : Form, (Text.trim s).toList = f.text ∧ f.address = a := by
  unfold read at h
  dsimp only at h
  split at h
  · cases h
  generalize hcolumn : takeDollar (Text.trim s).toList = front at h
  obtain ⟨columnAbsolute, cs⟩ := front
  dsimp only at h
  split at h
  · cases h
  next hletters =>
    have hne : cs.takeWhile isAsciiLetter ≠ [] := fun hnil => hletters (List.isEmpty_iff.2 hnil)
    have hall : ∀ c ∈ cs.takeWhile isAsciiLetter, isAsciiLetter c = true :=
      fun _ => List.mem_takeWhile_imp
    rw [columnOfLetters_eq hne hall] at h
    split at h
    · cases h
    next column hlt =>
      split at hlt
      next hlt' =>
        cases hlt
        generalize hrow : takeDollar (cs.dropWhile isAsciiLetter) = back at h
        obtain ⟨rowAbsolute, digits⟩ := back
        dsimp only at h
        split at h
        · cases h
        next hdigits =>
          simp only [Bool.or_eq_true, Bool.not_eq_true', decide_eq_true_eq, not_or,
            Bool.not_eq_false, le_numberBelow_iff, Nat.not_le] at hdigits
          obtain ⟨⟨-, hdigits⟩, hbelow⟩ := hdigits
          rw [numberBelow_eq_number hbelow, ofRowNumber] at h
          split at h
          · cases h
          next hzero =>
            split at h
            next =>
              cases h
              refine ⟨⟨columnAbsolute, cs.takeWhile isAsciiLetter, rowAbsolute, digits, hne, hall,
                hlt', List.all_eq_true.1 hdigits, Nat.pos_of_ne_zero hzero, hbelow⟩, ?_, rfl⟩
              rw [eq_dollar_append hcolumn, Form.text, ← eq_dollar_append hrow,
                List.takeWhile_append_dropWhile]
            next => cases h
      next => cases hlt

/-- The form in which an address is written. -/
def form (a : Address) (hrow : a.row + 1 < indexLimit) (hcolumn : a.column + 1 < indexLimit) :
    Form where
  columnAbsolute := a.columnAbsolute
  letters := lettersOf (a.column + 1)
  rowAbsolute := a.rowAbsolute
  digits := digitsOf (a.row + 1)
  letters_ne_nil := lettersOf_succ_ne_nil a.column
  isAsciiLetter _ := isAsciiLetter_of_mem_lettersOf
  letters_lt := by rwa [lettersNumber_lettersOf]
  isDigit _ := isDigit_of_mem_digitsOf
  digits_pos := by rw [number_digitsOf]; exact Nat.succ_pos _
  digits_lt := by rwa [number_digitsOf]

/-- A text is read back if its numbers are below the limit. -/
theorem read_text (hrow : a.row + 1 < indexLimit) (hcolumn : a.column + 1 < indexLimit) :
    read a.text = .ok a := by
  have htext : a.text = String.ofList (a.form hrow hcolumn).text := by
    rw [← String.toList_inj, toList_text, String.toList_ofList]
    rfl
  have haddress : (a.form hrow hcolumn).address = a := by
    simp only [form, Form.address, number_digitsOf, lettersNumber_lettersOf, Nat.add_sub_cancel]
  rw [htext, Form.read_text, haddress]

end Address

namespace Range

variable {r : Range}

/-! ## Ranges -/

/-- A range lies between its corners. -/
theorem ofCorners_corners (r : Range) : ofCorners r.corners.1 r.corners.2 = r :=
  Range.ext (Nat.min_eq_left r.top_le) (Nat.min_eq_left r.left_le) (Nat.max_eq_right r.top_le)
    (Nat.max_eq_right r.left_le)

theorem isSingle_iff : r.isSingle = true ↔ r.top = r.bottom ∧ r.left = r.right := by
  simp [isSingle]

theorem single_corners (h : r.isSingle = true) : single r.corners.1 = r := by
  obtain ⟨hrow, hcolumn⟩ := isSingle_iff.1 h
  exact Range.ext (Nat.min_self _) (Nat.min_self _) ((Nat.max_self _).trans hrow)
    ((Nat.max_self _).trans hcolumn)

/-- A range of one cell is written as the address of the cell. -/
theorem text_of_isSingle (h : r.isSingle = true) : r.text = r.corners.1.text := if_pos h

theorem toList_text_of_not_isSingle (h : r.isSingle = false) :
    r.text.toList = r.corners.1.text.toList ++ ':' :: r.corners.2.text.toList := by
  unfold text
  rw [if_neg (by simp [h]), String.toList_append, String.toList_append, List.append_assoc]
  rfl

/-- The text of a range starts with its first corner. -/
theorem text_corner_isPrefix (r : Range) : r.corners.1.text.toList <+: r.text.toList := by
  cases hsingle : r.isSingle with
  | true => exact text_of_isSingle hsingle ▸ List.prefix_rfl
  | false =>
    rw [toList_text_of_not_isSingle hsingle]
    exact List.prefix_append ..

/-- A range is written with capital letters, digits, `$` and a colon. -/
theorem mem_text {c : Char} (h : c ∈ r.text.toList) :
    c = ':' ∨ c = '$' ∨ (65 ≤ c.toNat ∧ c.toNat ≤ 90) ∨ (48 ≤ c.toNat ∧ c.toNat ≤ 57) := by
  cases hsingle : r.isSingle with
  | true =>
    rw [text_of_isSingle hsingle] at h
    exact .inr (Address.mem_text h)
  | false =>
    rw [toList_text_of_not_isSingle hsingle, List.mem_append, List.mem_cons] at h
    rcases h with h | h | h
    · exact .inr (Address.mem_text h)
    · exact .inl h
    · exact .inr (Address.mem_text h)

end Range

end Spreadsheet.Grid
