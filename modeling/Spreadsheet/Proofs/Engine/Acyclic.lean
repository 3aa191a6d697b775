import Spreadsheet.Proofs.Engine.Nesting

/-!
# Workbooks without cycles

A workbook has no cycle of references when its formula cells can be ranked so
that every formula cell in a range that is written in a formula has a smaller
rank than the cell of the formula (`Ranking`).  For such a workbook the keys are
not needed: cells can be computed by recursion on the rank, without any being
held (`unguarded`).  That the engine comes to the same values has two reasons.

* The keys that are held while a cell is computed are keys of ranges that
  contain formula cells of the same rank or a greater one (`HeldAbove`).  A range
  that the cell asks for is a part of one that is written in its formula, so all
  its formula cells have smaller ranks.  Hence its key is not held (`Stands.free`).
  For this the names of the sheets have to be distinct, since a key knows a
  sheet by its name alone.
* A reading that is not refused gives the values of the cells, which are the same
  by induction on the rank (`value_guarded`).

So nothing is refused as circular in any nested evaluation, and the results are
those of the unguarded computation (`Reached.eq_unguarded`).
-/

namespace Spreadsheet.Engine

open Spreadsheet.Evaluation
open Spreadsheet.Formula (Error Reference)
open Spreadsheet.Grid (Content Range Workbook)

/-! ## Ranks -/

/-- A rank of the formula cells of a workbook that falls along the ranges that are written in their
formulas. -/
structure Ranking (b : Workbook) where
  /-- The rank of a cell, by its sheet, row and column. -/
  rank : Nat → Nat → Nat → Nat
  /-- A formula cell in a range that is written in a formula has a smaller rank. -/
  decreases : ∀ {i row column formula body w j row' column' formula'},
    b.host.content i row column = .formula formula → formulaBody? formula = some body →
    w ∈ Formula.references .standard body → sheetOf b.host i w = .ok j →
    w.range.contains row' column' = true → b.host.content j row' column' = .formula formula' →
    rank j row' column' < rank i row column

/-- A formula cell in a part of a range that is written in a formula has a smaller rank. -/
theorem Ranking.lt_of_scope {b : Workbook} (k : Ranking b) {i row column j row' column' : Nat}
    {r : Reference} {formula body formula' : String}
    (hcontent : b.host.content i row column = .formula formula)
    (hbody : formulaBody? formula = some body) (hr : (formulaScope .standard body).has r)
    (hj : sheetOf b.host i r = .ok j) (hcell : r.range.contains row' column' = true)
    (hcontent' : b.host.content j row' column' = .formula formula') :
    k.rank j row' column' < k.rank i row column := by
  obtain ⟨w, hw, hsheet, hrange⟩ := hr
  have hwsheet := sheetOf_congr b.host i hsheet hj
  exact k.decreases hcontent hbody hw hwsheet (hrange.contains hcell) hcontent'

/-- The cells that a request is for lie in its range. -/
theorem Request.contains_of_mem (q : Request) {h : Host} {i : Nat} {cell : Nat × Nat}
    (hcell : cell ∈ q.cellsOn h i) : q.reference.range.contains cell.1 cell.2 = true := by
  cases q with
  | cell r =>
    rw [List.mem_singleton.1 hcell]
    exact Range.contains_first r.range
  | cells r hidden => exact mem_cellsToRead hcell

/-! ## Agreement on a scope -/

/-- Answers agree on a scope when both enter its ranges and find the same values there. -/
theorem answering_agreeOn {h : Host} {enter enter' : Nat → Range → Except Error (Nat → Nat → Value)}
    {base : Nat} {S : Scope}
    (hS : ∀ {r i}, S.has r → sheetOf h base r = .ok i →
      ∃ value value', enter i r.range = .ok value ∧ enter' i r.range = .ok value' ∧
        ∀ row column, r.range.contains row column = true → value row column = value' row column) :
    Answers.AgreeOn S (answering h enter base) (answering h enter' base) := by
  apply answering_alike
  · exact fun _ => rfl
  · exact fun _ _ => .refl h _ _
  · intro r i hr hi
    obtain ⟨value, value', hvalue, hvalue', heq⟩ := hS hr hi
    rw [hvalue, hvalue']
    exact .entered heq

/-! ## Computing without keys -/

/-- Answers from the values of all cells, which are always there. -/
def freely (h : Host) (value : Nat → Nat → Nat → Value) : Nat → Answers :=
  answering h fun i _ => .ok (value i)

/-- The values of cells, where formulas are computed down to a number of levels. -/
def unguardedTo (s : Surroundings) : Nat → Nat → Nat → Nat → Value
  | 0 => fun i row column => .ofContent (s.host.content i row column)
  | n + 1 => fun i row column => s.value (freely s.host (unguardedTo s n)) i row column

/-- The value of a cell by recursion on its rank: the formula cells that it refers to are computed
before, whatever is being read. -/
def unguarded (s : Surroundings) {b : Workbook} (k : Ranking b) (i row column : Nat) : Value :=
  unguardedTo s (k.rank i row column + 1) i row column

theorem freely_areResults {h : Host} {value : Nat → Nat → Nat → Value}
    (hvalue : ∀ i row column, (value i row column).isResult = true) (sheet : Nat) :
    (freely h value sheet).AreResults := by
  apply answering_areResults
  intro i r value' heq row column
  cases heq
  exact hvalue i row column

theorem sheetOf_ne_circularReference {h : Host} {base : Nat} {r : Reference} {e : Error}
    (he : sheetOf h base r = .error e) : e ≠ .circularReference := by
  unfold sheetOf at he
  split at he
  · cases he
  · split at he <;> cases he
    exact nofun

/-- What is read on the sheet of a reference is not refused as circular if no sheet refuses it. -/
theorem sheetOf_bind_ne_circularReference {α : Type} {h : Host} {base : Nat} {r : Reference}
    {f : Nat → Except Error α} (hf : ∀ i, f i ≠ .error .circularReference) :
    sheetOf h base r >>= f ≠ .error .circularReference := by
  cases hi : sheetOf h base r with
  | error e => exact fun heq => sheetOf_ne_circularReference hi (Except.error.inj heq)
  | ok i => exact hf i

/-- Nothing is refused as circular where every range is entered. -/
theorem freely_cell_ne (h : Host) (value : Nat → Nat → Nat → Value) (base : Nat) (r : Reference) :
    (freely h value base).cell r ≠ .error .circularReference := by
  apply sheetOf_bind_ne_circularReference
  exact fun _ => nofun

theorem freely_cells_ne (h : Host) (value : Nat → Nat → Nat → Value) (base : Nat) (r : Reference)
    (hidden : Bool) : (freely h value base).cells r hidden ≠ .error .circularReference := by
  apply sheetOf_bind_ne_circularReference
  intro i
  dsimp only
  split <;> exact nofun

section

variable {s : Surroundings} {b : Workbook} (hs : s.host = b.host)
  (hregistry : s.registry = .standard)

theorem unguardedTo_content {n i row column : Nat}
    (h : ∀ formula, s.host.content i row column ≠ .formula formula) :
    unguardedTo s n i row column = .ofContent (s.host.content i row column) := by
  cases n with
  | zero => rfl
  | succ n => simp only [unguardedTo, Surroundings.value]

include hs hregistry

theorem isResult_unguardedTo (n i row column : Nat) :
    (unguardedTo s n i row column).isResult = true := by
  induction n generalizing i row column with
  | zero => exact Value.isResult_ofContent _
  | succ n ih =>
    exact isResult_value (knowsNoNames hs) hregistry (freely_areResults ih) i row column

theorem isResult_unguarded (k : Ranking b) (i row column : Nat) :
    (unguarded s k i row column).isResult = true :=
  isResult_unguardedTo hs hregistry _ i row column

/-- Answers that agree on the scope of a formula lead to the same outcome. -/
theorem outcome_eq_of_agreeOn {answers answers' : Nat → Answers} {text : String} {o : Options}
    (hanswers : ∀ i, (answers i).AreResults)
    (h : ∀ body, formulaBody? text = some body →
      Answers.AgreeOn (formulaScope s.registry body) (answers (o.sheet.getD s.host.selected))
        (answers' (o.sheet.getD s.host.selected))) :
    s.outcome answers text o = s.outcome answers' text o := by
  apply outcome_congr
  intro body hbody
  exact (formula_within (knowsNoNames hs) hregistry _ body).under_congr (hanswers _) (h body hbody)

/-- A formula cell in a range that a formula asks for has a smaller rank. -/
theorem Ranking.lt (k : Ranking b) {i row column j row' column' : Nat} {r : Reference}
    {formula body formula' : String} (hcontent : s.host.content i row column = .formula formula)
    (hbody : formulaBody? formula = some body) (hr : (formulaScope s.registry body).has r)
    (hj : sheetOf s.host i r = .ok j) (hcell : r.range.contains row' column' = true)
    (hcontent' : s.host.content j row' column' = .formula formula') :
    k.rank j row' column' < k.rank i row column := by
  rw [hregistry] at hr
  rw [hs] at hcontent hj hcontent'
  exact k.lt_of_scope hcontent hbody hr hj hcell hcontent'

/-- Levels beyond the rank of a cell make no difference to its value. -/
theorem unguardedTo_eq (k : Ranking b) {n n' i row column : Nat}
    (hn : ∀ formula, s.host.content i row column = .formula formula → k.rank i row column < n)
    (hn' : ∀ formula, s.host.content i row column = .formula formula → k.rank i row column < n') :
    unguardedTo s n i row column = unguardedTo s n' i row column := by
  induction n generalizing n' i row column with
  | zero =>
    have hcontent (formula : String) : s.host.content i row column ≠ .formula formula :=
      fun h => Nat.not_lt_zero _ (hn formula h)
    rw [unguardedTo_content hcontent, unguardedTo_content hcontent]
  | succ n ih =>
    cases n' with
    | zero =>
      have hcontent (formula : String) : s.host.content i row column ≠ .formula formula :=
        fun h => Nat.not_lt_zero _ (hn' formula h)
      rw [unguardedTo_content hcontent, unguardedTo_content hcontent]
    | succ n' =>
      apply value_congr
      intro formula hformula
      apply outcome_eq_of_agreeOn hs hregistry
        (freely_areResults (isResult_unguardedTo hs hregistry n))
      intro body hbody
      apply answering_agreeOn
      intro r j hr hj
      refine ⟨_, _, rfl, rfl, ?_⟩
      intro row' column' hcell
      apply ih
      · intro formula' hformula'
        have := k.lt hs hregistry hformula hbody hr hj hcell hformula'
        have := hn formula hformula
        omega
      · intro formula' hformula'
        have := k.lt hs hregistry hformula hbody hr hj hcell hformula'
        have := hn' formula hformula
        omega

/-- The unguarded value of a cell is computed with the unguarded values of all cells. -/
theorem unguarded_eq (k : Ranking b) (i row column : Nat) :
    unguarded s k i row column = s.value (freely s.host (unguarded s k)) i row column := by
  unfold unguarded
  rw [unguardedTo]
  apply value_congr
  intro formula hformula
  apply outcome_eq_of_agreeOn hs hregistry
    (freely_areResults (isResult_unguardedTo hs hregistry _))
  intro body hbody
  apply answering_agreeOn
  intro r j hr hj
  refine ⟨_, _, rfl, rfl, ?_⟩
  intro row' column' hcell
  apply unguardedTo_eq hs hregistry k
  · exact fun formula' hformula' => k.lt hs hregistry hformula hbody hr hj hcell hformula'
  · exact fun _ _ => Nat.lt_succ_self _

end

/-! ## Sheets and their names -/

section

variable {b : Workbook}

/-- The names of the sheets of a workbook are distinct. -/
def NamesDistinct (b : Workbook) : Prop := (b.sheets.map (·.name)).Nodup

theorem sheet_lt_of_content {i row column : Nat} {formula : String}
    (h : b.host.content i row column = .formula formula) : i < b.sheets.length := by
  obtain ⟨w, -, hw, -⟩ := exists_cell_of_content h nofun
  exact (List.getElem?_eq_some_iff.1 hw).1

theorem keyName_inj (hnames : NamesDistinct b) {i j : Nat} (hi : i < b.sheets.length)
    (hj : j < b.sheets.length) (h : keyName b.host i = keyName b.host j) : i = j := by
  simp only [keyName, Workbook.host, List.getElem?_eq_getElem hi, List.getElem?_eq_getElem hj,
    Option.map_some, Option.getD_some] at h
  apply (List.getElem?_inj (by simpa using hi) hnames).1
  simp only [List.getElem?_map, List.getElem?_eq_getElem hi, List.getElem?_eq_getElem hj,
    Option.map_some, h]

theorem sheetOf_lt {base j : Nat} {r : Reference} (hbase : base < b.sheets.length)
    (hj : sheetOf b.host base r = .ok j) : j < b.sheets.length := by
  unfold sheetOf at hj
  split at hj
  next =>
    cases hj
    exact hbase
  next name _ =>
    cases hi : b.host.sheetIndex? name with
    | none =>
      rw [hi] at hj
      cases hj
    | some i =>
      rw [hi] at hj
      cases hj
      exact List.mem_range.1 (List.mem_of_find?_eq_some hi)

/-! ## Held keys -/

/-- The held keys are those of ranges with a formula cell of some rank or a greater one. -/
def HeldAbove (k : Ranking b) (level : Nat) (held : List String) : Prop :=
  ∀ key ∈ held, ∃ i r row column formula,
    key = keyOf b.host i r ∧ r.contains row column = true ∧
      b.host.content i row column = .formula formula ∧ level ≤ k.rank i row column

/-- A formula stands where no key is held, or the held keys are those of ranges with a formula cell
that no cell it refers to reaches in rank. -/
def Stands (k : Ranking b) (held : List String) (base : Nat) (body : String) : Prop :=
  held = [] ∨
    ∃ level, HeldAbove k level held ∧ base < b.sheets.length ∧
      ∀ {r j row column formula}, (formulaScope .standard body).has r →
        sheetOf b.host base r = .ok j → r.range.contains row column = true →
          b.host.content j row column = .formula formula → k.rank j row column < level

variable {k : Ranking b} {held : List String} {base : Nat} {body : String} {r : Reference} {j : Nat}

/-- A formula asks for no range whose key is held. -/
theorem Stands.free (hnames : NamesDistinct b) (h : Stands k held base body)
    (hr : (formulaScope .standard body).has r) (hj : sheetOf b.host base r = .ok j) :
    keyOf b.host j r.range ∉ held := by
  obtain rfl | ⟨level, habove, hbase, hbelow⟩ := h
  · exact List.not_mem_nil
  · intro hmem
    obtain ⟨i, range, row, column, formula, hkey, hcell, hcontent, hlevel⟩ := habove _ hmem
    obtain ⟨hname, rfl⟩ := keyOf_inj hkey
    obtain rfl : j = i :=
      keyName_inj hnames (sheetOf_lt hbase hj) (sheet_lt_of_content hcontent) hname
    exact absurd (hbelow hr hj hcell hcontent) (Nat.not_lt_of_le hlevel)

/-- While a range is read, the held keys are above each formula cell in it. -/
theorem Stands.heldAbove (h : Stands k held base body)
    (hr : (formulaScope .standard body).has r) (hj : sheetOf b.host base r = .ok j)
    {row column : Nat} {formula : String} (hcell : r.range.contains row column = true)
    (hcontent : b.host.content j row column = .formula formula) :
    HeldAbove k (k.rank j row column) (keyOf b.host j r.range :: held) := by
  intro key hkey
  rcases List.mem_cons.1 hkey with rfl | hkey
  · exact ⟨j, r.range, row, column, formula, rfl, hcell, hcontent, le_rfl⟩
  · obtain rfl | ⟨level, habove, -, hbelow⟩ := h
    · exact absurd hkey List.not_mem_nil
    · obtain ⟨i, range, row', column', formula', hkey, hcell', hcontent', hlevel⟩ :=
        habove key hkey
      have hlt := hbelow hr hj hcell hcontent
      exact ⟨i, range, row', column', formula', hkey, hcell', hcontent', by omega⟩

/-- The formula of a cell stands where the held keys are above the cell. -/
theorem stands_of_heldAbove {i row column : Nat} {formula : String}
    (habove : HeldAbove k (k.rank i row column) held)
    (hcontent : b.host.content i row column = .formula formula)
    (hbody : formulaBody? formula = some body) : Stands k held i body := by
  refine .inr ⟨k.rank i row column, habove, sheet_lt_of_content hcontent, ?_⟩
  intro r j row' column' formula' hr hj hcell hcontent'
  exact k.lt_of_scope hcontent hbody hr hj hcell hcontent'

end

/-! ## Guarded values -/

section

variable {s : Surroundings} {b : Workbook} (hs : s.host = b.host)
  (hregistry : s.registry = .standard)

theorem value_content {answers : Nat → Answers} {i row column : Nat}
    (h : ∀ formula, s.host.content i row column ≠ .formula formula) :
    s.value answers i row column = .ofContent (s.host.content i row column) := by
  simp only [Surroundings.value]

include hs hregistry

theorem guarded_areResults (held : List String) (i : Nat) : (guarded s b held i).AreResults :=
  answersAt_areResults (knowsNoNames hs) hregistry _ held i

variable (hnames : NamesDistinct b) (k : Ranking b)
include hnames

/-- The keys make no difference to the outcome of a text if they make none to the cells that it
refers to. -/
theorem outcome_guarded {held : List String} {text : String} {o : Options}
    (hstands : ∀ {body}, formulaBody? text = some body →
      Stands k held (o.sheet.getD s.host.selected) body)
    (hbelow : ∀ {body r j row column formula}, formulaBody? text = some body →
      (formulaScope s.registry body).has r →
      sheetOf s.host (o.sheet.getD s.host.selected) r = .ok j →
      r.range.contains row column = true → s.host.content j row column = .formula formula →
      s.value (guarded s b (keyOf s.host j r.range :: held)) j row column =
        unguarded s k j row column) :
    s.outcome (guarded s b held) text o = s.outcome (freely s.host (unguarded s k)) text o := by
  apply outcome_eq_of_agreeOn hs hregistry (guarded_areResults hs hregistry held)
  intro body hbody
  rw [guarded_eq hs]
  apply answering_agreeOn
  intro r j hr hj
  have hfree : keyOf s.host j r.range ∉ held := by
    rw [hs] at hj ⊢
    rw [hregistry] at hr
    exact (hs ▸ hstands hbody).free hnames hr hj
  refine ⟨_, _, entering_eq_ok.2 ⟨hfree, rfl⟩, rfl, ?_⟩
  intro row column hcell
  cases hcontent : s.host.content j row column with
  | formula formula => exact hbelow hbody hr hj hcell hcontent
  | _ =>
    rw [value_content (by simp [hcontent]), unguarded, unguardedTo_content (by simp [hcontent])]

/-- The keys make no difference to the value of a formula cell that they are above. -/
theorem value_guarded {held : List String} {i row column : Nat} {formula : String}
    (hcontent : s.host.content i row column = .formula formula)
    (habove : HeldAbove k (k.rank i row column) held) :
    s.value (guarded s b held) i row column = unguarded s k i row column := by
  induction hrank : k.rank i row column using Nat.strong_induction_on
    generalizing held i row column formula with
  | _ rank ih =>
    have hstands {body : String} (hbody : formulaBody? formula = some body) :
        Stands k held i body := stands_of_heldAbove habove (hs ▸ hcontent) hbody
    rw [unguarded_eq hs hregistry]
    apply value_congr
    intro formula' hformula'
    obtain rfl : formula = formula' := Content.formula.inj (hcontent.symm.trans hformula')
    apply outcome_guarded hs hregistry hnames k hstands
    intro body r j row' column' formula' hbody hr hj hcell hcontent'
    have hlt := k.lt hs hregistry hcontent hbody hr hj hcell hcontent'
    refine ih _ (hrank ▸ hlt) hcontent' ?_ rfl
    rw [hs] at hj hcontent' ⊢
    exact (hstands hbody).heldAbove (hregistry ▸ hr) hj hcell hcontent'

/-- The outcome of a text that stands where keys are held is the unguarded one. -/
theorem outcome_of_stands {held : List String} {text : String} {o : Options}
    (hstands : ∀ {body}, formulaBody? text = some body →
      Stands k held (o.sheet.getD s.host.selected) body) :
    s.outcome (guarded s b held) text o = s.outcome (freely s.host (unguarded s k)) text o := by
  apply outcome_guarded hs hregistry hnames k hstands
  intro body r j row column formula hbody hr hj hcell hcontent
  apply value_guarded hs hregistry hnames k hcontent
  rw [hs] at hj hcontent ⊢
  exact (hs ▸ hstands hbody).heldAbove (hregistry ▸ hr) hj hcell hcontent

/-- Without held keys the value of any cell is the unguarded one. -/
theorem value_guarded_nil (i row column : Nat) :
    s.value (guarded s b []) i row column = unguarded s k i row column := by
  rw [unguarded_eq hs hregistry]
  apply value_congr
  exact fun formula _ => outcome_of_stands hs hregistry hnames k fun _ => .inl rfl

omit hnames in
/-- The unguarded outcome of a text is never a circular reference. -/
theorem outcome_ne_circularReference (text : String) (o : Options) :
    s.outcome (freely s.host (unguarded s k)) text o ≠ .error .circularReference := by
  unfold Surroundings.outcome
  split
  · exact nofun
  next body _ =>
    have hanswers := freely_areResults (h := s.host) (isResult_unguarded hs hregistry k)
      (o.sheet.getD s.host.selected)
    have hwithin := formula_within (knowsNoNames hs) hregistry (s.context o) body
    have hunder := hwithin.under_ne_circularReference hanswers
      (fun {r} _ => freely_cell_ne _ _ _ r) (fun {r hidden} _ => freely_cells_ne _ _ _ r hidden)
    generalize (s.formula (s.context o) body).under _ = x at hunder
    cases x with
    | ok v => exact nofun
    | error e => exact fun h => hunder (congrArg Except.error (Except.error.inj h))

end

/-! ## Nested evaluations -/

/-- A task whose formula stands where its keys are held. -/
structure Task.Calm (s : Surroundings) {b : Workbook} (k : Ranking b) (t : Task) : Prop where
  /-- Its trees are sound. -/
  sound : t.memory.Sound (treesOf s.registry)
  /-- Its formula stands where the keys are held. -/
  stands : ∀ {body}, formulaBody? t.text = some body → Stands k t.memory.held (t.sheet s) body

section

variable {s : Surroundings} {b : Workbook} (hs : s.host = b.host)
  (hregistry : s.registry = .standard)
  (hnames : NamesDistinct b) {k : Ranking b} {n : Nat} {t : Task}
include hs hregistry hnames

/-- A calm task asks for no range whose key is held. -/
theorem Task.Calm.free (ht : t.Calm s k) {q : Request} {m : Memory} {i : Nat}
    (hasks : t.Asks s (readerAt s n) q m) (hi : q.sheet? s.host (t.sheet s) = some i) :
    keyOf s.host i q.reference.range ∉ m.held := by
  obtain ⟨hheld, -, body, hbody, hq⟩ := hasks.spec (knowsNoNames hs) hregistry ht.sound
  have hsheet := Request.sheetOf_eq hi
  rw [hregistry] at hq
  rw [hs] at hsheet ⊢
  rw [hheld]
  exact (ht.stands hbody).free hnames hq hsheet

omit hnames in
/-- What a calm task opens is calm. -/
theorem Task.Calm.opens (ht : t.Calm s k) {t' : Task} (h : Opens s (readerAt s n) t t') :
    t'.Calm s k := by
  cases h with
  | @formula q m i m' before row column after formula hasks hi hhold hcells hcontent =>
    obtain ⟨hheld, hm, body, hbody, hq⟩ := hasks.spec (knowsNoNames hs) hregistry ht.sound
    have hm' : m'.held = keyOf s.host i q.reference.range :: t.memory.held ∧
        m'.Sound (treesOf s.registry) := by
      obtain ⟨-, rfl⟩ := Memory.hold?_eq_some.1 hhold
      exact ⟨by rw [hheld], hm⟩
    have hadmits := (fits_of_knowsNoNames (knowsNoNames hs)).toAdmits
    obtain ⟨hheld', hsound⟩ :=
      valuesAt_keeps hadmits (readerAt_keeps hadmits n m'.held) i before m' rfl hm'.2
    refine ⟨hsound, fun hbody' => ?_⟩
    have hmem : (row, column) ∈ q.cellsOn s.host i := by
      rw [hcells]
      exact List.mem_append_right _ List.mem_cons_self
    have hcell := q.contains_of_mem hmem
    have hsheet := Request.sheetOf_eq hi
    rw [hs] at hsheet hcontent hm'
    rw [hregistry] at hq
    rw [hheld', hm'.1]
    exact stands_of_heldAbove ((ht.stands hbody).heldAbove hq hsheet hcell hcontent) hcontent hbody'

omit hnames in
/-- Every task that is nested in a calm one is calm. -/
theorem Nested.calm (ht : t.Calm s k) {level : Nat} {t' : Task}
    (h : Nested s (readerAt s n) t level t') : t'.Calm s k := by
  induction h with
  | self => exact ht
  | opens _ hopens ih => exact ih.opens hs hregistry hopens

/-- A calm task has the unguarded outcome. -/
theorem Task.Calm.outcome (ht : t.Calm s k) (hn : b.freeKeys t.memory.held < n) :
    (computeText s (readerAt s n) t.text t.options t.memory).1 =
      s.outcome (freely s.host (unguarded s k)) t.text t.options := by
  have hfits := fits_of_knowsNoNames (knowsNoNames hs)
  rw [computeText_computes hfits (readerAt_gives hfits n t.memory.held) trivial t.options t.memory
      rfl ht.sound, answersAt_eq_guarded hs hn]
  exact outcome_of_stands hs hregistry hnames k ht.stands

end

/-! ## Engines -/

theorem Reached.calm {settings : Settings} {e : Engine} (he : Reached settings [] e)
    {b : Workbook} (k : Ranking b) (text : String) (o : Options) :
    Task.Calm (e.surroundings b.host) k ⟨text, o, e.memory⟩ :=
  ⟨he.atRest.1.sound, fun _ => .inl he.atRest.1.held⟩

/-- The results for a workbook without cycles are those of the unguarded computation, and no nested
evaluation ever meets a circular reference. -/
theorem Reached.eq_unguarded {settings : Settings} {e : Engine} (he : Reached settings [] e)
    {b : Workbook} (hnames : NamesDistinct b) (k : Ranking b) :
    let s : Surroundings := ⟨.standard, {}, b.host⟩
    let cells := unguarded s k
    (∀ i row column, cells i row column = s.value (freely b.host cells) i row column) ∧
    (∀ text o, (e.tryEvaluate b.host text o).1 = s.outcome (freely b.host cells) text o) ∧
    (∀ text o,
      (e.evaluate b.host text o).1 = orErrorText (s.outcome (freely b.host cells) text o)) ∧
    (∀ i row column display,
      (e.cellValue b.host i row column display).1 =
        shown b.host i row column display (cells i row column)) ∧
    ∀ text o level t,
      Nested (e.surroundings b.host) (e.reader b.host) ⟨text, o, e.memory⟩ level t →
        (computeText (e.surroundings b.host) (e.reader b.host) t.text t.options t.memory).1 ≠
            .error .circularReference ∧
        ∀ q m i, t.Asks (e.surroundings b.host) (e.reader b.host) q m →
          q.sheet? b.host (t.sheet (e.surroundings b.host)) = some i →
            (m.hold? (keyOf b.host i q.reference.range)).isSome := by
  intro s cells
  obtain ⟨hrest, hregistry⟩ := he.atRest
  have hstandard : e.registry = .standard := hregistry
  have hs : s.host = b.host := rfl
  have houtcome (text : String) (o : Options) :
      outcome e.registry b.host text o = s.outcome (freely b.host cells) text o := by
    rw [hstandard, outcome, answersAt_keyBound (b := b) hs]
    exact outcome_of_stands hs rfl hnames k fun _ => .inl rfl
  refine ⟨unguarded_eq hs rfl k, ?_, ?_, ?_, ?_⟩
  · intro text o
    rw [(hrest.tryEvaluate b.host_knowsNoNames text o).1, houtcome]
  · intro text o
    rw [(hrest.evaluate b.host_knowsNoNames text o).1, houtcome]
  · intro i row column display
    rw [(hrest.cellValue b.host_knowsNoNames i row column display).1, hstandard, value,
      answersAt_keyBound (b := b) hs]
    exact congrArg _ (value_guarded_nil hs rfl hnames k i row column)
  · intro text o level t hnested
    rw [reader_eq] at hnested ⊢
    have hfree := Workbook.freeKeys_lt_keyBound b t.memory.held
    generalize keyBound b.host = n at hnested hfree
    have ht := hnested.calm (b := b) rfl hstandard (he.calm k text o)
    constructor
    · rw [ht.outcome rfl hstandard hnames hfree]
      exact outcome_ne_circularReference rfl hstandard k _ _
    · intro q m i hasks hi
      have hnot : keyOf b.host i q.reference.range ∉ m.held :=
        ht.free rfl hstandard hnames hasks hi
      rw [Memory.hold?_eq_some.2 ⟨hnot, rfl⟩]
      rfl

/-- A workbook in which one formula refers to another. -/
def chained : Workbook where
  sheets := [
    { name := "a"
      cells := [
        ((0, 0), { content := .formula "=B1*2" }), ((0, 1), { content := .formula "=C1+1" }),
        ((0, 2), { content := .number 5.0 })] }]

theorem chained_content {i row column : Nat} {formula : String}
    (h : chained.host.content i row column = .formula formula) :
    i = 0 ∧ row = 0 ∧ (column = 0 ∧ formula = "=B1*2" ∨ column = 1 ∧ formula = "=C1+1") := by
  obtain ⟨w, cell, hw, hmem, hcell⟩ := exists_cell_of_content h nofun
  cases i with
  | succ i => cases hw
  | zero =>
    cases hw
    simp only [List.mem_cons, List.not_mem_nil, or_false, Prod.mk.injEq] at hmem
    obtain ⟨⟨rfl, rfl⟩, rfl⟩ | ⟨⟨rfl, rfl⟩, rfl⟩ | ⟨-, rfl⟩ := hmem
    · cases hcell
      exact ⟨rfl, rfl, .inl ⟨rfl, rfl⟩⟩
    · cases hcell
      exact ⟨rfl, rfl, .inr ⟨rfl, rfl⟩⟩
    · cases hcell

/-- The formulas of the workbook are ranked from right to left. -/
def chainedRanking : Ranking chained where
  rank _ _ column := 2 - column
  decreases := by
    intro i row column formula body w j row' column' formula' hcontent hbody hw _ hcell hcontent'
    have hreferences :
        (Formula.references .standard "B1*2").map (·.range.left) = [1] ∧
          (Formula.references .standard "C1+1").map (·.range.left) = [2] := by
      decide +kernel
    have hcolumn' : column' < 2 := by
      obtain ⟨-, -, ⟨rfl, -⟩ | ⟨rfl, -⟩⟩ := chained_content hcontent' <;> decide
    rw [Range.contains_iff] at hcell
    obtain ⟨-, -, ⟨rfl, rfl⟩ | ⟨rfl, rfl⟩⟩ := chained_content hcontent
    · obtain rfl : "B1*2" = body := by
        have hfirst : formulaBody? "=B1*2" = some "B1*2" := by decide +kernel
        exact Option.some.inj (hfirst.symm.trans hbody)
      have hleft := List.mem_map_of_mem (f := fun r : Reference => r.range.left) hw
      rw [hreferences.1, List.mem_singleton] at hleft
      omega
    · obtain rfl : "C1+1" = body := by
        have hsecond : formulaBody? "=C1+1" = some "C1+1" := by decide +kernel
        exact Option.some.inj (hsecond.symm.trans hbody)
      have hleft := List.mem_map_of_mem (f := fun r : Reference => r.range.left) hw
      rw [hreferences.2, List.mem_singleton] at hleft
      omega

/-- An engine computes the formulas of the workbook without meeting a circular reference. -/
theorem Reached.eq_unguarded_chained :
    let s : Surroundings := ⟨.standard, {}, chained.host⟩
    let e := Engine.new {}
    Reached {} [] e ∧ NamesDistinct chained ∧
      (e.cellValue chained.host 0 0 0 false).1 = unguarded s chainedRanking 0 0 0 ∧
      (e.tryEvaluate chained.host "=SUM(A1:C1)" {}).1 =
        s.outcome (freely chained.host (unguarded s chainedRanking)) "=SUM(A1:C1)" {} := by
  intro s e
  have he : Reached {} [] e := .new
  have hnames : NamesDistinct chained := List.nodup_singleton _
  obtain ⟨-, htry, -, hcell, -⟩ := Reached.eq_unguarded he hnames chainedRanking
  refine ⟨he, hnames, ?_, htry "=SUM(A1:C1)" {}⟩
  -- The value is left as it is, or else it is computed.
  generalize hvalue : unguarded s chainedRanking 0 0 0 = v
  rw [hcell 0 0 0 false, hvalue]
  rfl

end Spreadsheet.Engine
