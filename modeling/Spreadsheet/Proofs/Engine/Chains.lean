import Mathlib.Data.Fintype.EquivFin
import Mathlib.Order.WellFounded
import Spreadsheet.Proofs.Engine.Cycles
import Spreadsheet.Proofs.Engine.Trees

/-!
# Chains of references

Where every formula of a workbook is a reference and nothing else, a cell leads
to at most one other.  Whoever follows the references from a cell comes to a cell
without a formula, or to a reference to a sheet that is not there, or back to a
cell that was passed before.  There is no fourth case, since only finitely many
cells have formulas (`exists_ends_or_returns`).

* A chain that ends passes no cell twice.  So while it is read no key that is
  asked for is held, and the value at its end becomes that of every cell before
  it, whether it is the content of a cell or the text of an error
  (`value_of_ends`).
* A chain that does not end meets a held key sooner or later, since every cell
  adds one.  The text of this error is then the value of all cells before
  (`value_of_returns`).

The value of a reference to the first cell follows (`Reached.evaluate_link`).
-/

namespace Spreadsheet.Engine

open Spreadsheet.Evaluation
open Spreadsheet.Formula (Error Expr Function Reference Registry)
open Spreadsheet.Grid (Content Range Workbook)

/-! ## Cells that pass to others -/

theorem Place.ext {c d : Place} (hsheet : c.sheet = d.sheet) (hrow : c.row = d.row)
    (hcolumn : c.column = d.column) : c = d := by
  cases c
  cases d
  simp_all

/-- What a cell holds. -/
def Place.content (h : Host) (c : Place) : Content := h.content c.sheet c.row c.column

/-- Every formula of a host is a reference and nothing else. -/
def Linked (registry : Registry) (h : Host) : Prop :=
  ∀ {c : Place} {text}, c.content h = .formula text → ∃ r, treesOf registry text (.reference r)

/-- Whether a content is no formula other than a reference. -/
def isLinkOrConstant (registry : Registry) : Content → Bool
  | .formula text =>
    match (formulaBody? text).map (Formula.parse registry) with
    | some (.ok (.reference _)) => true
    | _ => false
  | _ => true

/-- Every formula of a workbook is a reference when those on its sheets are. -/
theorem linked_of_cells {registry : Registry} {b : Workbook}
    (h : ∀ w ∈ b.sheets, ∀ cell ∈ w.cells, isLinkOrConstant registry cell.2.content = true) :
    Linked registry b.host := by
  intro c text htext
  obtain ⟨w, cell, hw, hcell, hcontent⟩ := exists_cell_of_content htext nofun
  have hlink := h w (List.mem_of_getElem? hw) _ hcell
  simp only [hcontent, isLinkOrConstant] at hlink
  split at hlink
  next r hparse =>
    obtain ⟨body, hbody, hparse⟩ := Option.map_eq_some_iff.1 hparse
    exact ⟨r, body, hbody, hparse⟩
  next => cases hlink

section

variable {registry : Registry} {h : Host} {c d : Place} {r : Reference}

/-- The formula of a cell is a reference. -/
def LinksTo (registry : Registry) (h : Host) (c : Place) (r : Reference) : Prop :=
  ∃ text, c.content h = .formula text ∧ treesOf registry text (.reference r)

/-- The formula of a cell is a reference to another cell. -/
inductive Passes (registry : Registry) (h : Host) : Place → Place → Prop where
  /-- The other cell is the first one of the reference. -/
  | link {c r i} :
    LinksTo registry h c r → sheetOf h c.sheet r = .ok i →
      Passes registry h c ⟨i, r.range.top, r.range.left⟩

/-- A reference names a sheet that is not there. -/
def Misses (h : Host) (r : Reference) (name : String) : Prop :=
  r.sheet = some name ∧ h.sheetIndex? name = none

/-- The formula of a cell is a reference to a sheet that is not there. -/
def Breaks (registry : Registry) (h : Host) (c : Place) (name : String) : Prop :=
  ∃ r, LinksTo registry h c r ∧ Misses h r name

/-- A cell holds no formula. -/
def Stops (h : Host) (c : Place) : Prop := ∀ text, c.content h ≠ .formula text

/-- A cell leads back to itself. -/
def Returns (registry : Registry) (h : Host) (c : Place) : Prop :=
  Relation.TransGen (Passes registry h) c c

/-- A reference has no sheet when it names one that is not there. -/
theorem sheetOf_eq_error {base : Nat} {e : Error} :
    sheetOf h base r = .error e ↔ ∃ name, Misses h r name ∧ e = .missingSheet name := by
  unfold sheetOf Misses
  cases hsheet : r.sheet with
  | none => simp
  | some name =>
    cases hi : h.sheetIndex? name with
    | some i => simp [hi]
    | none => simp [hi, eq_comm]

theorem LinksTo.unique {r' : Reference} (hr : LinksTo registry h c r)
    (hr' : LinksTo registry h c r') : r = r' := by
  obtain ⟨text, htext, body, hbody, hparse⟩ := hr
  obtain ⟨text', htext', body', hbody', hparse'⟩ := hr'
  obtain rfl : text = text' := Content.formula.inj (htext.symm.trans htext')
  obtain rfl : body = body' := Option.some.inj (hbody.symm.trans hbody')
  exact Expr.reference.inj (Except.ok.inj (hparse.symm.trans hparse'))

theorem LinksTo.not_stops (hr : LinksTo registry h c r) : ¬ Stops h c := by
  obtain ⟨text, htext, -⟩ := hr
  exact fun hstops => hstops text htext

/-- A cell passes to one other at most. -/
theorem Passes.unique {d' : Place} (hd : Passes registry h c d) (hd' : Passes registry h c d') :
    d = d' := by
  cases hd with
  | link hr hi =>
    cases hd' with
    | link hr' hi' =>
      obtain rfl := hr.unique hr'
      obtain rfl := Except.ok.inj (hi.symm.trans hi')
      rfl

theorem Passes.not_stops (hd : Passes registry h c d) : ¬ Stops h c := by
  cases hd with
  | link hr _ => exact hr.not_stops

theorem Passes.not_breaks {name : String} (hd : Passes registry h c d) :
    ¬ Breaks registry h c name := by
  rintro ⟨r', hr', hmisses⟩
  cases hd with
  | @link r i hr hi =>
    obtain rfl := hr.unique hr'
    cases hi.symm.trans (sheetOf_eq_error.2 ⟨name, hmisses, rfl⟩)

theorem exists_passes_of_transGen (hd : Relation.TransGen (Passes registry h) c d) :
    ∃ d', Passes registry h c d' ∧ Relation.ReflTransGen (Passes registry h) d' d :=
  Relation.TransGen.head'_iff.1 hd

end

/-! ## Ends of chains -/

/-- Following the references from a cell ends with a value. -/
inductive Ends (registry : Registry) (h : Host) : Place → Value → Prop where
  /-- The cell holds no formula. -/
  | stops {c} : Stops h c → Ends registry h c (.ofContent (c.content h))
  /-- The reference of the cell names no sheet. -/
  | breaks {c name} : Breaks registry h c name → Ends registry h c (errorText (.missingSheet name))
  /-- The cell passes to another from where it ends. -/
  | passes {c d v} : Passes registry h c d → Ends registry h d v → Ends registry h c v

section

variable {registry : Registry} {h : Host} {c d : Place} {v : Value}

/-- What a chain ends with, the cells before end with it too. -/
theorem Ends.of_reflTransGen (hd : Relation.ReflTransGen (Passes registry h) c d)
    (hv : Ends registry h d v) : Ends registry h c v := by
  induction hd using Relation.ReflTransGen.head_induction_on with
  | refl => exact hv
  | head hpass _ ih => exact .passes hpass ih

/-- A chain ends at a cell without a formula or at a sheet that is not there. -/
theorem Ends.exists (hv : Ends registry h c v) :
    (∃ d, Relation.ReflTransGen (Passes registry h) c d ∧ Stops h d) ∨
      ∃ d name, Relation.ReflTransGen (Passes registry h) c d ∧ Breaks registry h d name := by
  induction hv with
  | stops hstops => exact .inl ⟨_, .refl, hstops⟩
  | breaks hbreaks => exact .inr ⟨_, _, .refl, hbreaks⟩
  | passes hpass _ ih =>
    obtain ⟨d, hd, hstops⟩ | ⟨d, name, hd, hbreaks⟩ := ih
    · exact .inl ⟨d, .head hpass hd, hstops⟩
    · exact .inr ⟨d, name, .head hpass hd, hbreaks⟩

/-- A chain that ends does not come back to its first cell. -/
theorem Ends.not_returns (hv : Ends registry h c v) : ¬ Returns registry h c := by
  induction hv with
  | stops hstops =>
    intro hcycle
    obtain ⟨d, hpass, -⟩ := exists_passes_of_transGen hcycle
    exact hpass.not_stops hstops
  | breaks hbreaks =>
    intro hcycle
    obtain ⟨d, hpass, -⟩ := exists_passes_of_transGen hcycle
    exact hpass.not_breaks hbreaks
  | passes hpass _ ih =>
    intro hcycle
    obtain ⟨d, hpass', hrest⟩ := exists_passes_of_transGen hcycle
    obtain rfl := hpass.unique hpass'
    exact ih (.tail' hrest hpass)

/-- What a chain ends with is never a reference. -/
theorem Ends.ne_reference (hv : Ends registry h c v) (r : Reference) : v ≠ .reference r := by
  induction hv with
  | @stops c =>
    cases c.content h <;> exact nofun
  | breaks => exact nofun
  | passes _ _ ih => exact ih

/-- Cells of a workbook that pass to others lie on its sheets, and so do the others. -/
theorem Passes.sheets_lt {b : Workbook} (hd : Passes registry b.host c d) :
    c.sheet < b.sheets.length ∧ d.sheet < b.sheets.length := by
  cases hd with
  | link hr hi =>
    obtain ⟨text, htext, -⟩ := hr
    have hc := sheet_lt_of_content htext
    exact ⟨hc, sheetOf_lt hc hi⟩

theorem sheets_lt_of_transGen {b : Workbook}
    (hd : Relation.TransGen (Passes registry b.host) c d) :
    c.sheet < b.sheets.length ∧ d.sheet < b.sheets.length := by
  obtain ⟨d', hpass, -⟩ := exists_passes_of_transGen hd
  refine ⟨hpass.sheets_lt.1, ?_⟩
  cases hd with
  | single hpass => exact hpass.sheets_lt.2
  | tail _ hpass => exact hpass.sheets_lt.2

/-- Only finitely many cells of a workbook have formulas. -/
theorem finite_not_stops (b : Workbook) : {c : Place | ¬ Stops b.host c}.Finite := by
  let cells := b.sheets.zipIdx.flatMap fun entry =>
    entry.1.cells.map fun cell => (⟨entry.2, cell.1.1, cell.1.2⟩ : Place)
  apply (List.finite_toSet cells).subset
  intro c hc
  simp only [Stops, ne_eq, Set.mem_ofPred_eq, not_forall, not_not] at hc
  obtain ⟨text, htext⟩ := hc
  obtain ⟨w, cell, hw, hcell, -⟩ := exists_cell_of_content htext nofun
  refine List.mem_flatMap.2 ⟨(w, c.sheet), ?_, List.mem_map.2 ⟨_, hcell, rfl⟩⟩
  exact List.mem_zipIdx_iff_getElem?.2 (by simpa using hw)

/-- Whoever follows the references from a cell comes to an end, or back to a cell passed before. -/
theorem exists_ends_or_returns {b : Workbook} (hlinked : Linked registry b.host) (c : Place) :
    (∃ v, Ends registry b.host c v) ∨
      ∃ d, Relation.ReflTransGen (Passes registry b.host) c d ∧ Returns registry b.host d := by
  by_cases hloop :
      ∃ d, Relation.ReflTransGen (Passes registry b.host) c d ∧ Returns registry b.host d
  case pos => exact .inr hloop
  refine .inl ?_
  -- The cells with formulas that are passed are finitely many, and none of them returns.
  let passed := {d : Place //
    ¬ Stops b.host d ∧ Relation.ReflTransGen (Passes registry b.host) c d}
  have hfinite : Finite passed :=
    ((finite_not_stops b).subset fun d (hd : _ ∧ _) => hd.1).to_subtype
  let after (d d' : passed) : Prop := Relation.TransGen (Passes registry b.host) d'.1 d.1
  have hirrefl : Std.Irrefl after := ⟨fun d hd => hloop ⟨d.1, d.2.2, hd⟩⟩
  have htrans : IsTrans passed after := ⟨fun _ _ _ h h' => h'.trans h⟩
  have hwf : WellFounded after := Finite.wellFounded_of_trans_of_irrefl after
  have hends (d : passed) : ∃ v, Ends registry b.host d.1 v := by
    induction d using hwf.induction with
    | _ d ih =>
      obtain ⟨d, hd, hpassed⟩ := d
      have htext : ∃ text, d.content b.host = .formula text := by
        simpa [Stops] using hd
      obtain ⟨text, htext⟩ := htext
      obtain ⟨r, hr⟩ := hlinked htext
      have hlinks : LinksTo registry b.host d r := ⟨text, htext, hr⟩
      cases hi : sheetOf b.host d.sheet r with
      | error e =>
        obtain ⟨name, hmisses, -⟩ := sheetOf_eq_error.1 hi
        exact ⟨_, .breaks ⟨r, hlinks, hmisses⟩⟩
      | ok i =>
        have hpass := Passes.link hlinks hi
        by_cases hstops : Stops b.host ⟨i, r.range.top, r.range.left⟩
        case pos => exact ⟨_, .passes hpass (.stops hstops)⟩
        obtain ⟨v, hv⟩ := ih ⟨_, hstops, hpassed.tail hpass⟩ (.single hpass)
        exact ⟨v, .passes hpass hv⟩
  by_cases hstops : Stops b.host c
  · exact ⟨_, .stops hstops⟩
  · exact hends ⟨c, hstops, .refl⟩

end

/-! ## Values along a chain -/

/-- The formula that is a reference to a cell gives the value of the cell, which is no reference. -/
theorem settled_reference_of_ok {q : Answers} {r : Reference} {v : Value} (hv : q.cell r = .ok v)
    (hne : ∀ t, v ≠ .reference t) (c : Context) : (settled c (.reference r)).under q = .ok v := by
  simp only [settled, Evaluation.evaluate, argumentOf, Argument.result, Program.bind_eq,
    Program.under_bind, Program.under_cell, hv]
  cases v with
  | reference t => exact absurd rfl (hne t)
  | _ => rfl

theorem settled_reference_of_error {q : Answers} {r : Reference} {e : Error}
    (he : q.cell r = .error e) (c : Context) : (settled c (.reference r)).under q = .error e := by
  simp only [settled, Evaluation.evaluate, argumentOf, Argument.result, Program.bind_eq,
    Program.under_bind, Program.under_cell, he]
  rfl

section

variable {s : Surroundings} {b : Workbook} (hs : s.host = b.host) {held : List String}
  {c d : Place} {r : Reference} {v : Value}
include hs

/-- The first cell of a reference is refused when its key is held, and else it has the value that
it has while the key is held. -/
theorem guarded_cell {base i : Nat} (hi : sheetOf s.host base r = .ok i) :
    (guarded s b held base).cell r =
      if held.contains (keyOf s.host i r.range) then .error .circularReference
      else .ok
        (s.value (guarded s b (keyOf s.host i r.range :: held)) i r.range.top r.range.left) := by
  rw [guarded_eq hs,
    ← entering_bind s (guarded s b) held i r.range fun value => value r.range.top r.range.left]
  simp only [answering, hi]
  rfl

theorem guarded_cell_of_misses {name : String} (hmisses : Misses s.host r name) (base : Nat) :
    (guarded s b held base).cell r = .error (.missingSheet name) := by
  simp only [guarded_eq hs, answering, sheetOf_eq_error.2 ⟨name, hmisses, rfl⟩]
  rfl

/-- The value of a cell whose formula is a reference. -/
theorem value_of_linksTo (hr : LinksTo s.registry s.host c r) :
    s.value (guarded s b held) c.sheet c.row c.column =
      orErrorText
        ((settled (s.context (cellOptions c.sheet c.row c.column)) (.reference r)).under
          (guarded s b held c.sheet)) := by
  obtain ⟨text, htext, htree⟩ := hr
  have hcontent : s.host.content c.sheet c.row c.column = .formula text := htext
  simp only [Surroundings.value, hcontent]
  rw [outcome_of_tree (knowsNoNames hs) htree]
  exact congrArg orErrorText (map_formatted_none _ _)

/-- A chain that ends gives its value to its first cell, where no key that will be asked for is
held. -/
theorem value_of_ends (hnames : NamesDistinct b) (hv : Ends s.registry s.host c v)
    (hfree : ∀ d r, Relation.TransGen (Passes s.registry s.host) c d →
      d.row = r.top → d.column = r.left → keyOf s.host d.sheet r ∉ held) :
    s.value (guarded s b held) c.sheet c.row c.column = v := by
  induction hv generalizing held with
  | @stops c hstops => exact value_content hstops
  | breaks hbreaks =>
    obtain ⟨r, hr, hmisses⟩ := hbreaks
    rw [value_of_linksTo hs hr,
      settled_reference_of_error (guarded_cell_of_misses hs hmisses _)]
    rfl
  | @passes c d v hpass hends ih =>
    cases hpass with
    | @link r i hr hi =>
      have hpass : Passes s.registry s.host c ⟨i, r.range.top, r.range.left⟩ := .link hr hi
      have hkey := hfree _ r.range (.single hpass) rfl rfl
      have hvalue : (guarded s b held _).cell r = _ := guarded_cell hs hi
      rw [if_neg (by simpa using hkey), ih ?_] at hvalue
      · rw [value_of_linksTo hs hr, settled_reference_of_ok hvalue hends.ne_reference]
        rfl
      -- The key that is added is not asked for again, or else the chain would return.
      intro d t hd hrow hcolumn hmem
      rcases List.mem_cons.1 hmem with heq | hmem
      · obtain ⟨hname, rfl⟩ := keyOf_inj heq
        rw [hs] at hname hd hends
        obtain ⟨hi', hj⟩ := sheets_lt_of_transGen hd
        have hsheet := keyName_inj hnames hj hi' hname
        obtain rfl := Place.ext (d := ⟨i, r.range.top, r.range.left⟩) hsheet hrow hcolumn
        exact hends.not_returns hd
      · exact hfree d t (.head hpass hd) hrow hcolumn hmem

/-- From a cell on a cycle the references lead to such cells only, and all of them have the text of
the error as their values. -/
theorem value_of_cycle {C : Set Place} (hC : ∀ c ∈ C, ∃ d ∈ C, Passes s.registry s.host c d)
    (hc : c ∈ C) :
    s.value (guarded s b held) c.sheet c.row c.column = errorText .circularReference := by
  induction hfree : b.freeKeys held using Nat.strong_induction_on generalizing held c with
  | _ n ih =>
    obtain ⟨d, hd, hpass⟩ := hC c hc
    cases hpass with
    | @link r i hr hi =>
      rw [value_of_linksTo hs hr]
      have hvalue : (guarded s b held _).cell r = _ := guarded_cell hs hi
      cases hkey : held.contains (keyOf s.host i r.range) with
      | true =>
        rw [if_pos hkey] at hvalue
        rw [settled_reference_of_error hvalue]
        rfl
      | false =>
        have hlt := Workbook.freeKeys_cons_lt (keyOf_mem_keys hs i r.range) hkey
        rw [if_neg (Bool.eq_false_iff.1 hkey), ih _ (hfree ▸ hlt) hd rfl] at hvalue
        rw [settled_reference_of_ok hvalue nofun]
        rfl

/-- A chain that comes back to a cell gives the text of the error to its first cell. -/
theorem value_of_returns (hd : Relation.ReflTransGen (Passes s.registry s.host) c d)
    (hreturns : Returns s.registry s.host d) :
    s.value (guarded s b held) c.sheet c.row c.column = errorText .circularReference := by
  apply value_of_cycle hs
    (C := {c | Relation.TransGen (Passes s.registry s.host) c d})
  · exact exists_reads_of_cycle hreturns
  · exact .trans_right hd hreturns

end

/-! ## Engines -/

section

variable {settings : Settings} {fs : List Function} {e : Engine} (he : Reached settings fs e)
  {b : Workbook} {text : String} {r : Reference}
  (htext : treesOf e.registry text (.reference r)) {o : Options} (ho : o.format = none)
include he htext ho

/-- An engine gives for a reference the value that its first cell has while the key of the reference
is held. -/
theorem evaluate_of_value {i : Nat} (hi : sheetOf b.host (o.sheet.getD b.host.selected) r = .ok i)
    {v : Value} (hne : ∀ t, v ≠ .reference t)
    (hv : Surroundings.value ⟨e.registry, {}, b.host⟩
      (guarded ⟨e.registry, {}, b.host⟩ b [keyOf b.host i r.range]) i r.range.top r.range.left =
        v) :
    (e.evaluate b.host text o).1 = v := by
  have hcell : (guarded ⟨e.registry, {}, b.host⟩ b [] _).cell r = _ := guarded_cell rfl hi
  rw [if_neg (by simp), hv] at hcell
  rw [evaluate_eq, he.atRest.1.tryEvaluate_of_tree b.host_knowsNoNames htext ho, answers,
    answersAt_keyBound (b := b) rfl, settled_reference_of_ok hcell hne]
  rfl

theorem evaluate_of_misses {name : String} (hmisses : Misses b.host r name) :
    (e.evaluate b.host text o).1 = errorText (.missingSheet name) := by
  have hcell : (guarded ⟨e.registry, {}, b.host⟩ b [] _).cell r = _ :=
    guarded_cell_of_misses rfl hmisses (o.sheet.getD b.host.selected)
  rw [evaluate_eq, he.atRest.1.tryEvaluate_of_tree b.host_knowsNoNames htext ho, answers,
    answersAt_keyBound (b := b) rfl, settled_reference_of_error hcell]
  rfl

end

/-- The text of an error that a missing sheet becomes. -/
theorem errorText_missingSheet (name : String) :
    errorText (.missingSheet name) = .text ("Error: invalid sheet reference: " ++ name) := by
  have hjoined : "Error: " ++ ("invalid sheet reference: " ++ name) =
      "Error: invalid sheet reference: " ++ name := by
    apply String.toList_inj.1
    simp
  exact congrArg Value.text hjoined

/-- Where all formulas of a workbook are references, an engine gives for a reference the content of
the cell that they lead to, or else the text that tells of a sheet that is not there or of a
circular reference. -/
theorem Reached.evaluate_link {settings : Settings} {fs : List Function} {e : Engine}
    (he : Reached settings fs e) {b : Workbook} (hnames : NamesDistinct b)
    (hlinked : Linked e.registry b.host) {text : String} {r : Reference}
    (htext : treesOf e.registry text (.reference r)) {o : Options} (ho : o.format = none) :
    let result := (e.evaluate b.host text o).1
    let Follows := Relation.ReflTransGen (Passes e.registry b.host)
    (∀ name, Misses b.host r name →
      result = .text ("Error: invalid sheet reference: " ++ name)) ∧
    ∀ i, sheetOf b.host (o.sheet.getD b.host.selected) r = .ok i →
      let c : Place := ⟨i, r.range.top, r.range.left⟩
      (∀ d, Follows c d → Stops b.host d → result = .ofContent (d.content b.host)) ∧
      (∀ d name, Follows c d → Breaks e.registry b.host d name →
        result = .text ("Error: invalid sheet reference: " ++ name)) ∧
      (∀ d, Follows c d → Returns e.registry b.host d →
        result = .text "Error: circular reference") ∧
      ((∃ d, Follows c d ∧ Stops b.host d) ∨
        (∃ d name, Follows c d ∧ Breaks e.registry b.host d name) ∨
          ∃ d, Follows c d ∧ Returns e.registry b.host d) := by
  intro result Follows
  constructor
  · intro name hmisses
    rw [← errorText_missingSheet]
    exact evaluate_of_misses he htext ho hmisses
  intro i hi c
  have hends {v : Value} (hv : Ends e.registry b.host c v) : result = v := by
    apply evaluate_of_value he htext ho hi hv.ne_reference
    apply value_of_ends (s := ⟨e.registry, {}, b.host⟩) (c := c) rfl hnames hv
    -- The key of the reference is that of the first cell, to which the chain does not return.
    intro d t hd hrow hcolumn hmem
    obtain ⟨hname, rfl⟩ := keyOf_inj (List.mem_singleton.1 hmem)
    obtain ⟨hc, hd'⟩ := sheets_lt_of_transGen hd
    have hsheet : d.sheet = c.sheet := keyName_inj hnames hd' hc hname
    obtain rfl : d = c := Place.ext hsheet hrow hcolumn
    exact hv.not_returns hd
  refine ⟨fun d hd hstops => ?_, fun d name hd hbreaks => ?_, fun d hd hreturns => ?_, ?_⟩
  · exact hends (.of_reflTransGen hd (.stops hstops))
  · rw [← errorText_missingSheet]
    exact hends (.of_reflTransGen hd (.breaks hbreaks))
  · have hvalue : Surroundings.value ⟨e.registry, {}, b.host⟩
        (guarded _ b [keyOf b.host i r.range]) c.sheet c.row c.column = _ :=
      value_of_returns rfl hd hreturns
    exact evaluate_of_value he htext ho hi nofun hvalue
  · obtain ⟨v, hv⟩ | hreturns := exists_ends_or_returns hlinked c
    · exact hv.exists.imp_right .inl
    · exact .inr (.inr hreturns)

/-- A workbook with a chain over two sheets, a cycle that another cell leads to, and a chain that
breaks. -/
def woven : Workbook where
  sheets := [
    { name := "a"
      cells := [
        ((0, 0), { content := .formula "=b!B2" }), ((0, 2), { content := .number 5.0 }),
        ((1, 0), { content := .formula "=A3" }), ((2, 0), { content := .formula "=$A$4" }),
        ((3, 0), { content := .formula "=A3" }), ((4, 0), { content := .formula "=A6" }),
        ((5, 0), { content := .formula "=c!A1" })] },
    { name := "b"
      cells := [((1, 1), { content := .formula "=a!C1" })] }]

/-- The three chains end with a number, come back, and break. -/
theorem Reached.evaluate_link_woven :
    let e := Engine.new {}
    Reached {} [] e ∧ NamesDistinct woven ∧ Linked e.registry woven.host ∧
      (e.evaluate woven.host "=A1" {}).1 = .number 5.0 ∧
      (e.evaluate woven.host "=A2" {}).1 = .text "Error: circular reference" ∧
      (e.evaluate woven.host "=A5" {}).1 = .text "Error: invalid sheet reference: c" := by
  intro e
  have he : Reached {} [] e := .new
  have hnames : NamesDistinct woven := by
    unfold NamesDistinct
    decide
  have hlinked : Linked e.registry woven.host := linked_of_cells (by decide +kernel)
  have hfirst : Passes .standard woven.host ⟨0, 0, 0⟩ ⟨1, 1, 1⟩ :=
    .link (r := ⟨.single { row := 1, column := 1 }, some "b"⟩)
      ⟨"=b!B2", rfl, "b!B2", rfl, rfl⟩ rfl
  have hsecond : Passes .standard woven.host ⟨1, 1, 1⟩ ⟨0, 0, 2⟩ :=
    .link (r := ⟨.single { row := 0, column := 2 }, some "a"⟩)
      ⟨"=a!C1", rfl, "a!C1", rfl, rfl⟩ rfl
  have hthird : Stops woven.host ⟨0, 0, 2⟩ := fun _ => Content.noConfusion
  have hinto : Passes .standard woven.host ⟨0, 1, 0⟩ ⟨0, 2, 0⟩ :=
    .link (r := ⟨.single { row := 2, column := 0 }, none⟩) ⟨"=A3", rfl, "A3", rfl, rfl⟩ rfl
  have hdown : Passes .standard woven.host ⟨0, 2, 0⟩ ⟨0, 3, 0⟩ :=
    .link (r := ⟨.single { row := 3, column := 0 }, none⟩)
      ⟨"=$A$4", rfl, "$A$4", rfl, rfl⟩ rfl
  have hup : Passes .standard woven.host ⟨0, 3, 0⟩ ⟨0, 2, 0⟩ :=
    .link (r := ⟨.single { row := 2, column := 0 }, none⟩) ⟨"=A3", rfl, "A3", rfl, rfl⟩ rfl
  have hon : Passes .standard woven.host ⟨0, 4, 0⟩ ⟨0, 5, 0⟩ :=
    .link (r := ⟨.single { row := 5, column := 0 }, none⟩) ⟨"=A6", rfl, "A6", rfl, rfl⟩ rfl
  have hbreaks : Breaks .standard woven.host ⟨0, 5, 0⟩ "c" :=
    ⟨⟨.single { row := 0, column := 0 }, some "c"⟩, ⟨"=c!A1", rfl, "c!A1", rfl, rfl⟩, rfl, rfl⟩
  have hgives {text : String} {r : Reference} (htext : treesOf .standard text (.reference r))
      (hr : sheetOf woven.host 0 r = .ok 0) :=
    (Reached.evaluate_link he hnames hlinked htext (o := {}) rfl).2 0 hr
  have hone : treesOf .standard "=A1" (.reference ⟨.single { row := 0, column := 0 }, none⟩) :=
    ⟨"A1", rfl, rfl⟩
  have htwo : treesOf .standard "=A2" (.reference ⟨.single { row := 1, column := 0 }, none⟩) :=
    ⟨"A2", rfl, rfl⟩
  have hfive : treesOf .standard "=A5" (.reference ⟨.single { row := 4, column := 0 }, none⟩) :=
    ⟨"A5", rfl, rfl⟩
  have htold : (e.evaluate woven.host "=A5" {}).1 =
      .text ("Error: invalid sheet reference: " ++ "c") :=
    (hgives hfive rfl).2.1 ⟨0, 5, 0⟩ "c" (.single hon) hbreaks
  exact ⟨he, hnames, hlinked, (hgives hone rfl).1 ⟨0, 0, 2⟩ (.head hfirst (.single hsecond)) hthird,
    (hgives htwo rfl).2.2.1 ⟨0, 2, 0⟩ (.single hinto) (.head hdown (.single hup)), htold⟩

end Spreadsheet.Engine
