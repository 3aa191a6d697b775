import Mathlib.Data.List.InsertIdx
import Mathlib.Data.List.Nodup
import Spreadsheet.Grid.Workbook
import Spreadsheet.Proofs.Grid.Storage

/-!
# The sheets of a workbook

In whatever way a workbook has been changed, its sheets have distinct names that
sheets may have, and the selection is one of its sheets (`InOrder`).  So a name
stands for at most one sheet, and looking it up finds that one.  A change that
fails leaves the workbook as it was.

Every operation makes its checks before it changes anything.  For each there is
an equation that shows this (`add_run`, `remove_run`, `rename_run`,
`select_run`), and both results come from these equations.  Edits of cells are
made in place as well.  They do not touch the name of a sheet, and one that
fails does not touch the sheet.
-/

namespace Spreadsheet.Grid

theorem Worksheet.name_fill (w : Worksheet) (r : Range) (contents : List Content) :
    (w.fill r contents).name = w.name := by
  unfold fill
  generalize r.cells.zip contents = entries
  induction entries generalizing w with
  | nil => rfl
  | cons entry entries ih => exact ih (w.setContent entry.1.1 entry.1.2 entry.2)

/-- Edits of cells do not touch the name. -/
theorem Worksheet.name_after (w : Worksheet) (e : Edit) : (e.change.after w).name = w.name := by
  have hcontentAt (address : String) (c : Content) :
      ((InPlace.setContentAt address c).after w).name = w.name := by
    rw [Change.after, InPlace.setContentAt_run]
    cases Address.read address <;> rfl
  cases e with
  | setContentAt address c => exact hcontentAt address c
  | setFormulaAt address text => exact hcontentAt address (.formula text)
  | setFormatAt address format =>
    change ((InPlace.setFormatAt address format).after w).name = w.name
    rw [Change.after, InPlace.setFormatAt_run]
    cases Address.read address <;> rfl
  | fill r contents => exact w.name_fill r contents
  | _ => rfl

namespace Workbook

variable {b : Workbook}

/-! ## Names -/

/-- The names of the sheets. -/
def names (b : Workbook) : List String := b.sheets.map (·.name)

/-- Whether a sheet may have a name. -/
structure ValidName (name : String) : Prop where
  /-- There is a character. -/
  ne_empty : name ≠ ""
  /-- There are not too many. -/
  length_le : name.toList.length ≤ 31
  /-- None of them is forbidden. -/
  allowed : ∀ c ∈ ['\\', '/', '?', '*', '[', ']', ':'], c ∉ name.toList

/-- A text passes the check for a further sheet if a sheet may have this name and none has. -/
theorem checkName_eq_ok {name : String} :
    b.checkName name = .ok () ↔ ValidName name ∧ name ∉ b.names := by
  have hempty : name.isEmpty = true ↔ name = "" := String.isEmpty_iff
  have hforbidden : name.toList.find? forbidden.contains = none ↔
      ∀ c ∈ ['\\', '/', '?', '*', '[', ']', ':'], c ∉ name.toList := by
    rw [List.find?_eq_none]
    exact ⟨fun h c hc hmem => h c hmem (by simpa [forbidden] using hc),
      fun h c hmem hc => h c (by simpa [forbidden] using hc) hmem⟩
  have hindex : (b.sheetIndex? name).isSome = true ↔ name ∈ b.names := by
    simp [sheetIndex?, names, List.findIdx?_isSome]
  unfold checkName maxNameLength
  split
  · next h => simpa using fun hv => absurd (hempty.1 h) hv.ne_empty
  · next h =>
    split
    · next hlong => simpa using fun hv => absurd hv.length_le (by omega)
    · next hlong =>
      split
      · next c hc =>
        have hsome : ¬ name.toList.find? forbidden.contains = none := by
          rw [hc]
          exact Option.some_ne_none c
        simpa using fun hv => absurd (hforbidden.2 hv.allowed) hsome
      · next hnone =>
        have hvalid : ValidName name := ⟨mt hempty.2 h, by omega, hforbidden.1 hnone⟩
        split
        · next hsome => simpa using fun _ => hindex.1 hsome
        · next hsome => simpa [hvalid] using mt hindex.2 hsome

/-! ## Operations -/

namespace InPlace

theorem add_run (w : Worksheet) (b : Workbook) :
    InPlace.add w b =
      match b.checkName w.name with
      | .ok () => .ok b.sheets.length { b with sheets := b.sheets ++ [w] }
      | .error e => .error e b := by
  rw [InPlace.add, Change.get_bind, Change.check_bind]
  cases b.checkName w.name with
  | error e => rfl
  | ok => rw [Change.modify_bind, Change.get_bind, List.length_append]; rfl

theorem remove_run (index : Nat) (b : Workbook) :
    InPlace.remove index b =
      match b.sheets[index]? with
      | some w => .ok w { b with sheets := b.sheets.eraseIdx index }.clampSelection
      | none => .error (.sheetOutOfBounds index b.sheets.length) b := by
  rw [InPlace.remove, Change.get_bind, Change.check_bind, sheet]
  cases b.sheets[index]? <;> rfl

theorem rename_run (index : Nat) (name : String) (b : Workbook) :
    InPlace.rename index name b =
      match b.sheets[index]? with
      | some w =>
        match if w.name = name then .ok () else b.checkName name with
        | .ok () => .ok () (b.modifySheet index (·.rename name))
        | .error e => .error e b
      | none => .error (.sheetOutOfBounds index b.sheets.length) b := by
  rw [InPlace.rename, Change.get_bind, Change.check_bind, sheet]
  cases b.sheets[index]? with
  | none => rfl
  | some w =>
    by_cases hname : w.name = name
    · simp only [hname, beq_self_eq_true, if_true]
      rfl
    · simp only [hname, beq_eq_false_iff_ne.2 hname, Bool.false_eq_true, if_false]
      rw [Change.get_bind, Change.check_bind]
      cases b.checkName name <;> rfl

theorem select_run (index : Nat) (b : Workbook) :
    InPlace.select index b =
      match b.sheets[index]? with
      | some _ => .ok () { b with selected := index }
      | none => .error (.sheetOutOfBounds index b.sheets.length) b := by
  rw [InPlace.select, Change.get_bind, sheet]
  cases b.sheets[index]? <;> rfl

theorem onSheetNamed_run {α : Type} (name : String) (c : Change Worksheet α) (b : Workbook) :
    onSheetNamed name c b =
      match b.sheetIndex? name with
      | some index => onSheet index c b
      | none => .ok none b := by
  rw [onSheetNamed, Change.get_bind]
  cases b.sheetIndex? name <;> rfl

end InPlace

/-! ## Commands -/

/-- A command to a workbook.  Cells are edited on a sheet given by its index or its name. -/
inductive Command where
  /-- A worksheet at the end. -/
  | add (w : Worksheet)
  /-- A new worksheet at the end. -/
  | addNamed (name : String)
  /-- One worksheet less. -/
  | remove (index : Nat)
  /-- Another name for a worksheet. -/
  | rename (index : Nat) (name : String)
  /-- Another selection. -/
  | select (index : Nat)
  /-- An edit of a worksheet. -/
  | edit (index : Nat) (e : Edit)
  /-- An edit of the first worksheet with a name. -/
  | editNamed (name : String) (e : Edit)

/-- The change that a command makes. -/
def Command.change : Command → Change Workbook Unit
  | add w => discard (InPlace.add w)
  | addNamed name => discard (InPlace.addNamed name)
  | remove index => discard (InPlace.remove index)
  | rename index name => InPlace.rename index name
  | select index => InPlace.select index
  | edit index e => discard (InPlace.onSheet index e.change)
  | editNamed name e => discard (InPlace.onSheetNamed name e.change)

/-- The workbooks that commands lead to. -/
inductive Reached : Workbook → Prop where
  /-- A new workbook. -/
  | new : Reached new
  /-- A workbook without sheets. -/
  | empty : Reached empty
  /-- A workbook after a command, whether it failed or not. -/
  | step {b : Workbook} (h : Reached b) (c : Command) : Reached (c.change.after b)

/-! ## Failure -/

/-- A workbook is the same after a sheet is put in its own place. -/
theorem modifySheet_self {index : Nat} {w : Worksheet} (h : b.sheets[index]? = some w) :
    (b.modifySheet index fun _ => w) = b := by
  obtain ⟨sheets, selected⟩ := b
  have hsheets : sheets.modify index (fun _ => w) = sheets := by
    apply List.ext_getElem?
    intro i
    by_cases hi : index = i
    · subst hi
      simp only [List.getElem?_modify_eq, h]
      rfl
    · simp [hi]
  simp [modifySheet, hsheets]

/-- An edit that fails leaves its workbook unchanged. -/
theorem eq_of_onSheet_eq_error {b b' : Workbook} {index : Nat} {e : Edit} {error : Error}
    (h : InPlace.onSheet index e.change b = .error error b') : b' = b := by
  unfold InPlace.onSheet at h
  split at h
  · cases h
  · next w hw =>
    split at h
    · cases h
    · next error' w' hrun =>
      obtain rfl := Worksheet.eq_of_change_eq_error hrun
      cases h
      exact modifySheet_self hw

/-- A command that fails leaves the workbook unchanged. -/
theorem eq_of_change_eq_error {b b' : Workbook} {c : Command} {error : Error}
    (h : c.change b = .error error b') : b' = b := by
  have hadd (w : Worksheet) (h : (discard (InPlace.add w)) b = .error error b') : b' = b := by
    rw [Change.discard_run, InPlace.add_run] at h
    cases hcheck : b.checkName w.name <;> simp_all
  cases c with
  | add w => exact hadd w h
  | addNamed name => exact hadd { name := name } h
  | remove index =>
    rw [Command.change, Change.discard_run, InPlace.remove_run] at h
    cases hsheet : b.sheets[index]? <;> simp_all
  | rename index name =>
    rw [Command.change, InPlace.rename_run] at h
    cases hsheet : b.sheets[index]? with
    | none => simp_all
    | some w => cases hcheck : (if w.name = name then .ok () else b.checkName name) <;> simp_all
  | select index =>
    rw [Command.change, InPlace.select_run] at h
    cases hsheet : b.sheets[index]? <;> simp_all
  | edit index e =>
    rw [Command.change, Change.discard_run] at h
    split at h
    · cases h
    · next hrun =>
      cases h
      exact eq_of_onSheet_eq_error hrun
  | editNamed name e =>
    rw [Command.change, Change.discard_run, InPlace.onSheetNamed_run] at h
    split at h
    · cases h
    · next hrun =>
      cases h
      split at hrun
      · exact eq_of_onSheet_eq_error hrun
      · cases hrun

example : (Command.remove 3).change.after new = new := by decide +kernel

/-! ## Order -/

/-- Whether the sheets have distinct names that sheets may have, and one of them is selected. -/
structure InOrder (b : Workbook) : Prop where
  /-- The names are distinct. -/
  nodup : b.names.Nodup
  /-- Sheets may have the names. -/
  valid : ∀ name ∈ b.names, ValidName name
  /-- The selection is a sheet, or zero if there is none. -/
  selected : b.selected < b.sheets.length ∨ b.sheets.length = 0 ∧ b.selected = 0

theorem length_names (b : Workbook) : b.names.length = b.sheets.length := List.length_map _

theorem names_modifySheet {index : Nat} {w : Worksheet} (h : b.sheets[index]? = some w)
    (f : Worksheet → Worksheet) : (b.modifySheet index f).names = b.names.set index (f w).name := by
  obtain ⟨hindex, rfl⟩ := List.getElem?_eq_some_iff.1 h
  apply List.ext_getElem?
  intro i
  by_cases hi : index = i
  · subst hi
    simp [names, modifySheet, hindex]
  · simp [names, modifySheet, hi]

/-- Changing a sheet, but not its name, does not change the names. -/
theorem names_modifySheet_of_name_eq {index : Nat} {w : Worksheet}
    (h : b.sheets[index]? = some w) {f : Worksheet → Worksheet} (hf : (f w).name = w.name) :
    (b.modifySheet index f).names = b.names := by
  obtain ⟨hindex, rfl⟩ := List.getElem?_eq_some_iff.1 h
  have hindex' : index < b.names.length := length_names b ▸ hindex
  have hname : b.sheets[index].name = b.names[index] := (List.getElem_map _).symm
  rw [names_modifySheet h, hf, hname, List.set_getElem_self]

theorem after_onSheet {α : Type} {index : Nat} {w : Worksheet} (h : b.sheets[index]? = some w)
    (c : Change Worksheet α) :
    (InPlace.onSheet index c).after b = b.modifySheet index fun _ => c.after w := by
  simp only [Change.after, InPlace.onSheet, h]
  cases c w <;> rfl

theorem names_onSheet (b : Workbook) (index : Nat) (e : Edit) :
    ((InPlace.onSheet index e.change).after b).names = b.names ∧
      ((InPlace.onSheet index e.change).after b).selected = b.selected := by
  cases hsheet : b.sheets[index]? with
  | none => simp [Change.after, InPlace.onSheet, hsheet]
  | some w =>
    rw [after_onSheet hsheet]
    exact ⟨names_modifySheet_of_name_eq hsheet (w.name_after e), rfl⟩

namespace InOrder

theorem of_names_eq {b' : Workbook} (h : b.InOrder) (hnames : b'.names = b.names)
    (hselected : b'.selected = b.selected) : b'.InOrder where
  nodup := hnames ▸ h.nodup
  valid := hnames ▸ h.valid
  selected := by
    rw [← length_names, hnames, hselected, length_names]
    exact h.selected

theorem add (h : b.InOrder) (w : Worksheet) : ((InPlace.add w).after b).InOrder := by
  rw [Change.after, InPlace.add_run]
  cases hcheck : b.checkName w.name with
  | error e => exact h
  | ok =>
    obtain ⟨hvalid, hfresh⟩ := checkName_eq_ok.1 hcheck
    have hnames :
        ({ b with sheets := b.sheets ++ [w] } : Workbook).names = b.names ++ [w.name] := by
      simp [names]
    refine ⟨?_, ?_, ?_⟩
    · rw [hnames, List.nodup_append_comm]
      exact List.nodup_cons.2 ⟨hfresh, h.nodup⟩
    · rw [hnames]
      intro name hname
      obtain hname | hname := List.mem_append.1 hname
      · exact h.valid name hname
      · exact List.mem_singleton.1 hname ▸ hvalid
    · have hselected := h.selected
      simp only [List.length_append, List.length_singleton]
      omega

theorem remove (h : b.InOrder) (index : Nat) : ((InPlace.remove index).after b).InOrder := by
  rw [Change.after, InPlace.remove_run]
  cases hsheet : b.sheets[index]? with
  | none => exact h
  | some w =>
    have hnames : (b.sheets.eraseIdx index).map (·.name) = b.names.eraseIdx index :=
      (List.eraseIdx_map _ _ _).symm
    have hlength := List.length_eraseIdx_of_lt (List.getElem?_eq_some_iff.1 hsheet).1
    have hnodup := h.nodup.sublist (List.eraseIdx_sublist b.names index)
    have hvalid (name : String) (hname : name ∈ b.names.eraseIdx index) :=
      h.valid name (List.mem_of_mem_eraseIdx hname)
    rw [← hnames] at hnodup hvalid
    by_cases hclamp : (b.sheets.eraseIdx index).length ≤ b.selected
    · simp only [clampSelection, hclamp, if_true]
      refine ⟨hnodup, hvalid, ?_⟩
      simp only
      omega
    · simp only [clampSelection, hclamp, if_false]
      exact ⟨hnodup, hvalid, .inl (Nat.lt_of_not_le hclamp)⟩

theorem rename (h : b.InOrder) (index : Nat) (name : String) :
    ((InPlace.rename index name).after b).InOrder := by
  rw [Change.after, InPlace.rename_run]
  cases hsheet : b.sheets[index]? with
  | none => exact h
  | some w =>
    by_cases hsame : w.name = name
    · simp only [hsame, if_true]
      exact h.of_names_eq (names_modifySheet_of_name_eq hsheet hsame.symm) rfl
    · simp only [hsame, if_false]
      cases hcheck : b.checkName name with
      | error e => exact h
      | ok =>
        obtain ⟨hvalid, hfresh⟩ := checkName_eq_ok.1 hcheck
        have hnames := names_modifySheet hsheet (·.rename name)
        refine ⟨?_, ?_, ?_⟩
        · rw [hnames]
          exact h.nodup.set hfresh
        · rw [hnames]
          intro name' hname'
          obtain hname' | rfl := List.mem_or_eq_of_mem_set hname'
          · exact h.valid name' hname'
          · exact hvalid
        · simpa [modifySheet] using h.selected

theorem select (h : b.InOrder) (index : Nat) : ((InPlace.select index).after b).InOrder := by
  rw [Change.after, InPlace.select_run]
  cases hsheet : b.sheets[index]? with
  | none => exact h
  | some w => exact ⟨h.nodup, h.valid, .inl (List.getElem?_eq_some_iff.1 hsheet).1⟩

/-- A command keeps a workbook in order. -/
theorem step (h : b.InOrder) (c : Command) : (c.change.after b).InOrder := by
  cases c with
  | add w => exact Change.after_discard (InPlace.add w) b ▸ h.add w
  | addNamed name => exact Change.after_discard (InPlace.add _) b ▸ h.add { name := name }
  | remove index => exact Change.after_discard (InPlace.remove index) b ▸ h.remove index
  | rename index name => exact h.rename index name
  | select index => exact h.select index
  | edit index e =>
    obtain ⟨hnames, hselected⟩ := b.names_onSheet index e
    rw [Command.change, Change.after_discard]
    exact h.of_names_eq hnames hselected
  | editNamed name e =>
    rw [Command.change, Change.after_discard, Change.after, InPlace.onSheetNamed_run]
    cases b.sheetIndex? name with
    | none => exact h
    | some index =>
      obtain ⟨hnames, hselected⟩ := b.names_onSheet index e
      exact h.of_names_eq hnames hselected

end InOrder

theorem Reached.inOrder (h : Reached b) : b.InOrder := by
  induction h with
  | new =>
    refine ⟨by decide, ?_, by decide⟩
    intro name hname
    obtain rfl : name = "Sheet1" := List.mem_singleton.1 hname
    exact ⟨by decide, by decide, by simp⟩
  | empty => exact ⟨List.nodup_nil, fun _ h => absurd h List.not_mem_nil, .inr ⟨rfl, rfl⟩⟩
  | step _ c ih => exact ih.step c

/-- A name stands for the only sheet that has it. -/
theorem InOrder.sheetIndex?_eq_some (h : b.InOrder) {name : String} {i : Nat} :
    b.sheetIndex? name = some i ↔ ∃ w, b.sheets[i]? = some w ∧ w.name = name := by
  rw [sheetIndex?, List.findIdx?_eq_some_iff_getElem]
  constructor
  · rintro ⟨hi, hname, -⟩
    exact ⟨b.sheets[i], List.getElem?_eq_getElem hi, by simpa using hname⟩
  · rintro ⟨w, hw, hname⟩
    obtain ⟨hi, rfl⟩ := List.getElem?_eq_some_iff.1 hw
    refine ⟨hi, by simpa using hname, ?_⟩
    intro j hj hsame
    have hi' : i < b.names.length := length_names b ▸ hi
    have hj' : j < b.names.length := hj.trans hi'
    have hnames : b.names[j] = b.names[i] := by simpa [names, hname] using hsame
    exact absurd (h.nodup.getElem_inj_iff.1 hnames) (Nat.ne_of_lt hj)

/-- Workbooks are in order, a name stands for the only sheet that has it, and a command that fails
changes nothing. -/
theorem reached_spec (h : Reached b) :
    (b.sheets.map (·.name)).Nodup ∧
    (∀ w ∈ b.sheets, w.name ≠ "" ∧ w.name.toList.length ≤ 31 ∧
      ∀ c ∈ ['\\', '/', '?', '*', '[', ']', ':'], c ∉ w.name.toList) ∧
    (b.selected < b.sheets.length ∨ b.sheets.length = 0 ∧ b.selected = 0) ∧
    (∀ name i, b.sheetIndex? name = some i ↔ ∃ w, b.sheets[i]? = some w ∧ w.name = name) ∧
    ∀ (c : Command) (error : Error) (b' : Workbook), c.change b = .error error b' → b' = b := by
  have hb := h.inOrder
  refine ⟨hb.nodup, ?_, hb.selected, fun name i => hb.sheetIndex?_eq_some,
    fun c error b' => eq_of_change_eq_error⟩
  intro w hw
  obtain ⟨hne, hlength, hallowed⟩ := hb.valid w.name (List.mem_map_of_mem hw)
  exact ⟨hne, hlength, hallowed⟩

/-- A workbook whose second sheet was added, selected and removed, and whose first was renamed. -/
theorem reached_spec_renamed :
    let b : Workbook := ⟨[⟨"Main", 100, 26, [], [], []⟩], 0⟩
    Reached b ∧ b.sheetIndex? "Main" = some 0 ∧
      ∀ (c : Command) (error : Error) (b' : Workbook), c.change b = .error error b' → b' = b := by
  intro b
  have hreached : Reached b := by
    have h := (((Reached.new.step (.addNamed "Two")).step (.select 1)).step (.remove 1)).step
      (.rename 0 "Main")
    exact (congrArg Reached (by decide +kernel)).mp h
  obtain ⟨-, -, -, hindex, hfails⟩ := reached_spec hreached
  exact ⟨hreached, (hindex "Main" 0).2 ⟨_, rfl, rfl⟩, hfails⟩

end Workbook

end Spreadsheet.Grid
