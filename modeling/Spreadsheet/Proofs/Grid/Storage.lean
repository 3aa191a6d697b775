import Mathlib.Data.List.Nodup
import Spreadsheet.Engine.Basic
import Spreadsheet.Proofs.Grid.Part

/-!
# What a worksheet stores

A worksheet is a map from cells to their contents and display formats, whatever
edits it has been through and however often it has grown and shrunk.

* A cell holds the content that was last written to it since it was last dropped,
  and is empty if there is none.  A cell is dropped when it is cleared, and when
  the sheet gets a size that it does not fit in.  The same is true of its format,
  and neither of the two has an effect on the other.
* All stored cells lie within the size of the sheet, so a range that ends at one
  of them can be read.
* Filling a range writes the contents to its cells row by row, as far as they
  reach, and to no others.
* An edit that fails, because a text is no address, changes nothing.

Every edit is described by what it does to one cell (`cellAt_after`), and the
main result (`edited_spec`) is an induction on the edits.
-/

namespace Spreadsheet.Grid

/-! ## The cells of a range, row by row -/

namespace Range

/-- The cell of a block that `k` others precede. -/
def cell (r : Range) (k : Nat) : Nat × Nat := (r.top + k / r.columns, r.left + k % r.columns)

/-- How many cells of a block precede one of its cells. -/
def place? (r : Range) (row column : Nat) : Option Nat :=
  if r.contains row column then some ((row - r.top) * r.columns + (column - r.left)) else none

theorem columns_pos (r : Range) : 0 < r.columns := Nat.succ_pos _

theorem contains_iff_lt {r : Range} {row column : Nat} :
    r.contains row column = true ↔
      r.top ≤ row ∧ row < r.top + r.rows ∧ r.left ≤ column ∧ column < r.left + r.columns := by
  have htop := r.top_le
  have hleft := r.left_le
  rw [contains_iff, rows, columns]
  omega

/-- The cell in a row and a column of a block, both counted from its first. -/
theorem cell_mul_add (r : Range) (i : Nat) {j : Nat} (hj : j < r.columns) :
    r.cell (i * r.columns + j) = (r.top + i, r.left + j) := by
  rw [cell, Nat.mul_comm, Nat.mul_add_div r.columns_pos, Nat.mul_add_mod, Nat.div_eq_of_lt hj,
    Nat.mod_eq_of_lt hj, Nat.add_zero]

/-- The first rows of a block have its first cells. -/
theorem flatMap_rows (r : Range) (n : Nat) :
    ((List.range' r.top n).flatMap fun row => r.columnIndices.map fun column => (row, column)) =
      (List.range (n * r.columns)).map r.cell := by
  induction n with
  | zero => simp
  | succ n ih =>
    have hrow : (r.columnIndices.map fun column => (r.top + n, column)) =
        (List.range r.columns).map fun j => r.cell (n * r.columns + j) := by
      rw [columnIndices, List.range'_eq_map_range, List.map_map]
      apply List.map_congr_left
      intro j hj
      exact (r.cell_mul_add n (List.mem_range.1 hj)).symm
    calc
      _ = (List.range (n * r.columns)).map r.cell ++
            r.columnIndices.map fun column => (r.top + n, column) := by
        rw [List.range'_concat, List.flatMap_append, ih, Nat.one_mul, List.flatMap_singleton]
      _ = (List.range ((n + 1) * r.columns)).map r.cell := by
        rw [hrow, Nat.add_mul, Nat.one_mul, List.range_add, List.map_append, List.map_map]
        rfl

/-- The cells of a block are numbered row by row. -/
theorem cells_eq (r : Range) : r.cells = (List.range (r.rows * r.columns)).map r.cell :=
  r.flatMap_rows r.rows

theorem length_cells (r : Range) : r.cells.length = r.rows * r.columns := by
  rw [cells_eq, List.length_map, List.length_range]

/-- A cell has the place `k` in a block if it is the one that `k` others precede. -/
theorem place?_eq_some {r : Range} {row column k : Nat} :
    r.place? row column = some k ↔ k < r.rows * r.columns ∧ r.cell k = (row, column) := by
  simp only [place?, contains_iff_lt, Option.ite_none_right_eq_some, Option.some.injEq]
  constructor
  · rintro ⟨⟨htop, hrow, hleft, hcolumn⟩, rfl⟩
    obtain ⟨i, rfl⟩ := Nat.exists_eq_add_of_le htop
    obtain ⟨j, rfl⟩ := Nat.exists_eq_add_of_le hleft
    have hi : i + 1 ≤ r.rows := Nat.add_lt_add_iff_left.1 hrow
    have hj : j < r.columns := Nat.add_lt_add_iff_left.1 hcolumn
    rw [Nat.add_sub_cancel_left, Nat.add_sub_cancel_left]
    refine ⟨?_, r.cell_mul_add i hj⟩
    calc
      i * r.columns + j < (i + 1) * r.columns := by rw [Nat.add_mul, Nat.one_mul]; omega
      _ ≤ r.rows * r.columns := Nat.mul_le_mul_right _ hi
  · rintro ⟨hk, hcell⟩
    obtain ⟨rfl, rfl⟩ := Prod.mk.inj hcell
    have hi : k / r.columns < r.rows := Nat.div_lt_of_lt_mul (by rwa [Nat.mul_comm] at hk)
    have hj : k % r.columns < r.columns := Nat.mod_lt _ r.columns_pos
    refine ⟨⟨Nat.le_add_right _ _, Nat.add_lt_add_left hi _, Nat.le_add_right _ _,
      Nat.add_lt_add_left hj _⟩, ?_⟩
    rw [Nat.add_sub_cancel_left, Nat.add_sub_cancel_left, Nat.mul_comm]
    exact Nat.div_add_mod k r.columns

theorem nodup_cells (r : Range) : r.cells.Nodup := by
  rw [cells_eq]
  apply List.Nodup.map_on _ List.nodup_range
  intro j hj k hk h
  have hj' := place?_eq_some.2 ⟨List.mem_range.1 hj, h⟩
  have hk' := place?_eq_some.2 ⟨List.mem_range.1 hk, rfl⟩
  exact Option.some.inj (hj'.symm.trans hk')

end Range

/-! ## Looking up entries -/

/-- Dropping the entries of some keys leaves those of the others. -/
theorem lookup_filter {κ α : Type} [BEq κ] [LawfulBEq κ] (p : κ → Bool) (k : κ)
    (entries : List (κ × α)) :
    (entries.filter fun entry => p entry.1).lookup k =
      if p k then entries.lookup k else none := by
  induction entries with
  | nil => simp
  | cons entry entries ih =>
    obtain ⟨k', a⟩ := entry
    by_cases hk : k = k'
    · subst hk
      by_cases hp : p k <;> simp [hp, ih]
    · have hne : (k == k') = false := beq_eq_false_iff_ne.2 hk
      by_cases hp : p k' <;> simp [List.lookup_cons, hp, hne, ih]

/-- Looking up a key finds the entry that has it, if no two have the same. -/
theorem lookup_eq_some_iff_mem {κ α : Type} [BEq κ] [LawfulBEq κ] {entries : List (κ × α)}
    (hnodup : (entries.map (·.1)).Nodup) {k : κ} {a : α} :
    entries.lookup k = some a ↔ (k, a) ∈ entries := by
  induction entries with
  | nil => simp
  | cons entry entries ih =>
    obtain ⟨k', a'⟩ := entry
    rw [List.map_cons, List.nodup_cons] at hnodup
    by_cases hk : k = k'
    · subst hk
      have hnot : (k, a) ∉ entries := fun h => hnodup.1 (List.mem_map.2 ⟨_, h, rfl⟩)
      simp [hnot, eq_comm]
    · have hne : (k == k') = false := beq_eq_false_iff_ne.2 hk
      simp [List.lookup_cons, hne, hk, ih hnodup.2]

namespace Worksheet

variable {w : Worksheet} {row column : Nat}

/-- A cell of a sheet, which has neither content nor a format if it is not stored. -/
def cellAt (w : Worksheet) (row column : Nat) : Cell := (w.cell? row column).getD {}

theorem content_eq_cellAt (w : Worksheet) (row column : Nat) :
    w.content row column = (w.cellAt row column).content := by
  rw [content, cellAt]
  cases w.cell? row column <;> rfl

theorem format?_eq_cellAt (w : Worksheet) (row column : Nat) :
    w.format? row column = (w.cellAt row column).format := by
  rw [format?, cellAt]
  cases w.cell? row column <;> rfl

/-! ### One step -/

theorem cell?_clear (w : Worksheet) (i j row column : Nat) :
    (w.clear i j).cell? row column =
      if (row, column) = (i, j) then none else w.cell? row column := by
  have h := lookup_filter (fun k => decide (k ≠ (i, j))) (row, column) w.cells
  by_cases heq : (row, column) = (i, j) <;> simpa [cell?, clear, heq] using h

theorem cell?_resize (w : Worksheet) (rows columns row column : Nat) :
    (w.resize rows columns).cell? row column =
      if row < rows ∧ column < columns then w.cell? row column else none := by
  have h := lookup_filter (fun k => k.1 < rows && k.2 < columns) (row, column) w.cells
  simpa [cell?, resize] using h

theorem cell?_modify (w : Worksheet) (i j row column : Nat) (f : Cell → Cell) :
    (w.modify i j f).cell? row column =
      if (row, column) = (i, j) then some (f (w.cellAt i j)) else w.cell? row column := by
  by_cases heq : (row, column) = (i, j)
  · obtain ⟨rfl, rfl⟩ := Prod.mk.inj heq
    simp [cell?, modify, cellAt]
  · have hne : ((row, column) == (i, j)) = false := beq_eq_false_iff_ne.2 heq
    have hclear := w.cell?_clear i j row column
    rw [if_neg heq] at hclear ⊢
    rw [← hclear]
    simp [cell?, modify, List.lookup_cons, hne]

/-- Cells that are filled one after the other, none of them twice. -/
theorem cell?_foldl_setContent (entries : List ((Nat × Nat) × Content))
    (hnodup : (entries.map (·.1)).Nodup) (w : Worksheet) (row column : Nat) :
    (entries.foldl (fun w entry => w.setContent entry.1.1 entry.1.2 entry.2) w).cell? row column =
      match entries.lookup (row, column) with
      | some c => some { w.cellAt row column with content := c }
      | none => w.cell? row column := by
  induction entries generalizing w with
  | nil => rfl
  | cons entry entries ih =>
    rw [List.map_cons, List.nodup_cons] at hnodup
    obtain ⟨hnot, hnodup⟩ := hnodup
    obtain ⟨⟨i, j⟩, c⟩ := entry
    rw [List.foldl_cons, ih hnodup, List.lookup_cons]
    by_cases heq : (row, column) = (i, j)
    · have hlater : entries.lookup (row, column) = none := by
        rw [heq, List.lookup_eq_none_iff]
        intro entry hentry
        exact bne_iff_ne.2 fun h => hnot (List.mem_map.2 ⟨entry, hentry, h.symm⟩)
      obtain ⟨rfl, rfl⟩ := Prod.mk.inj heq
      simp [hlater, setContent, cell?_modify]
    · have hsame : (w.setContent i j c).cell? row column = w.cell? row column := by
        rw [setContent, cell?_modify, if_neg heq]
      have hne : ((row, column) == (i, j)) = false := beq_eq_false_iff_ne.2 heq
      rw [hne, cellAt, cellAt, hsame]

theorem nodup_zip_cells (r : Range) (contents : List Content) :
    ((r.cells.zip contents).map (·.1)).Nodup := by
  rw [List.zip_eq_zip_take_min, List.map_fst_zip (by simp)]
  exact r.nodup_cells.sublist (List.take_sublist _ _)

/-- The contents of a range that is filled, by the cell they go to. -/
theorem lookup_zip_cells (r : Range) (contents : List Content) (row column : Nat) :
    (r.cells.zip contents).lookup (row, column) =
      (r.place? row column).bind fun k => contents[k]? := by
  ext c
  simp only [lookup_eq_some_iff_mem (nodup_zip_cells r contents), List.mem_iff_getElem?,
    List.getElem?_zip_eq_some, Option.bind_eq_some_iff]
  apply exists_congr
  intro k
  rw [Range.place?_eq_some, r.cells_eq]
  simp [and_assoc, List.getElem?_eq_some_iff]

theorem cell?_fill (w : Worksheet) (r : Range) (contents : List Content) (row column : Nat) :
    (w.fill r contents).cell? row column =
      match (r.place? row column).bind fun k => contents[k]? with
      | some c => some { w.cellAt row column with content := c }
      | none => w.cell? row column := by
  rw [fill, cell?_foldl_setContent _ (nodup_zip_cells r contents), lookup_zip_cells]

theorem cellAt_setContent (w : Worksheet) (i j row column : Nat) (c : Content) :
    (w.setContent i j c).cellAt row column =
      if (row, column) = (i, j) then { w.cellAt row column with content := c }
      else w.cellAt row column := by
  rw [cellAt, setContent, cell?_modify]
  split
  · next h => obtain ⟨rfl, rfl⟩ := Prod.mk.inj h; rfl
  · rfl

theorem cellAt_setFormat (w : Worksheet) (i j row column : Nat) (format : String) :
    (w.setFormat i j format).cellAt row column =
      if (row, column) = (i, j) then { w.cellAt row column with format := some format }
      else w.cellAt row column := by
  rw [cellAt, setFormat, cell?_modify]
  split
  · next h => obtain ⟨rfl, rfl⟩ := Prod.mk.inj h; rfl
  · rfl

theorem cellAt_fill (w : Worksheet) (r : Range) (contents : List Content) (row column : Nat) :
    (w.fill r contents).cellAt row column =
      match (r.place? row column).bind fun k => contents[k]? with
      | some c => { w.cellAt row column with content := c }
      | none => w.cellAt row column := by
  rw [cellAt, cell?_fill]
  split <;> rfl

/-- The contents go to the cells of the range row by row. -/
theorem content_fill (w : Worksheet) {r : Range} {contents : List Content} {k : Nat} {c : Content}
    (hk : k < r.rows * r.columns) (hc : contents[k]? = some c) :
    (w.fill r contents).content (r.top + k / r.columns) (r.left + k % r.columns) = c := by
  have hplace : r.place? (r.top + k / r.columns) (r.left + k % r.columns) = some k :=
    Range.place?_eq_some.2 ⟨hk, rfl⟩
  rw [content_eq_cellAt, cellAt_fill, hplace, Option.bind_some, hc]

/-- A cell that the contents do not reach is left as it was. -/
theorem cell?_fill_of_ne (w : Worksheet) {r : Range} {contents : List Content} {row column : Nat}
    (hne : ∀ k < min (r.rows * r.columns) contents.length,
      (r.top + k / r.columns, r.left + k % r.columns) ≠ (row, column)) :
    (w.fill r contents).cell? row column = w.cell? row column := by
  have hnone : ((r.place? row column).bind fun k => contents[k]?) = none := by
    rw [Option.bind_eq_none_iff]
    intro k hk
    obtain ⟨hk, hcell⟩ := Range.place?_eq_some.1 hk
    by_contra hreach
    have hlength : k < contents.length := by simpa using hreach
    exact hne k (Nat.lt_min.2 ⟨hk, hlength⟩) hcell
  rw [cell?_fill, hnone]

/-! ### Stored cells and the size -/

/-- Whether all stored cells lie within the size of a sheet. -/
def Bounded (w : Worksheet) : Prop := ∀ entry ∈ w.cells, entry.1.1 < w.rows ∧ entry.1.2 < w.columns

theorem Bounded.clear (h : w.Bounded) (i j : Nat) : (w.clear i j).Bounded :=
  fun entry hentry => h entry (List.mem_filter.1 hentry).1

theorem Bounded.modify (h : w.Bounded) (i j : Nat) (f : Cell → Cell) :
    (w.modify i j f).Bounded := by
  intro entry hentry
  obtain rfl | hentry := List.mem_cons.1 hentry
  · exact ⟨Nat.le_max_right _ _, Nat.le_max_right _ _⟩
  · obtain ⟨hrow, hcolumn⟩ := h.clear i j entry hentry
    exact ⟨Nat.lt_of_lt_of_le hrow (Nat.le_max_left _ _),
      Nat.lt_of_lt_of_le hcolumn (Nat.le_max_left _ _)⟩

theorem Bounded.fill (h : w.Bounded) (r : Range) (contents : List Content) :
    (w.fill r contents).Bounded := by
  unfold Worksheet.fill
  generalize r.cells.zip contents = entries
  induction entries generalizing w with
  | nil => exact h
  | cons entry entries ih => exact ih (h.modify _ _ _)

theorem bounded_resize (w : Worksheet) (rows columns : Nat) : (w.resize rows columns).Bounded := by
  intro entry hentry
  have hfits := (List.mem_filter.1 hentry).2
  rw [Bool.and_eq_true, decide_eq_true_eq, decide_eq_true_eq] at hfits
  exact hfits

end Worksheet

/-! ## Edits -/

/-- An edit of a worksheet. -/
inductive Edit where
  /-- Content for a cell. -/
  | setContent (row column : Nat) (c : Content)
  /-- Content for the cell that a text names. -/
  | setContentAt (address : String) (c : Content)
  /-- A formula for the cell that a text names. -/
  | setFormulaAt (address text : String)
  /-- A display format for the cell that a text names. -/
  | setFormatAt (address format : String)
  /-- Contents for the cells of a range. -/
  | fill (r : Range) (contents : List Content)
  /-- Nothing in a cell. -/
  | clear (row column : Nat)
  /-- Another size. -/
  | resize (rows columns : Nat)
  /-- A row hidden or shown. -/
  | setRowHidden (row : Nat) (hidden : Bool)
  /-- A column hidden or shown. -/
  | setColumnHidden (column : Nat) (hidden : Bool)

namespace Edit

/-- The change that an edit makes. -/
def change : Edit → Change Worksheet Unit
  | setContent row column c => modify (·.setContent row column c)
  | setContentAt address c => Worksheet.InPlace.setContentAt address c
  | setFormulaAt address text => Worksheet.InPlace.setFormulaAt address text
  | setFormatAt address format => Worksheet.InPlace.setFormatAt address format
  | fill r contents => modify (·.fill r contents)
  | clear row column => modify (·.clear row column)
  | resize rows columns => modify (·.resize rows columns)
  | setRowHidden row hidden => modify (·.setRowHidden row hidden)
  | setColumnHidden column hidden => modify (·.setColumnHidden column hidden)

/-- Whether an edit is one of contents. -/
def setsContent : Edit → Bool
  | setContent .. | setContentAt .. | setFormulaAt .. | fill .. => true
  | _ => false

/-- Whether an edit is one of formats. -/
def setsFormat : Edit → Bool
  | setFormatAt .. => true
  | _ => false

/-! ### What an edit does to one cell -/

/-- Whether a text names a cell. -/
def names (address : String) (row column : Nat) : Bool :=
  match Address.read address with
  | .ok a => (row, column) = (a.row, a.column)
  | .error _ => false

/-- The content that an edit writes to a cell. -/
def content? (row column : Nat) : Edit → Option Content
  | setContent i j c => if (row, column) = (i, j) then some c else none
  | setContentAt address c => if names address row column then some c else none
  | setFormulaAt address text => if names address row column then some (.formula text) else none
  | fill r contents => (r.place? row column).bind fun k => contents[k]?
  | _ => none

/-- The format that an edit gives to a cell. -/
def format? (row column : Nat) : Edit → Option String
  | setFormatAt address format => if names address row column then some format else none
  | _ => none

/-- Whether an edit drops a cell. -/
def drops (row column : Nat) : Edit → Bool
  | clear i j => (row, column) = (i, j)
  | resize rows columns => !(row < rows && column < columns)
  | _ => false

/-- A cell after an edit. -/
def revise (row column : Nat) (e : Edit) (c : Cell) : Cell :=
  if e.drops row column then {}
  else { content := (e.content? row column).getD c.content
         format := (e.format? row column).or c.format }

end Edit

namespace Worksheet

variable {w : Worksheet}

theorem InPlace.setContentAt_run (address : String) (c : Content) (w : Worksheet) :
    InPlace.setContentAt address c w =
      match Address.read address with
      | .ok a => .ok () (w.setContent a.row a.column c)
      | .error e => .error e w := by
  rw [InPlace.setContentAt, Change.check_bind]
  cases Address.read address <;> rfl

theorem InPlace.setFormatAt_run (address format : String) (w : Worksheet) :
    InPlace.setFormatAt address format w =
      match Address.read address with
      | .ok a => .ok () (w.setFormat a.row a.column format)
      | .error e => .error e w := by
  rw [InPlace.setFormatAt, Change.check_bind]
  cases Address.read address <;> rfl

theorem cellAt_setContentAt (w : Worksheet) (address : String) (c : Content) (row column : Nat) :
    ((InPlace.setContentAt address c).after w).cellAt row column =
      if Edit.names address row column then { w.cellAt row column with content := c }
      else w.cellAt row column := by
  rw [Change.after, InPlace.setContentAt_run, Edit.names]
  cases Address.read address with
  | error e => rfl
  | ok a => simpa using w.cellAt_setContent a.row a.column row column c

theorem cellAt_setFormatAt (w : Worksheet) (address format : String) (row column : Nat) :
    ((InPlace.setFormatAt address format).after w).cellAt row column =
      if Edit.names address row column then { w.cellAt row column with format := some format }
      else w.cellAt row column := by
  rw [Change.after, InPlace.setFormatAt_run, Edit.names]
  cases Address.read address with
  | error e => rfl
  | ok a => simpa using w.cellAt_setFormat a.row a.column row column format

/-- What an edit does to a cell. -/
theorem cellAt_after (w : Worksheet) (e : Edit) (row column : Nat) :
    (e.change.after w).cellAt row column = e.revise row column (w.cellAt row column) := by
  cases e with
  | setContent i j c =>
    refine (w.cellAt_setContent i j row column c).trans ?_
    simp only [Edit.revise, Edit.content?, Edit.format?, Edit.drops]
    split <;> rfl
  | setContentAt address c =>
    refine (w.cellAt_setContentAt address c row column).trans ?_
    simp only [Edit.revise, Edit.content?, Edit.format?, Edit.drops]
    split <;> rfl
  | setFormulaAt address text =>
    refine (w.cellAt_setContentAt address (.formula text) row column).trans ?_
    simp only [Edit.revise, Edit.content?, Edit.format?, Edit.drops]
    split <;> rfl
  | setFormatAt address format =>
    refine (w.cellAt_setFormatAt address format row column).trans ?_
    simp only [Edit.revise, Edit.content?, Edit.format?, Edit.drops]
    split <;> rfl
  | fill r contents =>
    refine (w.cellAt_fill r contents row column).trans ?_
    simp only [Edit.revise, Edit.content?, Edit.format?, Edit.drops]
    split <;> simp [*]
  | clear i j =>
    change ((w.clear i j).cell? row column).getD {} = _
    rw [cell?_clear]
    simp only [Edit.revise, Edit.content?, Edit.format?, Edit.drops, decide_eq_true_eq]
    split <;> rfl
  | resize rows columns =>
    change ((w.resize rows columns).cell? row column).getD {} = _
    rw [cell?_resize]
    by_cases h : row < rows ∧ column < columns
    · simp [Edit.revise, Edit.content?, Edit.format?, Edit.drops, h, cellAt]
    · simp [Edit.revise, Edit.drops, h]
  | setRowHidden i hidden => rfl
  | setColumnHidden j hidden => rfl

/-- An edit keeps the stored cells within the size. -/
theorem Bounded.after (h : w.Bounded) (e : Edit) : (e.change.after w).Bounded := by
  have hcontentAt (address : String) (c : Content) :
      ((InPlace.setContentAt address c).after w).Bounded := by
    rw [Change.after, InPlace.setContentAt_run]
    cases Address.read address with
    | ok a => exact h.modify a.row a.column _
    | error e => exact h
  cases e with
  | setContent i j c => exact h.modify i j fun cell => { cell with content := c }
  | setContentAt address c => exact hcontentAt address c
  | setFormulaAt address text => exact hcontentAt address (.formula text)
  | setFormatAt address format =>
    change ((InPlace.setFormatAt address format).after w).Bounded
    rw [Change.after, InPlace.setFormatAt_run]
    cases Address.read address with
    | ok a => exact h.modify a.row a.column _
    | error e => exact h
  | fill r contents => exact h.fill r contents
  | clear i j => exact h.clear i j
  | resize rows columns => exact w.bounded_resize rows columns
  | setRowHidden i hidden => exact h
  | setColumnHidden j hidden => exact h

/-- An edit that fails changes nothing. -/
theorem eq_of_change_eq_error {w w' : Worksheet} {e : Edit} {error : Error}
    (h : e.change w = .error error w') : w' = w := by
  cases e with
  | setContentAt address c =>
    rw [Edit.change, InPlace.setContentAt_run] at h
    cases hread : Address.read address <;> simp_all
  | setFormulaAt address text =>
    rw [Edit.change, InPlace.setFormulaAt, InPlace.setContentAt_run] at h
    cases hread : Address.read address <;> simp_all
  | setFormatAt address format =>
    rw [Edit.change, InPlace.setFormatAt_run] at h
    cases hread : Address.read address <;> simp_all
  | _ => cases h

/-- An edit of contents does not change a format. -/
theorem format?_after_of_setsContent {e : Edit} (he : e.setsContent) (w : Worksheet)
    (row column : Nat) : (e.change.after w).format? row column = w.format? row column := by
  rw [format?_eq_cellAt, format?_eq_cellAt, cellAt_after]
  cases e with
  | setContent | setContentAt | setFormulaAt | fill =>
    simp [Edit.revise, Edit.drops, Edit.format?]
  | setFormatAt | clear | resize | setRowHidden | setColumnHidden => cases he

/-- An edit of formats does not change a content. -/
theorem content_after_of_setsFormat {e : Edit} (he : e.setsFormat) (w : Worksheet)
    (row column : Nat) : (e.change.after w).content row column = w.content row column := by
  rw [content_eq_cellAt, content_eq_cellAt, cellAt_after]
  cases e with
  | setFormatAt => simp [Edit.revise, Edit.drops, Edit.content?]
  | setContent | setContentAt | setFormulaAt | fill => cases he
  | clear | resize | setRowHidden | setColumnHidden => cases he

end Worksheet

/-! ## Histories of edits -/

section History

variable {α : Type} (written? : Edit → Option α) (row column : Nat)

/-- What was last written to a cell since it was last dropped, in a history with the last edit
first. -/
def lastWritten? : List Edit → Option α
  | [] => none
  | e :: earlier => if e.drops row column then none else (written? e).or (lastWritten? earlier)

/-- The content that was last written to a cell since it was last dropped. -/
def lastContent? : List Edit → Option Content :=
  lastWritten? (Edit.content? row column) row column

/-- The format that was last given to a cell since it was last dropped. -/
def lastFormat? : List Edit → Option String :=
  lastWritten? (Edit.format? row column) row column

/-- What was written to a cell before it was dropped is lost. -/
theorem lastWritten?_append_of_drops {later : List Edit} (hlater : ∀ e ∈ later, written? e = none)
    {e : Edit} (he : e.drops row column) (earlier : List Edit) :
    lastWritten? written? row column (later ++ e :: earlier) = none := by
  induction later with
  | nil => simp [lastWritten?, he]
  | cons e' later ih =>
    obtain ⟨he', hlater⟩ := List.forall_mem_cons.1 hlater
    simp [lastWritten?, he', ih hlater]

end History

namespace Worksheet

/-- A new sheet after a history of edits, the last of them first. -/
def edited (name : String) (rows columns : Nat) (history : List Edit) : Worksheet :=
  history.foldr (fun e w => e.change.after w) { name := name, rows := rows, columns := columns }

theorem cellAt_edited (name : String) (rows columns : Nat) (history : List Edit)
    (row column : Nat) :
    (edited name rows columns history).cellAt row column =
      { content := (lastContent? row column history).getD .empty
        format := lastFormat? row column history } := by
  induction history with
  | nil => rfl
  | cons e earlier ih =>
    refine (cellAt_after _ e row column).trans ?_
    change e.revise row column ((edited name rows columns earlier).cellAt row column) = _
    rw [ih, Edit.revise, lastContent?, lastFormat?, lastWritten?, lastWritten?]
    split
    · rfl
    · rw [← lastContent?, ← lastFormat?]
      cases e.content? row column <;> rfl

theorem bounded_edited (name : String) (rows columns : Nat) (history : List Edit) :
    (edited name rows columns history).Bounded := by
  induction history with
  | nil =>
    intro entry hentry
    cases hentry
  | cons e earlier ih => exact ih.after e

theorem content_edited (name : String) (rows columns : Nat) (history : List Edit)
    (row column : Nat) :
    (edited name rows columns history).content row column =
      (lastContent? row column history).getD .empty := by
  rw [content_eq_cellAt, cellAt_edited]

example : (edited "a" 2 2 [.clear 0 0, .setContentAt "B2" (.number 3.0),
    .setContent 0 0 (.text "x")]).content 1 1 = .number 3.0 := by decide +kernel

theorem format?_edited (name : String) (rows columns : Nat) (history : List Edit)
    (row column : Nat) :
    (edited name rows columns history).format? row column = lastFormat? row column history := by
  rw [format?_eq_cellAt, cellAt_edited]

/-- A range within the size of its sheet is not refused for being outside of it. -/
theorem readCells_ne_outOfRange {s : Engine.Surroundings} {i j : Nat} {r : Formula.Reference}
    (hsheet : Engine.sheetOf s.host i r = .ok j) (hrow : r.range.bottom < s.host.rows j)
    (hcolumn : r.range.right < s.host.columns j) (readers : Nat → Engine.Reader) (hidden : Bool)
    (column : Option Nat) (m : Engine.Memory) (fault : Formula.IndexFault) :
    (Engine.readCells s readers i r hidden column m).1 ≠ .error (.indexOutOfRange fault) := by
  simp only [Engine.readCells, hsheet, Nat.not_le.2 hrow, Nat.not_le.2 hcolumn, decide_false,
    Bool.or_self, Bool.false_eq_true, if_false, Engine.holding]
  split <;> simp

/-- A range that ends at a stored cell can be read. -/
theorem Bounded.rangeValues_ne_outOfRange {w : Worksheet} (hw : w.Bounded) {b : Workbook}
    {i j : Nat} {r : Formula.Reference} (hsheet : b.sheets[j]? = some w)
    (hreference : Engine.sheetOf b.host i r = .ok j) {entry : (Nat × Nat) × Cell}
    (hentry : entry ∈ w.cells) (hrow : r.range.bottom ≤ entry.1.1)
    (hcolumn : r.range.right ≤ entry.1.2) (e : Engine) (hidden : Bool) (column : Option Nat)
    (fault : Formula.IndexFault) :
    (e.rangeValues b.host i r hidden column).1 ≠ .error (.indexOutOfRange fault) := by
  obtain ⟨hrows, hcolumns⟩ := hw entry hentry
  apply readCells_ne_outOfRange hreference
  · simpa [Engine.surroundings, Workbook.host, hsheet] using Nat.lt_of_le_of_lt hrow hrows
  · simpa [Engine.surroundings, Workbook.host, hsheet] using Nat.lt_of_le_of_lt hcolumn hcolumns

/-- A worksheet stores what its history of edits says. -/
theorem edited_spec (name : String) (rows columns : Nat) (history : List Edit) :
    let w := edited name rows columns history
    -- The stored cells lie within the size, and a range that ends at one of them can be read.
    (∀ entry ∈ w.cells, entry.1.1 < w.rows ∧ entry.1.2 < w.columns) ∧
    (∀ (b : Workbook) (e : Engine) (i j : Nat) (r : Formula.Reference) (hidden : Bool)
        (column : Option Nat) (fault : Formula.IndexFault), ∀ entry ∈ w.cells,
      b.sheets[j]? = some w → Engine.sheetOf b.host i r = .ok j →
      r.range.bottom ≤ entry.1.1 → r.range.right ≤ entry.1.2 →
        (e.rangeValues b.host i r hidden column).1 ≠ .error (.indexOutOfRange fault)) ∧
    -- A cell holds what was last written to it.
    (∀ row column,
      w.content row column = (lastContent? row column history).getD .empty ∧
        w.format? row column = lastFormat? row column history) ∧
    -- What it held before it was dropped does not come back.
    (∀ later e earlier row column, history = later ++ e :: earlier → e.drops row column →
      ((∀ e ∈ later, e.content? row column = none) → w.content row column = .empty) ∧
        ((∀ e ∈ later, e.format? row column = none) → w.format? row column = none)) ∧
    -- Contents and formats are apart.
    (∀ e : Edit, e.setsContent →
      ∀ row column, (e.change.after w).format? row column = w.format? row column) ∧
    (∀ e : Edit, e.setsFormat →
      ∀ row column, (e.change.after w).content row column = w.content row column) ∧
    -- A range is filled row by row, as far as the contents reach, and nothing else is changed.
    (∀ (r : Range) (contents : List Content),
      (∀ k c, k < r.rows * r.columns → contents[k]? = some c →
        (w.fill r contents).content (r.top + k / r.columns) (r.left + k % r.columns) = c) ∧
      ∀ row column,
        (∀ k < min (r.rows * r.columns) contents.length,
          (r.top + k / r.columns, r.left + k % r.columns) ≠ (row, column)) →
        (w.fill r contents).cell? row column = w.cell? row column) ∧
    -- An edit that fails, as it does if a text is no address, changes nothing.
    (∀ (e : Edit) (error : Error) (w' : Worksheet), e.change w = .error error w' → w' = w) ∧
    ∀ (address text : String) (c : Content) (error : Error), Address.read address = .error error →
      (Edit.setContentAt address c).change w = .error error w ∧
        (Edit.setFormulaAt address text).change w = .error error w ∧
        (Edit.setFormatAt address text).change w = .error error w := by
  intro w
  have hbounded : w.Bounded := bounded_edited name rows columns history
  have hcontent := content_edited name rows columns history
  have hformat := format?_edited name rows columns history
  refine ⟨hbounded, ?_, fun row column => ⟨hcontent row column, hformat row column⟩, ?_,
    fun e he => format?_after_of_setsContent he w, fun e he => content_after_of_setsFormat he w,
    fun r contents => ⟨fun k c => content_fill w, fun row column => cell?_fill_of_ne w⟩,
    fun e error w' => eq_of_change_eq_error, ?_⟩
  · intro b e i j r hidden column fault entry hentry hsheet hreference hrow hcolumn
    exact hbounded.rangeValues_ne_outOfRange hsheet hreference hentry hrow hcolumn e hidden column
      fault
  · rintro later e earlier row column rfl hdrops
    constructor
    · intro hlater
      rw [hcontent, lastContent?, lastWritten?_append_of_drops _ _ _ hlater hdrops,
        Option.getD_none]
    · intro hlater
      rw [hformat, lastFormat?, lastWritten?_append_of_drops _ _ _ hlater hdrops]
  · intro address text c error hread
    simp only [Edit.change, InPlace.setFormulaAt, InPlace.setContentAt_run,
      InPlace.setFormatAt_run, hread, and_self]

/-- A sheet that was cut off and has grown again. -/
theorem edited_spec_regrown :
    let history : List Edit := [.setContent 9 0 (.text "b"), .resize 2 2, .setContent 5 1 (.text "a")]
    let w := edited "Sheet" 1 1 history
    let b : Workbook := ⟨[w], 0⟩
    let r : Formula.Reference := ⟨{ top := 0, left := 0, bottom := 9, right := 0 }, none⟩
    w.content 9 0 = .text "b" ∧ w.content 5 1 = .empty ∧
      ∀ (e : Engine) (fault : Formula.IndexFault),
        (e.rangeValues b.host 0 r true none).1 ≠ .error (.indexOutOfRange fault) := by
  intro history w b r
  obtain ⟨-, hreads, hlast, hlost, -⟩ := edited_spec "Sheet" 1 1 history
  have hstored : ((9, 0), { content := .text "b" }) ∈ w.cells := by decide +kernel
  have hdropped : (Edit.resize 2 2).drops 5 1 := by decide
  obtain ⟨hcontent, -⟩ := hlost [.setContent 9 0 (.text "b")] (.resize 2 2) _ 5 1 rfl hdropped
  refine ⟨(hlast 9 0).1, hcontent (by decide +kernel), fun e fault => ?_⟩
  exact hreads b e 0 0 r true none fault _ hstored rfl rfl (Nat.le_refl 9) (Nat.le_refl 0)

end Worksheet

end Spreadsheet.Grid
