import Mathlib.Data.List.Sort
import Mathlib.Logic.Equiv.Basic
import SheetSchema.Proofs.Building.WorkbookTexts
import SheetSchema.Proofs.Reports.RoundTrip

/-! The order of columns in a report. What a sheet reads as is told without the order: its rows with a
cell that holds something, from above, and in each the cells under the headers, wherever these stand.
The reader gets just this from positions, so it does not matter when columns change places. -/
namespace SheetSchema

namespace Cell

theorem mem_lineFeeds {s : List Char} (h : '\r' ∈ s) : '\n' ∈ lineFeeds s := by
  fun_induction lineFeeds s with
  | case1 => simp at h
  | case2 rest ih => simp
  | case3 c rest hpair ih =>
    rcases List.mem_cons.1 h with rfl | h
    · simp
    · exact List.mem_cons_of_mem _ (ih h)

/-- The cell holds a text, if it holds anything. -/
def Textual (c : Cell) : Prop := c = .null ∨ ∃ s, c = .str s

namespace Textual

variable {c : Cell} (h : c.Textual)
include h

theorem saved : c.saved.Textual := by
  rcases h with rfl | ⟨s, rfl⟩
  · exact .inl rfl
  · rw [Cell.saved]
    split
    · exact .inl rfl
    · exact .inr ⟨_, rfl⟩

/-- What reads as a text of one line after it was saved was this text. -/
theorem eq_str_of_saved {s : String} (hline : '\n' ∉ s.toList) (hsaved : c.saved = .str s) :
    c = .str s := by
  rcases h with rfl | ⟨text, rfl⟩
  · contradiction
  · rw [Cell.saved] at hsaved
    split at hsaved
    · contradiction
    · have hfeeds : lineFeeds text.toList = s.toList := by
        rw [← String.toList_ofList (l := lineFeeds text.toList), Cell.str.inj hsaved]
      have hreturn : '\r' ∉ text.toList := fun hmem => hline (hfeeds ▸ mem_lineFeeds hmem)
      rw [lineFeeds_eq_self hreturn, String.toList_inj] at hfeeds
      rw [hfeeds]

end Textual

end Cell

namespace Sheet

/-! ### Cells that hold something -/

@[simp] theorem value_empty (row col : ℕ) : value {} row col = .null := by simp [value]

/-- Saved cells that stand elsewhere or hold nothing leave a place as it is. -/
theorem value_foldl_put {row col : ℕ} {cells : List (Place × Cell)} (start : Sheet)
    (h : ∀ cell ∈ cells, (cell.1.row, cell.1.col) = (row, col) → cell.2 = .null) :
    (cells.foldl (fun saved cell => if cell.2 = .null then saved else saved.put cell.1 cell.2.saved)
      start).value row col = start.value row col := by
  induction cells generalizing start with
  | nil => rfl
  | cons cell rest ih =>
    obtain ⟨hcell, h⟩ := List.forall_mem_cons.1 h
    rw [List.foldl_cons, ih _ h]
    split
    · rfl
    · next hne => rw [value_put, if_neg (mt hcell hne)]

/-- The cells that were stored, each with what its place holds. -/
theorem exists_mem_cells (sheet : Sheet) {row col : ℕ} {c : Cell} :
    (∃ cell ∈ sheet.cells, (cell.1.row, cell.1.col) = (row, col) ∧ cell.2 = c) ↔
      sheet.values[(row, col)]? = some c := by
  rw [← Std.HashMap.mem_toList_iff_getElem?_eq_some, cells]
  constructor
  · rintro ⟨_, hcell, hplace, rfl⟩
    obtain ⟨entry, -, rfl⟩ := List.mem_map.1 hcell
    exact hplace ▸ entry.2
  · intro h
    exact ⟨_, List.mem_map.2 ⟨⟨_, h⟩, List.mem_attach _ _, rfl⟩, rfl, rfl⟩

/-- Each place is there once. -/
theorem pairwise_cells (sheet : Sheet) :
    sheet.cells.Pairwise fun cell other =>
      (cell.1.row, cell.1.col) ≠ (other.1.row, other.1.col) := by
  have hkeys := Std.HashMap.distinct_keys_toList (m := sheet.values)
  rw [← List.attach_map_subtype_val sheet.values.toList, List.pairwise_map] at hkeys
  rw [cells, List.pairwise_map]
  exact hkeys.imp fun hne heq => by simp_all [placeOf]

/-- Saving changes what a cell holds, but not where it stands. -/
theorem value_saved (sheet : Sheet) (row col : ℕ) :
    sheet.saved.value row col = (sheet.value row col).saved := by
  rw [saved]
  by_cases hnull : sheet.value row col = .null
  · rw [value_foldl_put, hnull]
    · exact value_empty row col
    · intro cell hcell hplace
      rw [value, sheet.exists_mem_cells.1 ⟨cell, hcell, hplace, rfl⟩] at hnull
      exact hnull
  · obtain ⟨c, hc⟩ : ∃ c, sheet.values[(row, col)]? = some c := by
      by_contra hnone
      rw [not_exists, ← Option.eq_none_iff_forall_ne_some] at hnone
      exact hnull (by rw [value, hnone, Option.getD_none])
    have hvalue : sheet.value row col = c := by rw [value, hc, Option.getD_some]
    obtain ⟨cell, hcell, hplace, rfl⟩ := sheet.exists_mem_cells.2 hc
    -- each place is there once, so what comes after the cell leaves it
    obtain ⟨before, after, hsplit⟩ := List.append_of_mem hcell
    have honce := sheet.pairwise_cells
    rw [hsplit, List.pairwise_append, List.pairwise_cons] at honce
    rw [hsplit, List.foldl_append, List.foldl_cons, value_foldl_put, if_neg (hvalue ▸ hnull),
      value_put, if_pos hplace, hvalue]
    intro other hother hsame
    exact absurd (hplace.trans hsame.symm) (honce.2.1.1 other hother)

/-! ### Columns that change places -/

/-- The sheet with its columns in other places, header and data together. -/
def Rearranged (sheet moved : Sheet) : Prop :=
  ∃ place : Equiv.Perm ℕ, ∀ row col, moved.value row (place col) = sheet.value row col

/-- The cell of a row under a header, which holds nothing if no column has the header. -/
def Under (sheet : Sheet) (header : String) (row : ℕ) (c : Cell) : Prop :=
  (∃ col, sheet.value 1 col = .str header ∧ sheet.value row col = c) ∨
    (∀ col, sheet.value 1 col ≠ .str header) ∧ c = .null

theorem exists_under (sheet : Sheet) (header : String) (row : ℕ) :
    ∃ c, sheet.Under header row c := by
  by_cases h : ∃ col, sheet.value 1 col = .str header
  · obtain ⟨col, hcol⟩ := h
    exact ⟨sheet.value row col, .inl ⟨col, hcol, rfl⟩⟩
  · exact ⟨.null, .inr ⟨not_exists.1 h, rfl⟩⟩

namespace Rearranged

variable {sheet moved : Sheet} (h : sheet.Rearranged moved)
include h

theorem exists_iff (P : Cell → Cell → Prop) (row other : ℕ) :
    (∃ col, P (moved.value row col) (moved.value other col)) ↔
      ∃ col, P (sheet.value row col) (sheet.value other col) := by
  obtain ⟨place, hplace⟩ := h
  rw [place.surjective.exists]
  simp only [hplace]

theorem under_iff {header : String} {row : ℕ} {c : Cell} :
    moved.Under header row c ↔ sheet.Under header row c := by
  rw [Under, Under, h.exists_iff (fun head cell => head = .str header ∧ cell = c) 1 row,
    ← not_exists, ← not_exists, h.exists_iff (fun head _ => head = .str header) 1 1]

theorem filled_iff {row : ℕ} :
    (∃ col, moved.value row col ≠ .null) ↔ ∃ col, sheet.value row col ≠ .null :=
  h.exists_iff (fun cell _ => cell ≠ .null) row row

theorem saved : sheet.saved.Rearranged moved.saved := by
  obtain ⟨place, hplace⟩ := h
  exact ⟨place, fun row col => by rw [value_saved, value_saved, hplace]⟩

end Rearranged

/-- The cells of a row, as far as the sheet has columns. -/
def line (sheet : Sheet) (row : ℕ) : List Cell :=
  (List.range sheet.lastCol).map fun col => sheet.value row (col + 1)

theorem mem_line (sheet : Sheet) {row : ℕ} {c : Cell} (hc : c ≠ .null) :
    c ∈ sheet.line row ↔ ∃ col, sheet.value row col = c := by
  constructor
  · intro hmem
    obtain ⟨col, -, hcol⟩ := List.mem_map.1 hmem
    exact ⟨col + 1, hcol⟩
  · rintro ⟨col, rfl⟩
    obtain ⟨-, hfirst, hlast⟩ := sheet.enclosed hc
    refine List.mem_map.2 ⟨col - 1, List.mem_range.2 (by omega), ?_⟩
    rw [Nat.sub_add_cancel hfirst]

theorem getElem?_line {sheet : Sheet} {row col : ℕ} (hfirst : 1 ≤ col)
    (hlast : col ≤ sheet.lastCol) : (sheet.line row)[col - 1]? = some (sheet.value row col) := by
  have hcol : col - 1 < sheet.lastCol := by omega
  simp [line, hcol, Nat.sub_add_cancel hfirst]

/-- The numbers of the rows below the header that hold something. -/
def filledRows (sheet : Sheet) : List ℕ :=
  (List.range' 2 (sheet.lastRow - 1)).filter fun row => (sheet.line row).any (· ≠ .null)

theorem ascending_filledRows (sheet : Sheet) : sheet.filledRows.Pairwise (· < ·) :=
  (List.pairwise_lt_range' 1).filter _

theorem mem_filledRows (sheet : Sheet) {row : ℕ} :
    row ∈ sheet.filledRows ↔ 1 < row ∧ ∃ col, sheet.value row col ≠ .null := by
  have hline : (sheet.line row).any (· ≠ .null) = true ↔ ∃ col, sheet.value row col ≠ .null := by
    simp only [List.any_eq_true, decide_eq_true_eq]
    constructor
    · rintro ⟨c, hmem, hc⟩
      obtain ⟨col, rfl⟩ := (sheet.mem_line hc).1 hmem
      exact ⟨col, hc⟩
    · rintro ⟨col, hc⟩
      exact ⟨_, (sheet.mem_line hc).2 ⟨col, rfl⟩, hc⟩
  rw [filledRows, List.mem_filter, hline, List.mem_range'_1]
  refine and_congr_left fun ⟨col, hc⟩ => ?_
  have := sheet.enclosed hc
  omega

end Sheet

namespace Workbook

/-- The workbook with the columns of each sheet in other places. -/
def Rearranged (book moved : Workbook) : Prop :=
  List.Forall₂ (fun entry other => entry.1 = other.1 ∧ entry.2.Rearranged other.2)
    book.sheets moved.sheets

variable {book moved : Workbook}

theorem Rearranged.names_eq (h : book.Rearranged moved) : book.names = moved.names := by
  rw [names, names, ← List.forall₂_eq_eq_eq, List.forall₂_map_left_iff, List.forall₂_map_right_iff]
  exact h.imp fun _ _ hentry => hentry.1

theorem Rearranged.saved (h : book.Rearranged moved) : book.saved.Rearranged moved.saved := by
  rw [Rearranged, Workbook.saved, Workbook.saved, mapSheets, mapSheets, List.forall₂_map_left_iff,
    List.forall₂_map_right_iff]
  exact h.imp fun _ _ hentry => ⟨hentry.1, hentry.2.saved⟩

end Workbook

namespace Report

open Sheet

/-! ### Reading a sheet -/

section Fields

variable {header row : List Cell} {name : String}

/-- The cell under a header that stands in one place alone. -/
theorem field_of_unique {place : ℕ} (hplace : header[place]? = some (.str name))
    (hunique : ∀ other, header[other]? = some (.str name) → other = place) :
    field header row name = (row[place]?).getD .null := by
  have hplaces (entry : Cell × ℕ) :
      entry ∈ header.zipIdx.filter (fun entry => entry.1 = .str name) ↔
        entry = (.str name, place) := by
    rw [List.mem_filter, decide_eq_true_iff]
    constructor
    · rintro ⟨hentry, hname⟩
      have hother := List.mem_zipIdx_iff_getElem?.1 hentry
      exact Prod.ext hname (hunique entry.2 (hname ▸ hother))
    · rintro rfl
      exact ⟨List.mem_zipIdx_iff_getElem?.2 hplace, rfl⟩
  have hne : header.zipIdx.filter (fun entry => entry.1 = .str name) ≠ [] :=
    List.ne_nil_of_mem ((hplaces _).2 rfl)
  rw [field, List.getLast?_eq_some_getLast hne, (hplaces _).1 (List.getLast_mem hne)]
  rfl

theorem field_of_not_mem (h : .str name ∉ header) : field header row name = .null := by
  have hnone : header.zipIdx.filter (fun entry => entry.1 = .str name) = [] := by
    rw [List.filter_eq_nil_iff]
    intro entry hentry hname
    exact h (of_decide_eq_true hname ▸ List.fst_mem_of_mem_zipIdx hentry)
  rw [field, hnone]
  rfl

end Fields

/-- The column whose cells under the headers are given. -/
def columnOf (cells : String → Cell) : Except ReadError Column := do
  let labels ← readLabels (cells "ObjectLevel")
  return {
    tagName := fieldText (cells "TagName")
    dataType := fieldText (cells "DataType")
    description := fieldText (cells "Description")
    labels := .list labels }

theorem columnOf_congr {cells others : String → Cell}
    (h : ∀ header ∈ headers, cells header = others header) : columnOf cells = columnOf others := by
  rw [columnOf, columnOf, h "ObjectLevel" (by decide), h "TagName" (by decide),
    h "DataType" (by decide), h "Description" (by decide)]

theorem exists_readLabels {c : Cell} (h : c.Textual) : ∃ labels, readLabels c = .ok labels := by
  rcases h with rfl | ⟨s, rfl⟩
  · exact ⟨_, rfl⟩
  · rw [readLabels]
    split <;> exact ⟨_, rfl⟩

/-- A sheet of texts on which no header of a report stands twice. -/
structure IsReport (sheet : Sheet) : Prop where
  texts : ∀ row col, (sheet.value row col).Textual
  once : ∀ header ∈ headers, ∀ col other, sheet.value 1 col = .str header →
    sheet.value 1 other = .str header → col = other

/-- A row gives a column, whose fields are the cells under their headers. -/
def Shows (sheet : Sheet) (row : ℕ) (column : Column) : Prop :=
  ∃ cells : String → Cell, (∀ header ∈ headers, sheet.Under header row (cells header)) ∧
    columnOf cells = .ok column

/-- A page that was read, with the numbers of the rows that its columns come from. -/
structure Reading where
  page : Page
  rows : List ℕ

/-- A sheet reads as a page with the columns of its rows below the header, from above. The rows without
a cell that holds something are skipped, and no others. -/
structure Reading.Of (title : String) (sheet : Sheet) (reading : Reading) : Prop where
  title : reading.page.name = .str title
  ascending : reading.rows.Pairwise (· < ·)
  filled : ∀ row, row ∈ reading.rows ↔ 1 < row ∧ ∃ col, sheet.value row col ≠ .null
  columns : List.Forall₂ (Shows sheet) reading.rows reading.page.rows

namespace IsReport

variable {sheet moved : Sheet} (h : IsReport sheet)
include h

theorem rearranged (hmoved : sheet.Rearranged moved) : IsReport moved := by
  obtain ⟨place, hplace⟩ := hmoved
  have hback (row col : ℕ) : moved.value row col = sheet.value row (place.symm col) := by
    rw [← hplace, place.apply_symm_apply]
  refine ⟨fun row col => hback row col ▸ h.texts row _,
    fun header hheader col other hcol hother => ?_⟩
  rw [hback] at hcol hother
  exact place.symm.injective (h.once header hheader _ _ hcol hother)

theorem saved : IsReport sheet.saved := by
  have hline : ∀ header ∈ headers, '\n' ∉ header.toList := by decide
  refine ⟨fun row col => value_saved sheet row col ▸ (h.texts row col).saved,
    fun header hheader col other hcol hother => ?_⟩
  rw [value_saved] at hcol hother
  exact h.once header hheader col other
    ((h.texts 1 col).eq_str_of_saved (hline header hheader) hcol)
    ((h.texts 1 other).eq_str_of_saved (hline header hheader) hother)

/-- What is looked up in the header is the cell under it. -/
theorem field_eq {header : String} (hheader : header ∈ headers) {row : ℕ} {c : Cell}
    (hunder : sheet.Under header row c) : field (sheet.line 1) (sheet.line row) header = c := by
  have hne : Cell.str header ≠ .null := by simp
  rcases hunder with ⟨col, hcol, rfl⟩ | ⟨hnone, rfl⟩
  · obtain ⟨-, hfirst, hlast⟩ := sheet.enclosed (hcol ▸ hne)
    have hplace : (sheet.line 1)[col - 1]? = some (.str header) :=
      hcol ▸ getElem?_line hfirst hlast
    rw [field_of_unique hplace, getElem?_line hfirst hlast, Option.getD_some]
    intro other hother
    obtain ⟨hlength, hvalue⟩ := List.getElem?_eq_some_iff.1 hother
    have hsame := h.once header hheader (other + 1) col (by simpa [line] using hvalue) hcol
    omega
  · refine field_of_not_mem fun hmem => ?_
    obtain ⟨col, hcol⟩ := (sheet.mem_line hne).1 hmem
    exact hnone col hcol

theorem columnOf_field {row : ℕ} {column : Column} (hshows : Shows sheet row column) :
    columnOf (field (sheet.line 1) (sheet.line row)) = .ok column := by
  obtain ⟨cells, hcells, hcolumn⟩ := hshows
  rw [← hcolumn]
  exact columnOf_congr fun header hheader => h.field_eq hheader (hcells header hheader)

theorem exists_shows (row : ℕ) : ∃ column, Shows sheet row column := by
  choose cells hcells using fun header => sheet.exists_under header row
  have htextual : (cells "ObjectLevel").Textual := by
    rcases hcells "ObjectLevel" with ⟨col, -, hcol⟩ | ⟨-, hnull⟩
    · exact hcol ▸ h.texts row col
    · exact .inl hnull
  obtain ⟨labels, hlabels⟩ := exists_readLabels htextual
  have hcolumn : ∃ column, columnOf cells = .ok column := by
    rw [columnOf, hlabels]
    exact ⟨_, rfl⟩
  obtain ⟨column, hcolumn⟩ := hcolumn
  exact ⟨column, cells, fun header _ => hcells header, hcolumn⟩

/-- A sheet of texts reads as some page. -/
theorem exists_reading (title : String) : ∃ reading : Reading, reading.Of title sheet := by
  obtain ⟨columns, hcolumns⟩ := exists_forall₂_iff.2 fun row (_ : row ∈ sheet.filledRows) =>
    h.exists_shows row
  exact ⟨⟨⟨.str title, columns⟩, sheet.filledRows⟩, rfl, sheet.ascending_filledRows,
    fun _ => sheet.mem_filledRows, hcolumns⟩

end IsReport

theorem readRows_rows (sheet : Sheet) :
    readRows sheet.rows =
      sheet.filledRows.mapM fun row => columnOf (field (sheet.line 1) (sheet.line row)) := by
  have hrows : sheet.rows = (List.range sheet.lastRow).map fun row => sheet.line (row + 1) := rfl
  rw [hrows, filledRows]
  cases sheet.lastRow with
  | zero => rfl
  | succ last =>
    rw [List.range_succ_eq_map, List.map_cons, List.map_map, readRows, Nat.add_sub_cancel,
      List.range'_eq_map_range, List.filter_map, List.filter_map, List.mapM_map, List.mapM_map]
    have hnumber (row : ℕ) : 2 + row = row + 1 + 1 := by omega
    simp only [Function.comp_def, hnumber]
    rfl

/-- The rows of a sheet are read as they are told to. -/
theorem Reading.Of.readRows_eq {title : String} {sheet : Sheet} {reading : Reading}
    (h : reading.Of title sheet) (hsheet : IsReport sheet) :
    readRows sheet.rows = .ok reading.page.rows := by
  have hrows : sheet.filledRows = reading.rows :=
    sheet.ascending_filledRows.eq_of_mem_iff h.ascending fun row =>
      sheet.mem_filledRows.trans (h.filled row).symm
  rw [readRows_rows, hrows, mapM_eq_ok_iff]
  exact h.columns.imp fun _ _ hshows => hsheet.columnOf_field hshows

theorem Reading.Of.rearranged {title : String} {sheet moved : Sheet} {reading : Reading}
    (h : reading.Of title sheet) (hmoved : sheet.Rearranged moved) : reading.Of title moved where
  title := h.title
  ascending := h.ascending
  filled row := (h.filled row).trans (and_congr_right fun _ => hmoved.filled_iff.symm)
  columns := h.columns.imp fun _ _ ⟨cells, hcells, hcolumn⟩ =>
    ⟨cells, fun header hheader => hmoved.under_iff.2 (hcells header hheader), hcolumn⟩

/-! ### Reading a workbook -/

/-- A workbook is read, and its sheets read as the pages in order. -/
def ReadsAs (book : Workbook) (readings : List Reading) : Prop :=
  read (ofWorkbook book) = .ok ⟨readings.map (·.page)⟩ ∧
    List.Forall₂ (fun entry reading => Reading.Of entry.1 entry.2 reading) book.sheets readings

/-- The sheets of a workbook are reports, under different names. -/
structure AreReports (book : Workbook) : Prop where
  names : book.names.Nodup
  sheets : ∀ entry ∈ book.sheets, IsReport entry.2

namespace AreReports

variable {book moved : Workbook} (hbook : AreReports book)
include hbook

theorem saved : AreReports book.saved := by
  have hnames : book.saved.names = book.names := List.map_map
  refine ⟨hnames ▸ hbook.names, List.forall_mem_map.2 fun entry hentry => ?_⟩
  exact (hbook.sheets entry hentry).saved

theorem rearranged (h : book.Rearranged moved) : AreReports moved := by
  refine ⟨h.names_eq ▸ hbook.names, fun other hother => ?_⟩
  obtain ⟨entry, hentry, -, hsheet⟩ := exists_of_forall₂_right h hother
  exact (hbook.sheets entry hentry).rearranged hsheet

theorem readsAs {readings : List Reading}
    (h : List.Forall₂ (fun entry reading => Reading.Of entry.1 entry.2 reading) book.sheets readings) :
    ReadsAs book readings := by
  have htitles : (ofWorkbook book).map (·.title) = book.names := List.map_map
  refine ⟨read_eq (htitles ▸ hbook.names) ?_, h⟩
  rw [ofWorkbook, List.forall₂_map_left_iff, List.forall₂_map_right_iff]
  have hboth := (List.forall₂_and_left _ _).2 ⟨hbook.sheets, h⟩
  exact hboth.imp fun _ _ ⟨hsheet, hreading⟩ => ⟨hreading.title, hreading.readRows_eq hsheet⟩

theorem exists_readsAs (hmoved : AreReports moved) (h : book.Rearranged moved) :
    ∃ readings, ReadsAs book readings ∧ ReadsAs moved readings := by
  obtain ⟨readings, hreadings⟩ := exists_forall₂_iff.2 fun entry hentry =>
    (hbook.sheets entry hentry).exists_reading entry.1
  refine ⟨readings, hbook.readsAs hreadings, hmoved.readsAs ?_⟩
  refine forall₂_of_common (fun entry other reading hentry hreading => ?_) h hreadings
  exact hentry.1 ▸ hreading.rearranged hentry.2

end AreReports

/-- Reports can be read, and they read the same when the columns of each sheet change places: as the
same pages, the columns of which come from the same rows. This holds of the workbook as it is and of
what was saved of it. -/
theorem read_rearranged {book moved : Workbook} (hbook : AreReports book)
    (h : book.Rearranged moved) :
    (∃ readings, ReadsAs book readings ∧ ReadsAs moved readings) ∧
      ∃ readings, ReadsAs book.saved readings ∧ ReadsAs moved.saved readings := by
  have hreports := hbook.rearranged h
  exact ⟨hbook.exists_readsAs hreports h, hbook.saved.exists_readsAs hreports.saved h.saved⟩

namespace Speed

/-- A report with the labels, a remark and the name behind the given numbers of columns, and no
description. One row is blank, and one holds a remark alone. -/
def sheet (labels remark name : ℕ) : Sheet :=
  (((((Sheet.put default (.behind 0 labels) (.str "ObjectLevel")).put
    (.behind 0 remark) (.str "Remark")).put
    (.behind 0 name) (.str "TagName")).put
    (.behind 2 remark) (.str "see below")).put
    (.behind 3 labels) (.str "Plant / Line")).put
    (.behind 3 name) (.str "speed")

/-- Names behind a blank column. -/
def book : Workbook := ⟨[("Speed", sheet 0 1 3)]⟩

/-- Names first. -/
def moved : Workbook := ⟨[("Speed", sheet 2 1 0)]⟩

def pages : PageSet := ⟨[{
  name := .str "Speed"
  rows := [
    { tagName := "", dataType := "", description := "", labels := .list [] },
    { tagName := "speed", dataType := "", description := ""
      labels := .list [.str "Plant", .str "Line"] }] }]⟩

theorem value_sheet (labels remark name row col : ℕ) :
    (sheet labels remark name).value row col =
      if (4, name + 1) = (row, col) then .str "speed"
      else if (4, labels + 1) = (row, col) then .str "Plant / Line"
      else if (3, remark + 1) = (row, col) then .str "see below"
      else if (1, name + 1) = (row, col) then .str "TagName"
      else if (1, remark + 1) = (row, col) then .str "Remark"
      else if (1, labels + 1) = (row, col) then .str "ObjectLevel"
      else .null := by
  have hempty : (default : Sheet).value row col = .null := value_empty row col
  simp only [sheet, value_put, hempty]
  rfl

theorem rearranged_sheet (place : Equiv.Perm ℕ) {labels remark name labels' remark' name' : ℕ}
    (hlabels : place (labels + 1) = labels' + 1) (hremark : place (remark + 1) = remark' + 1)
    (hname : place (name + 1) = name' + 1) :
    (sheet labels remark name).Rearranged (sheet labels' remark' name') := by
  refine ⟨place, fun row col => ?_⟩
  simp only [value_sheet, Prod.mk.injEq, ← hlabels, ← hremark, ← hname, place.injective.eq_iff]

theorem isReport_sheet : IsReport (sheet 0 1 3) where
  texts row col := by
    rw [value_sheet]
    split_ifs <;> simp [Cell.Textual]
  once header _ col other hcol hother := by
    have hplaces (col : ℕ) (h : (sheet 0 1 3).value 1 col = .str header) :
        (header, col) ∈ [("ObjectLevel", 1), ("Remark", 2), ("TagName", 4)] := by
      rw [value_sheet] at h
      split_ifs at h <;> simp_all
    have hone := hplaces col hcol
    have htwo := hplaces other hother
    grind

theorem read_book : read (ofWorkbook book) = .ok pages := by
  have hrows : (sheet 0 1 3).rows = [
      [.str "ObjectLevel", .str "Remark", .null, .str "TagName"],
      [.null, .null, .null, .null],
      [.null, .str "see below", .null, .null],
      [.str "Plant / Line", .null, .null, .str "speed"]] := by
    change (List.range 4).map (fun row => (List.range 4).map fun col =>
      (sheet 0 1 3).value (row + 1) (col + 1)) = _
    simp only [value_sheet]
    rfl
  rw [ofWorkbook, book, List.map_singleton, hrows]
  rfl

end Speed

/-- A row that holds something under another header alone is not skipped, wherever this stands. -/
theorem read_rearranged_speed :
    Speed.book.Rearranged Speed.moved ∧ read (ofWorkbook Speed.book) = .ok Speed.pages ∧
      read (ofWorkbook Speed.moved) = .ok Speed.pages := by
  have hbook : AreReports Speed.book :=
    ⟨List.nodup_singleton _, List.forall_mem_singleton.2 Speed.isReport_sheet⟩
  have hsheet : (Speed.sheet 0 1 3).Rearranged (Speed.sheet 2 1 0) :=
    Speed.rearranged_sheet ((Equiv.swap 1 4).trans (Equiv.swap 4 3)) (by decide) (by decide)
      (by decide)
  have hmoved : Speed.book.Rearranged Speed.moved := .cons ⟨rfl, hsheet⟩ .nil
  obtain ⟨⟨readings, ⟨hread, -⟩, ⟨hagain, -⟩⟩, -⟩ := read_rearranged hbook hmoved
  exact ⟨hmoved, Speed.read_book, hagain.trans (hread.symm.trans Speed.read_book)⟩

end Report

end SheetSchema
