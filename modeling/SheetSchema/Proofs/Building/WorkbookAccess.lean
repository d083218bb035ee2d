import SheetSchema.Proofs.Building.Invariant
import SheetSchema.Proofs.Building.WorkbookOutcome
import SheetSchema.Proofs.Building.WorkbookTexts

/-! A build over a workbook has the outcome of a build over the texts of the workbook. All that can
get in its way is that the description or the version stands below the last row of a worksheet:
every other cell that is looked at lies on a sheet that exists, in a row that it has. -/
namespace SheetSchema

/-- All rows and columns count from one. -/
structure Layout.Positive (layout : Layout) : Prop where
  nameColumn : 1 ≤ layout.nameColumn
  typeColumn : 1 ≤ layout.typeColumn
  notesColumn : 1 ≤ layout.notesColumn
  rootFirstRow : 1 ≤ layout.rootFirstRow
  referenceFirstRow : 1 ≤ layout.referenceFirstRow
  cells : ∀ cell ∈ [layout.descriptionCell, layout.versionCell], 1 ≤ cell.1 ∧ 1 ≤ cell.2

namespace Layout.Positive

variable {layout : Layout} (h : layout.Positive)
include h

theorem column {col : Int} (hcol : layout.IsColumn col) : 1 ≤ col := by
  rcases hcol with ⟨hfirst, _⟩ | rfl | rfl | rfl
  · exact hfirst
  · exact h.nameColumn
  · exact h.typeColumn
  · exact h.notesColumn

theorem firstRow (isRoot : Bool) : 1 ≤ layout.firstRow isRoot := by
  cases isRoot
  · exact h.referenceFirstRow
  · exact h.rootFirstRow

end Layout.Positive

namespace OpenWorkbook

/-- The sheets that may be opened are there, and so are their computed values. -/
structure Accessible (sheets : List String) (book : OpenWorkbook) : Prop where
  sheet : ∀ name ∈ sheets, (book.raw.sheet? name).isSome
  computed : ∀ name ∈ sheets, ∀ computed, book.computed = some computed →
    (computed.sheet? name).isSome

namespace Accessible

variable {sheets : List String} {book : OpenWorkbook} (h : book.Accessible sheets)
include h

theorem recalculate (name : String) : (book.recalculate name).Accessible sheets := by
  refine ⟨fun other hother => ?_, fun other hother => ?_⟩
  · rw [raw_recalculate]
    exact h.sheet other hother
  · rw [computed_recalculate]
    exact h.computed other hother

theorem rowExtent {name : String} (hname : name ∈ sheets) :
    ∃ extent, book.rowExtent name = .ok extent ∧ extent ≤ lastSheetRow := by
  obtain ⟨sheet, hsheet⟩ := Option.isSome_iff_exists.1 (h.sheet name hname)
  have hextent := sheet.rowExtent_le_lastRow
  have hlast := sheet.lastRow_le
  refine ⟨sheet.rowExtent, ?_, by omega⟩
  rw [OpenWorkbook.rowExtent, hsheet]

theorem effective {name : String} (hname : name ∈ sheets) (place : Sheet.Place) (c : Cell) :
    ∃ value, book.effective name place c = .ok value := by
  unfold OpenWorkbook.effective
  cases hcomputed : book.computed with
  | none => exact ⟨c, rfl⟩
  | some computed =>
    obtain ⟨sheet, hsheet⟩ := Option.isSome_iff_exists.1 (h.computed name hname _ hcomputed)
    by_cases hformula : name ∈ book.recalculated ∧ c.isFormula = true
    · exact ⟨sheet.value place.row place.col, by simp only [hformula, and_self, ↓reduceIte, hsheet]⟩
    · exact ⟨c, by simp only [hformula, ↓reduceIte]⟩

theorem touch (name : String) (place : Sheet.Place) :
    Accessible sheets { book with raw := book.raw.modify name (·.touch place) } := by
  refine ⟨fun other hother => ?_, h.computed⟩
  rw [Workbook.sheet?_modify]
  split
  · exact Option.isSome_map.trans (h.sheet other hother)
  · exact h.sheet other hother

/-- Looking at a cell fails only below the last row of a worksheet. -/
theorem shown {name : String} (hname : name ∈ sheets) {row col : Int} (hrow : 1 ≤ row)
    (hcol : 1 ≤ col) :
    (OpenWorkbook.shown name row col book).2.Accessible sheets ∧
      ∀ error, (OpenWorkbook.shown name row col book).1 = .error error →
        lastSheetRow < row ∧ error = .belowSheet row := by
  obtain ⟨sheet, hsheet⟩ := Option.isSome_iff_exists.1 (h.sheet name hname)
  by_cases hlast : lastSheetRow < row
  · have hplace : Sheet.place row col = .error (.belowSheet row) := by
      rw [Sheet.place, dif_neg (by omega), dif_pos hlast]
    simp only [OpenWorkbook.shown, hsheet, hplace]
    refine ⟨h, fun error herror => ?_⟩
    cases herror
    exact ⟨hlast, rfl⟩
  · obtain ⟨place, hplace⟩ : ∃ place, Sheet.place row col = .ok place := by
      rw [Sheet.place, dif_neg (by omega), dif_neg hlast]
      exact ⟨_, rfl⟩
    obtain ⟨value, hvalue⟩ := h.effective hname place (sheet.value place.row place.col)
    simp only [OpenWorkbook.shown, hsheet, hplace, hvalue]
    refine ⟨h.touch name place, fun error herror => ?_⟩
    contradiction

end Accessible

end OpenWorkbook

namespace Build

open OpenWorkbook

variable {sheets : List String} {rows : List Int}

/-- If a cell cannot be looked at, it lies below the last row of a worksheet, in one of some rows. -/
def BelowSheet (rows : List Int) (error : BuildError) : Prop :=
  ∀ access, error = .access access →
    ∃ row ∈ rows, lastSheetRow < row ∧ access = .belowSheet row

theorem look_accessible {name : String} (hname : name ∈ sheets) {row col : Int} (hrow : 1 ≤ row)
    (hcol : 1 ≤ col) (hrows : row ≤ lastSheetRow ∨ row ∈ rows) :
    Keeps (fun p : Progress OpenWorkbook => p.source.Accessible sheets) (BelowSheet rows)
      (look (OpenWorkbook.source sheets) name row col) fun _ => True := by
  intro p hp
  obtain ⟨hafter, herror⟩ := hp.shown hname hrow hcol
  have hsource : (OpenWorkbook.source sheets).shown name row col p.source =
      OpenWorkbook.shown name row col p.source := rfl
  rw [run_look, hsource]
  refine ⟨hafter, ?_⟩
  rcases hshown : (OpenWorkbook.shown name row col p.source).1 with error | value
  · obtain ⟨hlast, rfl⟩ := herror error hshown
    rintro access ⟨⟩
    exact ⟨row, hrows.resolve_left (by omega), hlast, rfl⟩
  · exact True.intro

/-- The rows that a build may look at, and that it does look at on the sheets that it scans. -/
theorem accessible_stable {layout : Layout} (hlayout : layout.Positive) :
    Stable (OpenWorkbook.source sheets) layout
      (fun name row => name ∈ sheets ∧ 1 ≤ row ∧ row ≤ lastSheetRow)
      (fun p => p.source.Accessible sheets) (BelowSheet rows) where
  schema _ := nofun
  meaninglessRow _ _ := nofun
  report _ := fun _ hp => ⟨hp, True.intro⟩
  recalculate name _ := by
    intro p hp
    rw [run_recalculate]
    refine ⟨?_, True.intro⟩
    dsimp only
    split
    · exact hp
    · exact hp.recalculate name
  rowExtent name hname := by
    intro p hp
    obtain ⟨extent, hextent, hlast⟩ := hp.rowExtent hname
    have hsource : (OpenWorkbook.source sheets).rowExtent name p.source = .ok extent := hextent
    rw [run_rowExtent, hsource]
    refine ⟨hp, fun isRoot row hfirst hrow => ?_⟩
    have := hlayout.firstRow isRoot
    exact ⟨hname, by omega, by omega⟩
  look name row col hrow hcol :=
    look_accessible hrow.1 hrow.2.1 (hlayout.column hcol) (.inl hrow.2.2)

/-- A build over an accessible workbook fails to look at a cell only if the description or the
version stands below the last row of a worksheet. -/
theorem belowSheet_of_build {vocabulary : Vocabulary} (hlayout : vocabulary.layout.Positive)
    {book : OpenWorkbook} (hbook : book.Accessible sheets) {root : String} {journal : Journal}
    {error : AccessError}
    (h : (build (OpenWorkbook.source sheets) vocabulary root book journal).1 =
      .error (.access error)) :
    ∃ row ∈ [vocabulary.layout.descriptionCell.1, vocabulary.layout.versionCell.1],
      lastSheetRow < row ∧ error = .belowSheet row := by
  refine (accessible_stable hlayout).error_of_build
    (E := BelowSheet [vocabulary.layout.descriptionCell.1, vocabulary.layout.versionCell.1])
    (fun hroot _ cell hcell => ?_) hbook h error rfl
  obtain ⟨hrow, hcol⟩ := hlayout.cells cell hcell
  exact look_accessible hroot hrow hcol (.inr (List.mem_map_of_mem hcell))

end Build

/-- A build over a workbook that nobody has looked at gives the answer that it gives over the texts
of the workbook, and recalculates the same sheets, unless the description or the version stands
below the last row of a worksheet. -/
theorem build_texts {raw : Workbook} {computed : Option Workbook} {vocabulary : Vocabulary}
    (hcomputed : ∀ values, computed = some values → raw.names ⊆ values.names)
    (hlayout : vocabulary.layout.Positive) (root : String) (journal : Journal) :
    let overBook := build (OpenWorkbook.source raw.names) vocabulary root { raw, computed } journal
    let overTexts :=
      build ((raw.texts computed).toGrid.source : Source Unit) vocabulary root () journal
    (overBook.1 = overTexts.1 ∧ overBook.2.recalculated = overTexts.2.recalculated) ∨
      ∃ row ∈ [vocabulary.layout.descriptionCell.1, vocabulary.layout.versionCell.1],
        lastSheetRow < row ∧ overBook.1 = .error (.access (.belowSheet row)) := by
  intro overBook overTexts
  have haccessible : ({ raw, computed } : OpenWorkbook).Accessible raw.names :=
    ⟨fun _ hname => Workbook.isSome_sheet?_iff.2 hname, fun _ hname values hvalues =>
      Workbook.isSome_sheet?_iff.2 (hcomputed values hvalues hname)⟩
  have hbuild := build_workbook raw.names vocabulary root { raw, computed } journal
  rw [OpenWorkbook.snapshot_eq_texts raw computed] at hbuild
  rcases hbuild with ⟨error, herror⟩ | ⟨hanswer, hrecalculated⟩
  · obtain ⟨row, hrow, hlast, rfl⟩ := Build.belowSheet_of_build hlayout haccessible herror
    exact .inr ⟨row, hrow, hlast, herror⟩
  · exact .inl ⟨hanswer.trans (build_grid _ vocabulary root () journal).symm, hrecalculated⟩

namespace Formula

/-- A root sheet `R` with one field, whose type is a formula. -/
def raw : Workbook :=
  ⟨[("R", (Sheet.put default (.behind 3 1) (.str "a")).put (.behind 3 2) (.str "=B1"))]⟩

/-- The value of the formula. -/
def computed : Workbook := ⟨[("R", Sheet.put default (.behind 3 2) (.str "int"))]⟩

theorem positive_layout : Twice.vocabulary.layout.Positive := by
  constructor <;> decide

end Formula

/-- The formula is read as its value. -/
theorem build_texts_formula :
    let overBook := build (OpenWorkbook.source Formula.raw.names) Twice.vocabulary "R"
      { raw := Formula.raw, computed := some Formula.computed } #[]
    let texts := Formula.raw.texts (some Formula.computed)
    let overTexts := build (texts.toGrid.source : Source Unit) Twice.vocabulary "R" () #[]
    texts.text "R" 4 3 = "int" ∧ overBook.1 = overTexts.1 ∧
      overBook.2.recalculated = overTexts.2.recalculated := by
  intro overBook texts overTexts
  have htext : texts.text "R" 4 3 = "int" := by
    have hraw : Formula.raw.value "R" 4 3 = .str "=B1" := by
      exact (Sheet.value_put ..).trans (if_pos rfl)
    have hcomputed : Formula.computed.value "R" 4 3 = .str "int" := by
      exact (Sheet.value_put ..).trans (if_pos rfl)
    simp only [texts, Workbook.texts, hraw, hcomputed]
    rfl
  refine ⟨htext, ?_⟩
  have hnames : ∀ values, some Formula.computed = some values →
      Formula.raw.names ⊆ values.names := by
    rintro values ⟨⟩
    exact List.Subset.refl _
  rcases build_texts hnames Formula.positive_layout "R" #[] with
    hsame | ⟨row, hrow, hlast, _⟩
  · exact hsame
  · have : ∀ row ∈ [Twice.vocabulary.layout.descriptionCell.1,
        Twice.vocabulary.layout.versionCell.1], ¬lastSheetRow < row := by decide
    exact absurd hlast (this row hrow)

/-- Over a grid, every cell can be looked at. -/
theorem Grid.build_ne_access {σ : Type} (grid : Grid) (vocabulary : Vocabulary) (root : String)
    (state : σ) (journal : Journal) (error : AccessError) :
    (build grid.source vocabulary root state journal).1 ≠ .error (.access error) := by
  intro h
  have hstable : Build.Stable (grid.source : Source σ) vocabulary.layout (fun _ _ => True)
      (fun _ => True) fun error => ∀ access, error ≠ .access access := {
    schema := fun _ => nofun
    meaninglessRow := fun _ _ => nofun
    report := fun _ _ _ => ⟨True.intro, True.intro⟩
    recalculate := fun _ _ _ _ => ⟨True.intro, True.intro⟩
    rowExtent := fun _ _ _ _ => ⟨True.intro, fun _ _ _ _ => True.intro⟩
    look := fun _ _ _ _ _ _ _ => ⟨True.intro, True.intro⟩ }
  exact hstable.error_of_build (fun _ _ _ _ _ _ => ⟨True.intro, True.intro⟩) True.intro h error rfl

namespace Formula

/-- The vocabulary with its description below the last row of a worksheet. -/
def below : Vocabulary :=
  { Twice.vocabulary with
    layout := { Twice.vocabulary.layout with descriptionCell := (1048577, 1) } }

end Formula

/-- A description below the last row of a worksheet is refused by a workbook alone. -/
theorem build_texts_below :
    let overBook := build (OpenWorkbook.source Formula.raw.names) Formula.below "R"
      { raw := Formula.raw, computed := some Formula.computed } #[]
    let overTexts := build ((Formula.raw.texts (some Formula.computed)).toGrid.source : Source Unit)
      Formula.below "R" () #[]
    Formula.raw.names = Formula.computed.names ∧
      Formula.below.layout.Positive ∧
      overBook.1 = .error (.access (.belowSheet 1048577)) ∧ overBook.1 ≠ overTexts.1 := by
  intro overBook overTexts
  have hrefused : overBook.1 = .error (.access (.belowSheet 1048577)) := rfl
  refine ⟨rfl, ?_, hrefused, ?_⟩
  · constructor <;> decide
  · rw [hrefused]
    exact (Grid.build_ne_access _ Formula.below "R" () #[] _).symm

end SheetSchema
