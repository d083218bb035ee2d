import SheetSchema.Proofs.Building.WorkbookSnapshot

/-! The texts of a workbook: those of its raw values, or of the values of a second workbook where
the raw ones are formulas. A build over a workbook that nobody has looked at sees these texts. -/
namespace SheetSchema

namespace Sheet

/-- The place behind some rows and some columns. Rows that no worksheet has count as the last one
that it can have. -/
def Place.behind (rows cols : Nat) : Place where
  row := min rows 1048575 + 1
  col := cols + 1
  row_pos := Nat.le_add_left 1 _
  row_le := by
    unfold lastSheetRow
    omega
  col_pos := Nat.le_add_left 1 cols

theorem value_put (sheet : Sheet) (place : Place) (c : Cell) (row col : Nat) :
    (sheet.put place c).value row col =
      if (place.row, place.col) = (row, col) then c else sheet.value row col := by
  unfold value put
  rw [Std.HashMap.getElem?_insert]
  by_cases h : (place.row, place.col) = (row, col)
  · simp [h]
  · simp only [beq_iff_eq, h, ↓reduceIte]

theorem rowExtent_le_lastRow (sheet : Sheet) : sheet.rowExtent ≤ sheet.lastRow := by
  unfold rowExtent
  split
  · exact Nat.zero_le _
  · exact Nat.le_refl _

/-- The cells that hold something stand in the rows and the columns of the sheet. -/
theorem enclosed (sheet : Sheet) {row col : Nat} (h : sheet.value row col ≠ .null) :
    (1 ≤ row ∧ row ≤ sheet.lastRow) ∧ 1 ≤ col ∧ col ≤ sheet.lastCol := by
  refine sheet.inside row col (Std.HashMap.mem_iff_isSome_getElem?.2 ?_)
  by_contra hnone
  rw [Bool.not_eq_true, Option.isSome_eq_false_iff, Option.isNone_iff_eq_none] at hnone
  exact h (by rw [value, hnone, Option.getD_none])

/-- What lies outside of a worksheet holds nothing. -/
theorem value_eq_null (sheet : Sheet) {row col : Int} {error : AccessError}
    (hplace : Sheet.place row col = .error error) : sheet.value row.toNat col.toNat = .null := by
  by_contra hvalue
  obtain ⟨⟨hfirst, hlast⟩, hcol, -⟩ := sheet.enclosed hvalue
  have := sheet.lastRow_le
  unfold Sheet.place at hplace
  rw [dif_neg (by omega), dif_neg (by omega)] at hplace
  contradiction

end Sheet

namespace Workbook

theorem isSome_sheet?_iff {book : Workbook} {name : String} :
    (book.sheet? name).isSome ↔ name ∈ book.names := by
  unfold sheet? names
  rw [List.lookup_isSome_iff, List.mem_map]
  simp only [beq_iff_eq, @eq_comm _ name]

/-- The value of a cell, wherever it lies. -/
def value (book : Workbook) (name : String) (row col : Int) : Cell :=
  match book.sheet? name with
  | some sheet => sheet.value row.toNat col.toNat
  | none => .null

/-- The texts of the raw values, and of the computed ones for formulas if there are any. -/
def texts (raw : Workbook) (computed : Option Workbook) : TextGrid where
  sheets := raw.names
  rowExtent name :=
    match raw.sheet? name with
    | some sheet => sheet.rowExtent
    | none => 0
  text name row col :=
    match computed with
    | some computed =>
      if (raw.value name row col).isFormula then (computed.value name row col).text
      else (raw.value name row col).text
    | none => (raw.value name row col).text

end Workbook

/-- The snapshot of a workbook that nothing was recalculated of is the grid of its texts. -/
theorem OpenWorkbook.snapshot_eq_texts (raw : Workbook) (computed : Option Workbook) :
    ({ raw, computed } : OpenWorkbook).snapshot raw.names = raw.texts computed := by
  have hextent (name : String) : (({ raw, computed } : OpenWorkbook).snapshot raw.names).rowExtent
      name = (raw.texts computed).rowExtent name := by
    simp only [snapshot, rowExtent, Workbook.texts]
    cases raw.sheet? name <;> rfl
  have htext (name : String) (row col : Int) :
      (({ raw, computed } : OpenWorkbook).snapshot raw.names).text name row col =
        (raw.texts computed).text name row col := by
    have hfresh : ({ raw, computed } : OpenWorkbook).recalculate name =
        { raw, computed, recalculated := [name] } := rfl
    rcases hsheet : raw.sheet? name with _ | sheet
    · simp only [snapshot, hfresh, shown, Workbook.texts, Workbook.value, hsheet]
      cases computed <;> rfl
    · rcases hplace : Sheet.place row col with error | place
      · have hvalue := sheet.value_eq_null hplace
        simp only [snapshot, hfresh, shown, Workbook.texts, Workbook.value, hsheet, hplace, hvalue]
        cases computed <;> rfl
      · obtain ⟨rfl, rfl⟩ := Sheet.place_eq_ok hplace
        simp only [snapshot, hfresh, shown, Workbook.texts, Workbook.value, hsheet, hplace,
          Int.toNat_natCast]
        cases computed with
        | none => rfl
        | some computed =>
          simp only [effective, List.mem_singleton, true_and]
          by_cases hformula : (sheet.value place.row place.col).isFormula = true
          · simp only [hformula, ↓reduceIte]
            cases computed.sheet? name <;> rfl
          · simp only [hformula]
            rfl
  have hrows := funext hextent
  have htexts := funext fun name => funext fun row => funext (htext name row)
  exact congrArg₂ (TextGrid.mk raw.names) hrows htexts

end SheetSchema
