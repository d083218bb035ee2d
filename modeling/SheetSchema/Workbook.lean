import SheetSchema.Source
import Std.Data.HashMap

/-!
Workbooks. A sheet holds the cells that exist; looking at a cell or storing into it makes it
exist. The last row of a sheet counts every existing cell, whether it holds a value or not.
-/
namespace SheetSchema

/-- Where a cell can stand: in a row that a worksheet can have, and in any column. Both count from
one. -/
structure Sheet.Place where
  row : Nat
  col : Nat
  row_pos : 1 ≤ row
  row_le : (row : Int) ≤ lastSheetRow
  col_pos : 1 ≤ col
  deriving DecidableEq

/-- A sheet: the values that were stored, and the greatest row and the greatest column of an
existing cell, which are one while no cell exists. -/
structure Sheet where
  values : Std.HashMap (Nat × Nat) Cell := {}
  lastRow : Nat := 1
  lastCol : Nat := 1
  lastRow_le : (lastRow : Int) ≤ lastSheetRow := by decide
  lastCol_pos : 1 ≤ lastCol := by decide
  /-- What was stored stands in the rows and the columns of the sheet. -/
  inside : ∀ row col, (row, col) ∈ values →
    (1 ≤ row ∧ row ≤ lastRow) ∧ 1 ≤ col ∧ col ≤ lastCol := by simp

instance : Inhabited Sheet := ⟨{}⟩

/-- Why a value cannot be stored in a cell. -/
inductive StoreError
  /-- A text with a control character that worksheets cannot hold. -/
  | illegalCharacter (text : String)
  /-- A value that is no single one. -/
  | collection (value : Value)
  | access (error : AccessError)
  deriving DecidableEq, Repr

def StoreError.message : StoreError → String
  | illegalCharacter text => text ++ " cannot be used in worksheets."
  | collection value => "Cannot convert " ++ String.ofList value.quoted ++ " to Excel"
  | access error => error.message

/-- Why a workbook cannot be saved. -/
inductive SaveError
  | noSheet
  /-- A column behind the last one that has letters. -/
  | columnWithoutLetters (column : Nat)
  /-- An integer beyond the range of floats. -/
  | integerTooLarge
  deriving DecidableEq, Repr

def SaveError.message : SaveError → String
  | noSheet => "At least one sheet must be visible"
  | columnWithoutLetters column => "Invalid column index " ++ toString column
  | integerTooLarge => "int too large to convert to float"

namespace Value

/-- Control characters other than tabulator, line feed and carriage return. -/
def isIllegal (c : Char) : Bool :=
  c.toNat < 0x20 && c.toNat ≠ 0x9 && c.toNat ≠ 0xa && c.toNat ≠ 0xd

/-- The longest text that a cell holds. -/
def maxTextLength : Nat := 32767

/-- The value as a cell stores it: a text is cut to the greatest length, and refused if an
illegal character is left. -/
def stored : Value → Except StoreError Cell
  | .str s =>
    let kept := s.toList.take maxTextLength
    if kept.any isIllegal then .error (.illegalCharacter (String.ofList kept))
    else .ok (.str (String.ofList kept))
  | .cell c => .ok c
  | v => .error (.collection v)

end Value

namespace Sheet

/-- The sheet once the cell exists. -/
def touch (sheet : Sheet) (place : Place) : Sheet where
  values := sheet.values
  lastRow := max sheet.lastRow place.row
  lastCol := max sheet.lastCol place.col
  lastRow_le := by
    have := sheet.lastRow_le
    have := place.row_le
    omega
  lastCol_pos := Nat.le_trans sheet.lastCol_pos (Nat.le_max_left _ _)
  inside row col h := by
    have := sheet.inside row col h
    omega

def value (sheet : Sheet) (row col : Nat) : Cell := (sheet.values[(row, col)]?).getD .null

/-- The sheet with a value put in a cell as it is. -/
def put (sheet : Sheet) (place : Place) (c : Cell) : Sheet where
  values := sheet.values.insert (place.row, place.col) c
  lastRow := max sheet.lastRow place.row
  lastCol := max sheet.lastCol place.col
  lastRow_le := (sheet.touch place).lastRow_le
  lastCol_pos := (sheet.touch place).lastCol_pos
  inside row col h := by
    rcases Std.HashMap.mem_insert.1 h with hplace | hbefore
    · cases eq_of_beq hplace
      have := place.row_pos
      have := place.col_pos
      omega
    · exact (sheet.touch place).inside row col hbefore

/-- The place at a row and a column, which a worksheet has to have. Columns have no end. -/
def place (row col : Int) : Except AccessError Place :=
  if _hfirst : row < 1 ∨ col < 1 then .error .outsideSheet
  else if _hlast : lastSheetRow < row then .error (.belowSheet row)
  else .ok {
    row := row.toNat
    col := col.toNat
    row_pos := by omega
    row_le := by omega
    col_pos := by omega }

/-- Store a value. A value that is refused leaves the cell existing and as it was. -/
def store (sheet : Sheet) (row col : Int) (v : Value) : Except StoreError Unit × Sheet :=
  match place row col with
  | .error e => (.error (.access e), sheet)
  | .ok place =>
    match v.stored with
    | .ok c => (.ok (), sheet.put place c)
    | .error e => (.error e, sheet.touch place)

/-- The sheet with the given values stored in order. -/
def ofCells (cells : List (Int × Int × Value)) : Except StoreError Sheet :=
  cells.foldlM
    (fun sheet (row, col, v) =>
      let (outcome, sheet) := sheet.store row col v
      outcome.map fun _ => sheet)
    {}

/-- The last row. A sheet whose only existing cell can be the first one, which holds nothing,
is blank and has none. -/
def rowExtent (sheet : Sheet) : Nat :=
  if sheet.lastRow = 1 ∧ sheet.lastCol = 1 ∧ sheet.value 1 1 = .null then 0 else sheet.lastRow

/-- The place of a cell that was stored. -/
def placeOf (sheet : Sheet) (cell : (Nat × Nat) × Cell) (h : cell ∈ sheet.values.toList) :
    Place :=
  have hinside := sheet.inside cell.1.1 cell.1.2
    (Std.HashMap.mem_iff_isSome_getElem?.2 (by
      rw [Std.HashMap.mem_toList_iff_getElem?_eq_some.1 h]
      rfl))
  { row := cell.1.1
    col := cell.1.2
    row_pos := hinside.1.1
    row_le := Int.le_trans (Int.ofNat_le.2 hinside.1.2) sheet.lastRow_le
    col_pos := hinside.2.1 }

/-- The cells that were stored. -/
def cells (sheet : Sheet) : List (Place × Cell) :=
  sheet.values.toList.attach.map fun cell => (sheet.placeOf cell.1 cell.2, cell.1.2)

/-- The sheet after it was saved and loaded: cells without a value are gone. -/
def saved (sheet : Sheet) : Sheet :=
  sheet.cells.foldl
    (fun saved cell => if cell.2 = .null then saved else saved.put cell.1 cell.2.saved) {}

/-- The columns up to this one have letters, three at most. -/
def lastLetteredColumn : Nat := 18278

/-- What keeps the sheet from being saved, if anything does. Of the columns, the first one that
holds a cell and then the last one have to have letters. -/
def saveError? (sheet : Sheet) : Option SaveError :=
  let columns := (sheet.values.keys.map (·.2)).min?.toList ++ [sheet.lastCol]
  match columns.find? (lastLetteredColumn < ·) with
  | some column => some (.columnWithoutLetters column)
  | none => if sheet.values.values.all Cell.isSavable then none else some .integerTooLarge

/-- The sheet with the values of its formulas, which no application has computed. An equals sign
alone has nothing to compute and stays. -/
def withoutFormulas (sheet : Sheet) : Sheet :=
  { sheet with
    values := sheet.values.map fun _ c =>
      if c.isFormula ∧ c ≠ .str "=" then .null else c
    inside := fun row col h => sheet.inside row col (Std.HashMap.mem_map.1 h) }

/-- The values in all rows and columns up to the last ones. -/
def rows (sheet : Sheet) : List (List Cell) :=
  (List.range sheet.lastRow).map fun row =>
    (List.range sheet.lastCol).map fun col => sheet.value (row + 1) (col + 1)

end Sheet

/-- Sheets in order, under different names. -/
structure Workbook where
  sheets : List (String × Sheet)
  deriving Inhabited

namespace Workbook

def names (book : Workbook) : List String := book.sheets.map (·.1)

def sheet? (book : Workbook) (name : String) : Option Sheet := book.sheets.lookup name

def modify (book : Workbook) (name : String) (f : Sheet → Sheet) : Workbook :=
  ⟨book.sheets.map fun entry => if entry.1 = name then (entry.1, f entry.2) else entry⟩

def mapSheets (book : Workbook) (f : Sheet → Sheet) : Workbook :=
  ⟨book.sheets.map fun entry => (entry.1, f entry.2)⟩

def ofCells (sheets : List (String × List (Int × Int × Value))) : Except StoreError Workbook :=
  (sheets.mapM fun entry => (Sheet.ofCells entry.2).map fun sheet => (entry.1, sheet)).map mk

/-- The workbook after it was saved and loaded. -/
def saved (book : Workbook) : Workbook := book.mapSheets Sheet.saved

/-- What keeps the workbook from being saved, if anything does. -/
def saveError? (book : Workbook) : Option SaveError :=
  if book.sheets.isEmpty then some .noSheet
  else book.sheets.findSome? fun entry => entry.2.saveError?

end Workbook

/-- A workbook in use: the raw cells, perhaps a second copy with computed values, and the sheets
that were recalculated. A formula cell of such a sheet shows the computed value. -/
structure OpenWorkbook where
  raw : Workbook
  computed : Option Workbook := none
  recalculated : List String := []
  deriving Inhabited

namespace OpenWorkbook

/-- A workbook that was saved and is opened from its file; its formulas have no values. -/
def fromFile (book : Workbook) : OpenWorkbook :=
  { raw := book.saved, computed := some (book.saved.mapSheets Sheet.withoutFormulas) }

def rowExtent (book : OpenWorkbook) (name : String) : Except AccessError Int :=
  match book.raw.sheet? name with
  | some sheet => .ok sheet.rowExtent
  | none => .error (.missingSheet name)

/-- The value that a cell with raw value `c` stands for. -/
def effective (book : OpenWorkbook) (name : String) (place : Sheet.Place) (c : Cell) :
    Except AccessError Cell :=
  match book.computed with
  | some computed =>
    if name ∈ book.recalculated ∧ c.isFormula then
      match computed.sheet? name with
      | some sheet => .ok (sheet.value place.row place.col)
      | none => .error (.missingSheet name)
    else .ok c
  | none => .ok c

/-- Look at the text of a cell, which exists from then on. -/
def shown (name : String) (row col : Int) (book : OpenWorkbook) :
    Except AccessError Value × OpenWorkbook :=
  match book.raw.sheet? name with
  | none => (.error (.missingSheet name), book)
  | some sheet =>
    match Sheet.place row col with
    | .error e => (.error e, book)
    | .ok place =>
      ((book.effective name place (sheet.value place.row place.col)).map fun c => .str c.text,
        { book with raw := book.raw.modify name (·.touch place) })

def recalculate (name : String) (book : OpenWorkbook) : OpenWorkbook :=
  if name ∈ book.recalculated then book
  else { book with recalculated := book.recalculated ++ [name] }

/-- Store a value in a raw cell. -/
def store (book : OpenWorkbook) (name : String) (row col : Int) (v : Value) :
    Except StoreError Unit × OpenWorkbook :=
  match book.raw.sheet? name with
  | none => (.error (.access (.missingSheet name)), book)
  | some sheet =>
    let (outcome, sheet) := sheet.store row col v
    (outcome, { book with raw := book.raw.modify name fun _ => sheet })

/-- Workbooks with the given sheets as a source. -/
def source (sheets : List String) : Source OpenWorkbook where
  sheets := sheets
  rowExtent name book := book.rowExtent name
  shown name row col book := OpenWorkbook.shown name row col book
  recalculate := recalculate

end OpenWorkbook

end SheetSchema
