import SheetSchema.Journal
import SheetSchema.Page
import SheetSchema.Text.Occurrence
import SheetSchema.Title
import SheetSchema.Workbook

/-!
Reports: a workbook with a worksheet for each page, a header row and a row for each column. A
report can be read back; its cells are then as saving leaves them.
-/
namespace SheetSchema.Report

/-- The headers of a worksheet. -/
def headers : List String := ["TagName", "DataType", "Description", "ObjectLevel"]

/-- What stands between two labels in a cell. -/
def labelSeparator : String := " / "

/-- Why pages cannot be presented. -/
inductive ReportError
  /-- A label or a page name that is no text where one is needed. -/
  | notText
  | store (error : StoreError)
  | save (error : SaveError)
  deriving DecidableEq, Repr

/-- The texts of labels, if all of them are texts. -/
def labelTexts? : List Value → Option (List String)
  | [] => some []
  | .str s :: rest => (labelTexts? rest).map (s :: ·)
  | _ :: _ => none

/-- The labels of a column in one text. -/
def joinedLabels (column : Column) : Except ReportError String :=
  match column.labels.members?.bind labelTexts? with
  | some texts => .ok (labelSeparator.intercalate texts)
  | none => .error .notText

/-- The values of a column under the headers. -/
def values (column : Column) : Except ReportError (List Value) := do
  let labels ← joinedLabels column
  return [column.tagName, column.dataType, column.description, labels]

/-- A worksheet: its title and its rows of cells, the headers first. -/
structure Worksheet where
  title : String
  rows : List (List Cell)
  deriving DecidableEq, Repr

/-- The values of a column as its row stores them. -/
def writeRow (column : Column) : Except ReportError (List Cell) := do
  let values ← values column
  values.mapM fun value => value.stored.mapError .store

def writeRows (page : Page) : Except ReportError (List (List Cell)) := do
  let rows ← page.rows.mapM writeRow
  return headers.map .str :: rows

/-- Writing keeps a journal, also of what comes before a failure. -/
abbrev WriteM := ExceptT ReportError (StateM Journal)

/-- The worksheets of pages, given the keys of the titles that are used. A page that is
titled otherwise than it is named is reported. -/
def writePages (used : List String) : List Page → WriteM (List Worksheet)
  | [] => return []
  | page :: pages => do
    let .str name := page.name | throw .notText
    let (title, used) := Title.next used name.toList
    let title := String.ofList title
    let rows ← (writeRows page : Except ReportError (List (List Cell)))
    if title ≠ name then
      modify fun journal => journal.push (.retitled name title)
    let sheets ← writePages used pages
    return { title, rows } :: sheets

/-- The worksheets of a page set. A workbook has at least one, so an empty set gives a blank
one. -/
def writeAll (pages : PageSet) : WriteM (List Worksheet) :=
  if pages.pages = [] then return [{ title := "Sheet", rows := [] }]
  else writePages [] pages.pages

def write (pages : PageSet) (journal : Journal := #[]) :
    Except ReportError (List Worksheet) × Journal :=
  (writeAll pages).run journal

/-- What keeps worksheets from being saved, if anything does. -/
def saveError? (sheets : List Worksheet) : Option SaveError :=
  if sheets.all fun sheet => sheet.rows.all fun row => row.all Cell.isSavable then none
  else some .integerTooLarge

/-- The worksheet after it was saved and loaded. -/
def Worksheet.saved (sheet : Worksheet) : Worksheet :=
  { sheet with rows := sheet.rows.map (·.map Cell.saved) }

/-- A label cell that holds neither a text nor an absent value. -/
inductive ReadError
  | labelsNotText
  deriving DecidableEq, Repr

/-- The cell of a row under a header: the last column with the header counts, and a row without
the column has nothing there. -/
def field (header : List Cell) (row : List Cell) (name : String) : Cell :=
  let place := (header.zipIdx.filter fun entry => entry.1 = .str name).getLast?
  (place.bind fun entry => row[entry.2]?).getD .null

/-- A cell as a text; absent values give the empty text. -/
def fieldText (cell : Cell) : String := if cell.isVoid then "" else cell.display

/-- The labels that a cell joins. -/
def readLabels (cell : Cell) : Except ReadError (List Value) :=
  if cell.isVoid then .ok []
  else
    match cell with
    | .str s =>
      .ok ((Text.split labelSeparator.toList s.toList).map fun label => .str (String.ofList label))
    | _ => .error .labelsNotText

def readRow (header row : List Cell) : Except ReadError Column := do
  let labels ← readLabels (field header row "ObjectLevel")
  return {
    tagName := fieldText (field header row "TagName")
    dataType := fieldText (field header row "DataType")
    description := fieldText (field header row "Description")
    labels := .list labels }

/-- The columns of a worksheet: its rows after the header, without those that hold nothing. -/
def readRows : List (List Cell) → Except ReadError (List Column)
  | [] => .ok []
  | header :: rows => (rows.filter fun row => row.any (· ≠ .null)).mapM (readRow header)

/-- The page set of saved worksheets. -/
def read (sheets : List Worksheet) : Except ReadError PageSet :=
  sheets.foldlM
    (fun pages sheet =>
      (readRows sheet.rows).map fun rows =>
        (pages.create (.str sheet.title)).addRows (.str sheet.title) rows)
    {}

/-- The worksheets of a workbook. -/
def ofWorkbook (book : Workbook) : List Worksheet :=
  book.sheets.map fun entry => { title := entry.1, rows := entry.2.rows }

end SheetSchema.Report
