import SheetSchema.Entry
import SheetSchema.Report

/-!
Workbooks as plain text, a line for each cell: the name of its sheet, its row, its column and its
entry, separated by tabulators. A line with a name alone tells of a sheet without cells. In names
and entries a backslash stands before `t`, `n`, `r` and itself, for the characters that separate.
-/
namespace SheetSchema.CellListing

inductive ListingError
  | malformed (line : Nat)
  | store (error : StoreError)
  deriving DecidableEq, Repr

def ListingError.message : ListingError → String
  | malformed line => "line " ++ toString line ++ " is neither a cell nor a sheet"
  | store error => error.message

def escapeChar (c : Char) : List Char :=
  if c = '\\' then ['\\', '\\']
  else if c = '\t' then ['\\', 't']
  else if c = '\n' then ['\\', 'n']
  else if c = '\r' then ['\\', 'r']
  else [c]

def escape (text : List Char) : List Char := text.flatMap escapeChar

/-- The text that was escaped; a backslash before another character stands for itself. -/
def unescape : List Char → List Char
  | '\\' :: '\\' :: rest => '\\' :: unescape rest
  | '\\' :: 't' :: rest => '\t' :: unescape rest
  | '\\' :: 'n' :: rest => '\n' :: unescape rest
  | '\\' :: 'r' :: rest => '\r' :: unescape rest
  | c :: rest => c :: unescape rest
  | [] => []

theorem unescape_escape (text : List Char) : unescape (escape text) = text := by
  induction text with
  | nil => rfl
  | cons c rest ih =>
    simp only [escape, List.flatMap_cons] at ih ⊢
    by_cases h₁ : c = '\\'
    · subst h₁; simp [escapeChar, unescape, ih]
    by_cases h₂ : c = '\t'
    · subst h₂; simp [escapeChar, unescape, ih]
    by_cases h₃ : c = '\n'
    · subst h₃; simp [escapeChar, unescape, ih]
    by_cases h₄ : c = '\r'
    · subst h₄; simp [escapeChar, unescape, ih]
    · simp [escapeChar, h₁, h₂, h₃, h₄, unescape, ih]

/-- A line as the sheet that it tells of, and its cell if it has one. -/
def readLine? (line : List Char) : Option (String × Option (Int × Int × Value)) :=
  match Text.split ['\t'] line with
  | [name] => some (String.ofList (unescape name), none)
  | [name, row, col, entry] => do
    let row ← Text.integer? row
    let col ← Text.integer? col
    return (String.ofList (unescape name), some (row, col, .cell (Entry.read (unescape entry))))
  | _ => none

/-- The sheets with a further cell; a new sheet comes last. -/
def insert (sheets : List (String × List (Int × Int × Value))) (name : String)
    (cell : Option (Int × Int × Value)) : List (String × List (Int × Int × Value)) :=
  if sheets.any (·.1 == name) then
    sheets.map fun sheet => if sheet.1 == name then (name, sheet.2 ++ cell.toList) else sheet
  else sheets ++ [(name, cell.toList)]

/-- The workbook that a listing tells of. Empty lines tell nothing. -/
def read (text : String) : Except ListingError Workbook := do
  let lines := (Text.split ['\n'] text.toList).zipIdx 1
  let sheets ← lines.foldlM
    (fun sheets (line, number) =>
      if line.isEmpty then .ok sheets
      else
        match readLine? line with
        | some (name, cell) => .ok (insert sheets name cell)
        | none => .error (.malformed number))
    []
  (Workbook.ofCells sheets).mapError .store

def joinFields (fields : List (List Char)) : List Char := ['\t'].intercalate fields

/-- The lines of a worksheet. -/
def worksheetLines (sheet : Report.Worksheet) : List (List Char) :=
  let name := escape sheet.title.toList
  name :: (sheet.rows.zipIdx 1).flatMap fun (row, number) =>
    ((row.zipIdx 1).filter fun cell => cell.1 ≠ .null).map fun (cell, column) =>
      joinFields [name, (Nat.repr number).toList, (Nat.repr column).toList,
        escape (Entry.write cell)]

/-- Worksheets as a listing. -/
def write (sheets : List Report.Worksheet) : String :=
  String.ofList ((sheets.flatMap worksheetLines).flatMap (· ++ ['\n']))

end SheetSchema.CellListing
