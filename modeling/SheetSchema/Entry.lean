import SheetSchema.Cell

/-!
Cells in writing. An entry is read as a spreadsheet reads what is typed into a cell: numbers,
truth values, dates and times are known by their form, anything else is a text, and an apostrophe
in front makes a text of whatever follows it.
-/
namespace SheetSchema.Entry

/-- A number with a digit, so that no word is read as one. -/
def number? (text : String) : Option Cell :=
  if text.toList.any Text.isDigit then
    ((Text.integer? text.toList).map .int).or ((Binary64.ofLiteral? text.toList).map .float)
  else none

/-- A date, a time, or both with a blank between them. -/
def moment? (text : String) : Option Cell :=
  match Text.split [' '] text.toList with
  | [day, clock] => do
    let day ← Date.ofText? (String.ofList day)
    let clock ← TimeOfDay.ofText? (String.ofList clock)
    return .dateTime day clock
  | _ => ((Date.ofText? text).map .date).or ((TimeOfDay.ofText? text).map .time)

/-- The cell that an entry without an apostrophe stands for. -/
def plain (text : String) : Cell :=
  if text = "" then .null
  else if text = "TRUE" then .bool true
  else if text = "FALSE" then .bool false
  else ((number? text).or (moment? text)).getD (.str text)

/-- The cell that an entry stands for. -/
def read (entry : List Char) : Cell :=
  match entry with
  | '\'' :: text => .str (String.ofList text)
  | text => plain (String.ofList text)

/-- A cell as an entry. A text gets an apostrophe unless it reads as itself without. -/
def write : Cell → List Char
  | .str s => if read s.toList = .str s then s.toList else '\'' :: s.toList
  | .bool b => (Cell.bool b).text.toList
  | .null => []
  | c => c.display.toList

/-- Texts read back. -/
theorem read_write_str (s : String) : read (write (.str s)) = .str s := by
  by_cases h : read s.toList = .str s
  · rw [write, if_pos h, h]
  · rw [write, if_neg h, read, String.ofList_toList]

end SheetSchema.Entry
