import SheetSchema.Binary64
import SheetSchema.Text.Occurrence
import SheetSchema.Value

/-!
Settings files. A line holds the name of an entry, a colon and its value; an entry without a
value takes the items of the lines below it that start with a dash. Empty lines and lines that
start with a number sign count for nothing.
-/
namespace SheetSchema.SettingsFile

/-- A line that is neither an entry nor an item of one. -/
structure MalformedLine where
  number : Nat
  deriving DecidableEq, Repr

def MalformedLine.message (error : MalformedLine) : String :=
  "line " ++ toString error.number ++ " is neither an entry nor an item"

/-- The text between two marks of one kind. -/
def unquoted? (text : List Char) : Option (List Char) :=
  match text with
  | mark :: rest =>
    if (mark = '"' ∨ mark = '\'') ∧ rest.getLast? = some mark then some rest.dropLast else none
  | [] => none

/-- A number, which starts with a digit, a sign or a point. -/
def number? (text : List Char) : Option Cell :=
  match text with
  | c :: _ =>
    if c.isDigit ∨ c = '-' ∨ c = '+' ∨ c = '.' then
      ((Text.integer? text).map .int).or ((Binary64.ofLiteral? text).map .float)
    else none
  | [] => none

/-- A single value. -/
def scalar (text : List Char) : Cell :=
  match unquoted? text with
  | some inside => .str (String.ofList inside)
  | none =>
    match String.ofList text with
    | "" | "~" | "null" => .null
    | "true" => .bool true
    | "false" => .bool false
    | plain => (number? text).getD (.str plain)

/-- A value on one line: items between brackets, or a single value. -/
def value (text : List Char) : Value :=
  match text with
  | '[' :: rest =>
    if rest.getLast? = some ']' then
      let inside := rest.dropLast
      if (Text.trim inside).isEmpty then .list []
      else .list ((Text.split [','] inside).map fun item => .cell (scalar (Text.trim item)))
    else .cell (scalar text)
  | _ => .cell (scalar text)

/-- The value of an entry with a further item. -/
def addItem? (item : Cell) : Value → Option Value
  | .cell .null => some (.list [.cell item])
  | .list items => some (.list (items ++ [.cell item]))
  | _ => none

/-- The entries, the last one first, with what a line adds to them. -/
def readLine? (entries : List (String × Value)) (line : List Char) :
    Option (List (String × Value)) :=
  match Text.trim line with
  | [] => some entries
  | '#' :: _ => some entries
  | '-' :: ' ' :: item =>
    match entries with
    | (name, value) :: rest =>
      (addItem? (scalar (Text.trim item)) value).map fun value => (name, value) :: rest
    | [] => none
  | text =>
    match text.span (· ≠ ':') with
    | (_, []) => none
    | (name, _ :: rest) =>
      let name := String.ofList (Text.trim name)
      some ((name, value (Text.trim rest)) :: entries)

/-- The table that a settings file holds. -/
def read (text : String) : Except MalformedLine Value := do
  let lines := (Text.split ['\n'] text.toList).zipIdx 1
  let entries ← lines.foldlM
    (fun entries (line, number) =>
      match readLine? entries line with
      | some entries => .ok entries
      | none => .error { number := number })
    []
  return .table entries.reverse

end SheetSchema.SettingsFile
