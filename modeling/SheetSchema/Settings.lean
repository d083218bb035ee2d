import SheetSchema.Layout
import SheetSchema.Text.Numeral
import SheetSchema.Value

/-!
Settings of a compilation: entries that start from the defaults and take over what the user
gives. Their keys are texts, or single values of any kind if the user lists keys and values; only
those that are texts have a meaning. The entries are read where they are needed, so a value of the
wrong kind is refused only then.
-/
namespace SheetSchema

/-- Why a settings value cannot be used. -/
inductive SettingsError
  /-- A text where an integer is expected. -/
  | notInteger (text : String)
  /-- A text with more digits than an integer may have. -/
  | tooManyDigits (count : Nat)
  | infiniteInteger
  | undefinedInteger
  /-- An element of a list of entries that has other than a name and a value. -/
  | entryLength (index length : Nat)
  /-- A value of a kind that has no use in its place. -/
  | wrongKind
  deriving DecidableEq, Repr

/-- The text of a refused integer is quoted and cut after 200 characters. -/
def SettingsError.message : SettingsError → String
  | notInteger text =>
    "invalid literal for int() with base 10: " ++
      String.ofList ((Text.quote text.toList).take 200)
  | tooManyDigits count =>
    "Exceeds the limit (" ++ toString Text.maxDigits ++
      " digits) for integer string conversion: value has " ++ toString count ++
      " digits; use sys.set_int_max_str_digits() to increase the limit"
  | infiniteInteger => "cannot convert float infinity to integer"
  | undefinedInteger => "cannot convert float NaN to integer"
  | entryLength index length =>
    "dictionary update sequence element #" ++ toString index ++ " has length " ++
      toString length ++ "; 2 is required"
  | wrongKind => ""

/-- Entries with the one for `key` set, which keeps its place and its spelling or else comes
last. -/
def setEntry (entries : List (Cell × Value)) (key : Cell) (value : Value) : List (Cell × Value) :=
  if entries.any (·.1.equals key) then
    entries.map fun entry => if entry.1.equals key then (entry.1, value) else entry
  else entries ++ [(key, value)]

structure Settings where
  entries : List (Cell × Value)
  deriving Inhabited

namespace Settings

def texts (items : List String) : Value := .list (items.map fun s => .str s)

def defaultDataTypes : List String := [
  "Boolean", "SByte", "Byte", "Int16", "UInt16", "Int32", "UInt32", "Int64", "UInt64", "Float",
  "Double", "String", "DateTime"]

/-- Entries whose keys are texts. -/
def named (entries : List (String × Value)) : List (Cell × Value) :=
  entries.map fun entry => (.str entry.1, entry.2)

def defaults : Settings := ⟨named [
  ("root_sheet", .str "OPC Config Model"),
  ("sub_processes", .list []),
  ("data_types", texts defaultDataTypes),
  ("hierarchy_columns", .cell (.int 10)),
  ("name_column", .cell (.int 15)),
  ("type_column", .cell (.int 16)),
  ("notes_column", .cell (.int 17)),
  ("root_first_row", .cell (.int 4)),
  ("reference_first_row", .cell (.int 2)),
  ("log_level", .str "INFO"),
  ("output", .null)]⟩

def get? (settings : Settings) (key : String) : Option Value :=
  settings.entries.lookup (.str key)

def getD (settings : Settings) (key : String) : Value := (settings.get? key).getD (.null)

/-- The settings with further entries taken over one after another. -/
def merge (settings : Settings) (entries : List (Cell × Value)) : Settings :=
  ⟨entries.foldl (fun acc entry => setEntry acc entry.1 entry.2) settings.entries⟩

/-- The entry that an element writes as two members: a key, which is a single value, and a
value. -/
def entry? (index : Nat) (element : Value) : Except SettingsError (Cell × Value) :=
  match element.members? with
  | none => .error .wrongKind
  | some [.cell key, value] => .ok (key, value)
  | some [_, _] => .error .wrongKind
  | some parts => .error (.entryLength index parts.length)

/-- The entries that a user value contributes: those of a table, or those that the elements of a
sequence write as a name and a value each. -/
def userEntries : Value → Except SettingsError (List (Cell × Value))
  | .table entries => .ok (named entries)
  | v =>
    match v.members? with
    | none => .error .wrongKind
    | some elements => elements.zipIdx.mapM fun element => entry? element.2 element.1

/-- The defaults with the content of the user's file, if there is one, taken over. A file that
holds an absent value contributes nothing. -/
def load (user : Option Value) : Except SettingsError Settings :=
  match user with
  | none => .ok defaults
  | some v => if v.isVoid then .ok defaults else (userEntries v).map defaults.merge

/-- The defaults with a given table taken over. -/
def ofTable : Value → Except SettingsError Settings
  | .table entries => .ok (defaults.merge (named entries))
  | _ => .error .wrongKind

/-- The defaults with a given table taken over. Any absent value stands for the empty table. -/
def ofValue (v : Value) : Except SettingsError Settings :=
  if v.isVoid then .ok defaults else ofTable v

/-- The integer that a value stands for. A number loses its fraction, a text is read as a
numeral. -/
def integer : Value → Except SettingsError Int
  | .cell (.int n) => .ok n
  | .cell (.bool b) => .ok (if b then 1 else 0)
  | .cell (.float (.finite negative mantissa exponent)) =>
    .ok (Binary64.truncate negative mantissa exponent)
  | .cell (.float (.infinite _)) => .error .infiniteInteger
  | .cell (.float .nan) => .error .undefinedInteger
  | .str s =>
    if Text.maxDigits < Text.leadingDigits s.toList then
      .error (.tooManyDigits (Text.leadingDigits s.toList))
    else
      match Text.integer? s.toList with
      | some n => .ok n
      | none => .error (.notInteger s)
  | _ => .error .wrongKind

/-- The layout that the settings describe. The cells of the description and the version are
fixed. -/
def layout (settings : Settings) : Except SettingsError Layout := do
  let hierarchyColumns ← integer (settings.getD "hierarchy_columns")
  let nameColumn ← integer (settings.getD "name_column")
  let typeColumn ← integer (settings.getD "type_column")
  let notesColumn ← integer (settings.getD "notes_column")
  let rootFirstRow ← integer (settings.getD "root_first_row")
  let referenceFirstRow ← integer (settings.getD "reference_first_row")
  return { hierarchyColumns, nameColumn, typeColumn, notesColumn, rootFirstRow, referenceFirstRow }

/-- The members of a collection, which have to be single values. -/
def memberSet (v : Value) : Except SettingsError (List Cell) :=
  match v.members? with
  | none => .error .wrongKind
  | some members => members.mapM fun
    | .cell c => .ok c
    | _ => .error .wrongKind

end Settings

end SheetSchema
