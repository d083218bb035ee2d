import SheetSchema.CellListing
import SheetSchema.CommandLine.Run
import SheetSchema.SettingsFile

/-!
The program. Its workbooks are cell listings, its settings come from a settings file, and the
journal goes to the standard error stream.
-/
namespace SheetSchema.CommandLine

def usage : String :=
  "usage: tree WORKBOOK [--config FILE] [--root-sheet NAME] [--log-level LEVEL]\n" ++
  "       pages WORKBOOK [--config FILE] [--root-sheet NAME] [--log-level LEVEL]\n" ++
  "             [--output FILE] [--format xlsx | markdown]"

/-- What a failure tells. -/
def Failure.message : Failure → String
  | settings error => error.message
  | levelNotText => "the level of reporting is not a text"
  | level error => error.message
  | outputNotText => "the output path is not a text"
  | path fault => fault.message
  | format unsupported => unsupported.message
  | notWorkbook => "the settings are not a workbook"
  | compile (.settings error) => error.message
  | compile (.rootNotText root) => "the root sheet is not a text: " ++ root.display
  | compile (.access error) => error.message
  | compile (.meaninglessRow sheet row) =>
    "row " ++ toString row ++ " of the sheet '" ++ sheet ++ "' holds a value without a meaning"
  | compile .namelessTemplate => "a template is a collection"
  | compile (.schema root cause) => (SchemaError.compilation root cause).message
  | report .notText => "a page holds a name or a label that is not a text"
  | report (.store error) => error.message
  | report (.save error) => error.message

/-- The content of a file, none if there is no such file. -/
def contentOf? (path : String) : IO (Option String) := do
  try
    return some (← IO.FS.readFile path)
  catch
    | .noFileOrDirectory .. => return none
    | error => throw error

/-- A file's place and content once it is read, or a failure that names the file. -/
def readAs {α ε : Type} (path : String) (read : String → Except ε α) (message : ε → String) :
    IO (Option (Place × α)) := do
  match ← contentOf? path with
  | none => return none
  | some text =>
    match read text with
    | .ok content => return some (Path.place path, content)
    | .error error => throw (IO.userError (path ++ ": " ++ message error))

def writeReport (path : String) (sheets : List Report.Worksheet) : IO Unit := do
  for directory in Path.directories path do
    IO.FS.createDirAll directory
  IO.FS.writeFile path (CellListing.write sheets)

def logLine (event : Event) : String :=
  "[" ++ event.level.name ++ "] " ++ event.component ++ ": " ++ event.text

/-- Run a command on files. -/
def runOnFiles (options : Options) : IO UInt32 := do
  let settings ← readAs options.config SettingsFile.read SettingsFile.MalformedLine.message
  let workbook ← readAs options.workbook CellListing.read CellListing.ListingError.message
  let outcome := run options { settings, workbook }
  for event in outcome.effects.journal do
    IO.eprintln (logLine event)
  for (path, sheets) in outcome.effects.reports do
    writeReport path sheets
  IO.print outcome.effects.printed
  match outcome.result with
  | .ok code => return code.toUInt32
  | .error failure =>
    IO.eprintln failure.message
    return 1

end SheetSchema.CommandLine

def main (arguments : List String) : IO UInt32 := do
  match SheetSchema.CommandLine.request arguments with
  | .help =>
    IO.println SheetSchema.CommandLine.usage
    return 0
  | .rejected =>
    IO.eprintln SheetSchema.CommandLine.usage
    return 2
  | .run options => SheetSchema.CommandLine.runOnFiles options
