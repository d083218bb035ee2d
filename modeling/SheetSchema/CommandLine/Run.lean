import SheetSchema.CommandLine.Arguments
import SheetSchema.CommandLine.Folder
import SheetSchema.CommandLine.Format
import SheetSchema.Compile
import SheetSchema.Markdown
import SheetSchema.Outline

/-!
A run of a command on its files. The run prints a text, keeps a journal, writes reports, and ends
with an exit code unless a failure stops it; what was done before a failure stays done. Errors in
the sheets are reported and give an exit code; other errors are failures.
-/
namespace SheetSchema.CommandLine

/-- What stops a run before it has an exit code. -/
inductive Failure
  | settings (error : SettingsError)
  /-- The settings choose a level of reporting that is no text. -/
  | levelNotText
  | level (error : LevelError)
  /-- The settings choose an output path that is no text. -/
  | outputNotText
  /-- A path on which no file can be read or written. -/
  | path (fault : PathFault)
  /-- The path of the workbook is that of another kind of file. -/
  | format (format : UnsupportedFormat)
  /-- The path of the workbook is that of the settings. -/
  | notWorkbook
  | compile (error : CompileError)
  | report (error : Report.ReportError)

/-- The effects of a run so far. -/
structure Effects where
  printed : String := ""
  journal : Journal := #[]
  /-- The reports that were written, with their paths. -/
  reports : List (String × List Report.Worksheet) := []

/-- The files of a command, each with its place and its content. -/
structure Files where
  settings : Option (Place × Value) := none
  workbook : Option (Place × Workbook) := none

def Files.folder (files : Files) : Folder :=
  { files := (files.settings.map (·.1)).toList ++ (files.workbook.map (·.1)).toList }

abbrev RunM := ExceptT Failure (StateM Effects)

namespace Run

def log (event : Event) : RunM Unit :=
  modify fun effects => { effects with journal := effects.journal.push event }

def printLine (text : String) : RunM Unit :=
  modify fun effects => { effects with printed := effects.printed ++ text ++ "\n" }

/-- The text that an option gives, unless it is empty or absent. -/
def chosen? (option : Option String) : Option String := option.filter (· ≠ "")

/-- The root sheet that an option asks for. -/
def askedRoot (options : Options) : Value :=
  match options.rootSheet with
  | some root => .str root
  | none => .null

/-- The least weight of an event that is reported. -/
def threshold (options : Options) (settings : Settings) : Except Failure Nat :=
  match chosen? options.logLevel with
  | some level => (Level.threshold level).mapError .level
  | none =>
    match settings.getD "log_level" with
    | .str level => (Level.threshold level).mapError .level
    | _ => .error .levelNotText

def defaultOutput : String := "output/pages.xlsx"

/-- The path of the report. -/
def outputPath (options : Options) (settings : Settings) : Except Failure String :=
  match chosen? options.output with
  | some path => .ok path
  | none =>
    let output := settings.getD "output"
    if output.isVoid then .ok defaultOutput
    else
      match output with
      | .str path => .ok path
      | _ => .error .outputNotText

/-- The result of a compilation, none if it failed on the sheets, which is reported. -/
def compiled {α σ : Type} (compile : Journal → Except CompileError α × Compilation σ) :
    RunM (Option α) := do
  let (outcome, compilation) := compile (← get).journal
  modify fun effects => { effects with journal := compilation.journal }
  match outcome with
  | .ok result => return some result
  | .error error =>
    match error.schemaError? with
    | some error =>
      log (.failed error.message)
      return none
    | none => throw (.compile error)

/-- Print the outline of a schema below a line about it. -/
def printTree (root : String) (schema : Schema) : RunM Unit := do
  printLine (root ++ ": " ++ schema.description.display ++ " (version " ++
    schema.version.display ++ ")")
  printLine (Outline.render schema.forest)

/-- Print the pages as tables, or write them as a report. -/
def presentPages (options : Options) (settings : Settings) (folder : Folder) (pages : PageSet) :
    RunM Unit :=
  match options.format with
  | .markdown =>
    match Markdown.render pages with
    | .ok text => printLine text
    | .error error => throw (.report error)
  | .xlsx => do
    let (outcome, journal) := Report.write pages (← get).journal
    modify fun effects => { effects with journal }
    let sheets ← (outcome.mapError .report : Except Failure (List Report.Worksheet))
    let path ← (outputPath options settings : Except Failure String)
    let _ ← ((folder.write path).mapError .path : Except Failure Folder)
    if let some error := Report.saveError? sheets then throw (.report (.save error))
    modify fun effects => { effects with reports := effects.reports ++ [(path, sheets)] }
    log (.reported path)

/-- The content of the settings file, none if there is no such file. -/
def userSettings (files : Files) (path : String) : Except Failure (Option Value) :=
  match files.folder.find path with
  | .error _ => .ok none
  | .ok place =>
    if files.folder.isDirectory place then .error (.path { path, error := .isDirectory })
    else .ok ((files.settings.filter (·.1 = place)).map (·.2))

/-- The workbook at a path that leads somewhere. -/
def openWorkbook (files : Files) (path : String) (place : Place) : Except Failure Workbook := do
  (checkFormat path).mapError .format
  match files.workbook.filter (·.1 = place) with
  | some (_, book) => return book
  | none =>
    if files.folder.isDirectory place then throw (.path { path, error := .isDirectory })
    else throw .notWorkbook

/-- Run a command and give the exit code. -/
def command (options : Options) (settings : Settings) (files : Files) : RunM Nat := do
  let .ok place := files.folder.find options.workbook
    | log (.workbookMissing options.workbook)
      return 1
  log (.loading options.workbook)
  let book ← (openWorkbook files options.workbook place : Except Failure Workbook)
  let source := OpenWorkbook.source book.names
  let state := OpenWorkbook.fromFile book
  let root := askedRoot options
  match options.command with
  | .tree =>
    let some (root, schema) ← compiled (Compile.tree source settings root state ·) | return 1
    printTree root schema
    return 0
  | .pages =>
    let some result ← compiled (Compile.pages source settings root state ·) | return 1
    presentPages options settings files.folder result.pages
    return 0

end Run

/-- What a run leaves: its exit code or failure, and its effects, the journal without what is
below the level of reporting. -/
structure Outcome where
  result : Except Failure Nat
  effects : Effects

/-- The settings of a run, and the least weight of an event that it reports. -/
def prepare (options : Options) (files : Files) : Except Failure (Settings × Nat) := do
  let user ← Run.userSettings files options.config
  let settings ← (Settings.load user).mapError .settings
  return (settings, ← Run.threshold options settings)

/-- Run a command on its files. -/
def run (options : Options) (files : Files) : Outcome :=
  match prepare options files with
  | .error failure => { result := .error failure, effects := {} }
  | .ok (settings, threshold) =>
    let (result, effects) := (Run.command options settings files).run {}
    { result
      effects := { effects with
        journal := effects.journal.filter fun event => threshold ≤ event.level.weight } }

end SheetSchema.CommandLine
