import SheetSchema.Value

/-!
What a compilation reports while it runs. An event is a fact of the run; its level, the
component that it belongs to and its text are functions of the event.
-/
namespace SheetSchema

inductive Level
  | debug
  | info
  | warning
  | error
  | critical
  deriving DecidableEq, Repr

/-- What a name stands for that is asked for as a level, but names another part of the
reporting. -/
inductive LevelError
  | lineForm
  | lineStyles
  deriving DecidableEq, Repr

def LevelError.message : LevelError → String
  | lineForm => "Unknown level: '%(levelname)s:%(name)s:%(message)s'"
  | lineStyles => "Level not an integer or a valid string"

namespace Level

def name : Level → String
  | debug => "DEBUG"
  | info => "INFO"
  | warning => "WARNING"
  | error => "ERROR"
  | critical => "CRITICAL"

def weight : Level → Nat
  | debug => 10
  | info => 20
  | warning => 30
  | error => 40
  | critical => 50

/-- A letter as capitals, as far as these are in ASCII. Besides the small ASCII letters these are
the dotless i, the long s, the sharp s and the ligatures. -/
def capitals : Char → List Char
  | 'ı' => ['I']
  | 'ſ' => ['S']
  | 'ß' => ['S', 'S']
  | 'ﬀ' => ['F', 'F']
  | 'ﬁ' => ['F', 'I']
  | 'ﬂ' => ['F', 'L']
  | 'ﬃ' => ['F', 'F', 'I']
  | 'ﬄ' => ['F', 'F', 'L']
  | 'ﬅ' => ['S', 'T']
  | 'ﬆ' => ['S', 'T']
  | c => [c.toUpper]

/-- The least weight that is reported when a name is asked for; unknown names ask for `info`. -/
def threshold (name : String) : Except LevelError Nat :=
  match String.ofList (name.toList.flatMap capitals) with
  | "DEBUG" => .ok 10
  | "INFO" => .ok 20
  | "WARNING" => .ok 30
  | "WARN" => .ok 30
  | "ERROR" => .ok 40
  | "CRITICAL" => .ok 50
  | "FATAL" => .ok 50
  | "NOTSET" => .ok 0
  | "BASIC_FORMAT" => .error .lineForm
  | "_STYLES" => .error .lineStyles
  | _ => .ok 20

end Level

inductive Event
  | loading (path : String)
  | compiling (root : String)
  | resolving (sheet referrer : String) (row : Int) (subProcess : Value)
  | scanned (sheet : String) (firstRow lastRow : Int) (roots : Nat)
  | built (root : String) (roots nodes : Nat)
  | columnWithoutPage (page : Cell) (tag : Value) (type : Cell)
  | childrenSkipped (tag : Value) (pages : List Cell)
  | flattened (root : Cell) (pages columns : Nat)
  | retitled (page title : String)
  | reported (path : String)
  | workbookMissing (path : String)
  | failed (message : String)
  deriving DecidableEq, Repr

namespace Event

def level : Event → Level
  | resolving .. | scanned .. | columnWithoutPage .. | childrenSkipped .. => .debug
  | loading _ | compiling _ | built .. | flattened .. | reported _ => .info
  | retitled .. => .warning
  | workbookMissing _ | failed _ => .error

def component : Event → String
  | loading _ => "workbook"
  | compiling _ => "compiler"
  | resolving .. | scanned .. | built .. => "builder"
  | columnWithoutPage .. | childrenSkipped .. | flattened .. => "flattener"
  | retitled .. | reported _ => "report"
  | workbookMissing _ | failed _ => "main"

def text : Event → String
  | loading path => "Loading workbook: " ++ path
  | compiling root => "Compiling root sheet '" ++ root ++ "'"
  | resolving sheet referrer row subProcess =>
    "Resolving '" ++ sheet ++ "' from '" ++ referrer ++ "' row " ++ toString row ++
      " (sub-process=" ++ String.ofList subProcess.quoted ++ ")"
  | scanned sheet firstRow lastRow roots =>
    "Scanned '" ++ sheet ++ "' rows " ++ toString firstRow ++ "-" ++ toString lastRow ++ ": " ++
      toString roots ++ " root nodes"
  | built root roots nodes =>
    "Built tree for '" ++ root ++ "': " ++ toString roots ++ " root nodes, " ++ toString nodes ++
      " nodes total"
  | columnWithoutPage page tag type =>
    "No page '" ++ page.display ++ "' for reference column '" ++ tag.display ++ "' -> '" ++
      type.display ++ "'"
  | childrenSkipped tag pages =>
    "Skipping children of '" ++ tag.display ++ "': pages " ++
      (Value.list (pages.map .cell)).display ++ " already flattened"
  | flattened root pages columns =>
    "Flattened '" ++ root.display ++ "' into " ++ toString pages ++ " pages, " ++
      toString columns ++ " columns"
  | retitled page title => "Page '" ++ page ++ "' written as sheet '" ++ title ++ "'"
  | reported path => "Generated pages report: " ++ path
  | workbookMissing path => "Excel file not found: " ++ path
  | failed message => "Error: " ++ message

end Event

/-- The events of a run, in order. -/
abbrev Journal := Array Event

end SheetSchema
