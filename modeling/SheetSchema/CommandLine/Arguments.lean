import SheetSchema.Text.Digit

/-!
Command line arguments. The first argument that is no option names the command; after it come
one workbook and the options of the command, in any order. An option is known by its name or by a
beginning of it that fits no other, and takes its value from behind an equals sign or from the
next argument. After `--` nothing is an option.
-/
namespace SheetSchema.CommandLine

inductive Command
  | tree
  | pages
  deriving DecidableEq, Repr

inductive Format
  | xlsx
  | markdown
  deriving DecidableEq, Repr

structure Options where
  command : Command
  workbook : String
  config : String := "config.yaml"
  rootSheet : Option String := none
  logLevel : Option String := none
  output : Option String := none
  format : Format := .xlsx
  deriving DecidableEq, Repr

/-- What the arguments ask for. -/
inductive Request
  | run (options : Options)
  | help
  | rejected
  deriving DecidableEq, Repr

inductive Flag
  | help
  | config
  | rootSheet
  | logLevel
  | output
  | format
  deriving DecidableEq, Repr

/-- The long names of the options that both commands have. -/
def sharedNames : List (String × Flag) := [
  ("--help", .help), ("--config", .config), ("--root-sheet", .rootSheet),
  ("--log-level", .logLevel)]

/-- The long names of the options of a command; before the command there is only `--help`. -/
def longNames : Option Command → List (String × Flag)
  | none => [("--help", .help)]
  | some .tree => sharedNames
  | some .pages => sharedNames ++ [("--output", .output), ("--format", .format)]

/-- An argument by its role. -/
inductive Token
  | argument (text : String)
  | separator
  /-- An option, with what is written behind its name: letters behind a short name, or the value
  behind an equals sign. -/
  | option (flag : Flag) (short : Bool) (attached : Option String)
  | unknownOption
  /-- An option whose name fits several. -/
  | ambiguousOption
  deriving DecidableEq, Repr

/-- A text before and after its first equals sign. -/
def splitEquals (text : List Char) : List Char × Option (List Char) :=
  let (before, after) := text.span (· ≠ '=')
  (before, if after.isEmpty then none else some (after.drop 1))

/-- Negative numbers are values and not options. -/
def isNegativeNumber (text : List Char) : Bool :=
  match text with
  | '-' :: rest =>
    let rest := if rest.getLast? = some '\n' then rest.dropLast else rest
    let (whole, fraction) := rest.span Text.isDigit
    match fraction with
    | [] => !whole.isEmpty
    | '.' :: digits => !digits.isEmpty && digits.all Text.isDigit
    | _ => false
  | _ => false

/-- The role of an argument before the separator. -/
def tokenOf (command : Option Command) (text : String) : Token :=
  let cs := text.toList
  let (name, attached) := splitEquals cs
  let value := attached.map String.ofList
  match cs with
  | '-' :: second :: rest =>
    if text = "-h" then .option .help true none
    else if name = ['-', 'h'] then .option .help true value
    else
      match (longNames command).lookup (String.ofList name) with
      | some flag => .option flag false value
      | none =>
        let fitting :=
          if second = '-' then (longNames command).filter fun entry =>
            name.isPrefixOf entry.1.toList
          else []
        match fitting with
        | [entry] => .option entry.2 false value
        | _ :: _ => .ambiguousOption
        | [] =>
          if second = 'h' then .option .help true (some (String.ofList rest))
          else if isNegativeNumber cs ∨ ' ' ∈ cs then .argument text
          else .unknownOption
  | _ => .argument text

/-- The roles of all arguments. -/
def tokens (command : Option Command) : List String → List Token
  | [] => []
  | text :: rest =>
    if text = "--" then .separator :: rest.map .argument
    else tokenOf command text :: tokens command rest

/-- Whether help is asked for, given what is attached to the option: behind the short name each
further `h` asks again, and nothing else may follow. -/
def asksHelp (short : Bool) : Option String → Bool
  | none => true
  | some attached => short && attached != "" && attached.toList.all (· == 'h')

/-- The options with a value given to one of them. -/
def setFlag (options : Options) (flag : Flag) (value : String) : Option Options :=
  match flag with
  | .help => none
  | .config => some { options with config := value }
  | .rootSheet => some { options with rootSheet := some value }
  | .logLevel => some { options with logLevel := some value }
  | .output => some { options with output := some value }
  | .format =>
    if value = "xlsx" then some { options with format := .xlsx }
    else if value = "markdown" then some { options with format := .markdown }
    else none

/-- The options without a value for one of them. -/
def resetFlag (options : Options) : Flag → Options
  | .help => options
  | .config => { options with config := "" }
  | .rootSheet => { options with rootSheet := none }
  | .logLevel => { options with logLevel := none }
  | .output => { options with output := none }
  | .format => { options with format := .xlsx }

/-- The options with a value from behind an equals sign. The separator is no value there: it takes
back what the option was given before. -/
def setAttached (options : Options) (flag : Flag) (value : String) : Option Options :=
  if value = "--" then some (resetFlag options flag) else setFlag options flag value

/-- Read the arguments of a command. `named` tells whether the workbook was named, and `surplus`
whether something was met that has no place, which is refused only at the end. -/
def readTokens (options : Options) (named surplus : Bool) : List Token → Request
  | [] => if named && !surplus then .run options else .rejected
  | .unknownOption :: rest => readTokens options named true rest
  | .ambiguousOption :: _ => .rejected
  | .option .help short attached :: _ => if asksHelp short attached then .help else .rejected
  | .option flag _ (some value) :: rest =>
    match setAttached options flag value with
    | some options => readTokens options named surplus rest
    | none => .rejected
  | .option flag _ none :: .argument value :: rest =>
    match setFlag options flag value with
    | some options => readTokens options named surplus rest
    | none => .rejected
  | .option _ _ none :: _ => .rejected
  | .argument text :: .separator :: rest =>
    if named then readTokens options named true rest
    else readTokens { options with workbook := text } true surplus rest
  | .argument text :: rest =>
    if named then readTokens options named true rest
    else readTokens { options with workbook := text } true surplus rest
  | .separator :: .argument text :: rest =>
    if named then readTokens options named true rest
    else readTokens { options with workbook := text } true surplus rest
  | .separator :: rest => readTokens options named true rest

def commandOf? : String → Option Command
  | "tree" => some .tree
  | "pages" => some .pages
  | _ => none

/-- Read all arguments. `surplus` tells whether an unknown option was met. -/
def readArguments (surplus : Bool) : List String → Request
  | [] => .rejected
  | text :: rest =>
    if text = "--" then .rejected
    else
      match tokenOf none text with
      | .option .help short attached => if asksHelp short attached then .help else .rejected
      | .unknownOption => readArguments true rest
      | .argument name =>
        match commandOf? name with
        | some command =>
          let tokens := tokens (some command) rest
          if tokens.contains .ambiguousOption then .rejected
          else readTokens { command, workbook := "" } false surplus tokens
        | none => .rejected
      | _ => .rejected

/-- What a command line asks for. -/
def request (arguments : List String) : Request := readArguments false arguments

end SheetSchema.CommandLine
