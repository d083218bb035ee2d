import SheetSchema.Build

/-!
Layouts that are given as tables of values. A position that is given as something else than a
number is kept as a number behind all sheets, and a source can be guarded against looking there.
Whether the cells of the description and the version have two parts shows when they are used.
-/
namespace SheetSchema

namespace Position

/-- Where nothing stands: the position that another single value than a number gives. -/
def nowhere : Int := Binary64.pow10 40

/-- The position that a collection gives, behind `nowhere`. -/
def beyond : Int := Binary64.pow10 41

def ofValue : Value → Int
  | .cell (.int n) => n
  | .cell (.bool b) => if b then 1 else 0
  | .cell _ => nowhere
  | _ => beyond

end Position

/-- A source in which positions from a bound on cannot be looked at. A row that is not on the
sheet is refused as such, whatever the column is. -/
def Source.guard {σ : Type} (source : Source σ) (bound : Int) : Source σ :=
  { source with
    shown := fun sheet row col state =>
      if bound ≤ row ∨ (1 ≤ row ∧ bound ≤ col) then (.error .noPosition, state)
      else source.shown sheet row col state }

/-- The parts of a layout by their names. -/
def Layout.entries (layout : Layout) : List (String × Value) :=
  let number (n : Int) : Value := .cell (.int n)
  let place (cell : Int × Int) : Value := .list [number cell.1, number cell.2]
  [("hierarchy_columns", number layout.hierarchyColumns),
    ("name_column", number layout.nameColumn),
    ("type_column", number layout.typeColumn),
    ("notes_column", number layout.notesColumn),
    ("root_first_row", number layout.rootFirstRow),
    ("reference_first_row", number layout.referenceFirstRow),
    ("description_cell", place layout.descriptionCell),
    ("version_cell", place layout.versionCell)]

structure GivenLayout where
  layout : Layout := {}
  /-- A cell of the layout without two parts. -/
  flaw : Option Value.PairError := none
  deriving Inhabited

/-- Why a build with a given layout fails. -/
inductive GivenLayoutError
  | flaw (error : Value.PairError)
  | build (error : BuildError)

namespace GivenLayout

/-- The place that the parts of a value name. -/
def place (v : Value) : Except Value.PairError (Int × Int) :=
  v.pair.map fun parts => (Position.ofValue parts.1, Position.ofValue parts.2)

/-- The layout of its parts. Without a number of hierarchy columns none is looked at, nor is
anything behind them. -/
def ofParts (part : String → Value) : GivenLayout :=
  let position (key : String) : Int := Position.ofValue (part key)
  let columns := position "hierarchy_columns"
  let layout : Layout := {
    hierarchyColumns := if columns < Position.nowhere then columns else 0
    nameColumn := if columns < Position.nowhere then position "name_column" else Position.beyond
    typeColumn := position "type_column"
    notesColumn := position "notes_column"
    rootFirstRow := position "root_first_row"
    referenceFirstRow := position "reference_first_row" }
  match place (part "description_cell"), place (part "version_cell") with
  | .ok descriptionCell, .ok versionCell =>
    { layout := { layout with descriptionCell, versionCell } }
  | .error flaw, _ => { layout, flaw := some flaw }
  | _, .error flaw => { layout, flaw := some flaw }

/-- The layout that a table describes, unless it names other parts. A part that is not there, or
null, is the usual one. -/
def ofTable? (table : List (String × Value)) : Option GivenLayout :=
  let usual := ({} : Layout).entries
  if table.all fun entry => (usual.lookup entry.1).isSome then
    some (ofParts fun key =>
      ((table.lookup key).filter (· ≠ .null)).getD ((usual.lookup key).getD .null))
  else none

/-- An error of a build. That a sheet ends before its first data row has another cause if that row
is no number. -/
def buildError (given : GivenLayout) (root : String) (error : BuildError) : GivenLayoutError :=
  match error with
  | .schema (.emptyDefinition sheet) =>
    let firstRow :=
      if sheet = .str root then given.layout.rootFirstRow else given.layout.referenceFirstRow
    if Position.nowhere ≤ firstRow then .build (.access .noPosition) else .build error
  | error => .build error

/-- Build the schema of a root sheet with a given layout on a source with a bound. A flaw of the
layout shows once the root sheet is open. -/
def build {σ : Type} (given : GivenLayout) (source : Source σ) (bound : Int)
    (vocabulary : Vocabulary) (root : String) (state : σ) :
    Except GivenLayoutError Schema × Progress σ :=
  let source := source.guard bound
  let vocabulary := { vocabulary with layout := given.layout }
  match given.flaw with
  | none =>
    let (outcome, progress) := SheetSchema.build source vocabulary root state
    (outcome.mapError (given.buildError root), progress)
  | some flaw =>
    let (outcome, progress) := (Build.openRoot source vocabulary root).run { source := state }
    (outcome.mapError (given.buildError root) >>= fun _ => .error (.flaw flaw), progress)

end GivenLayout

end SheetSchema
