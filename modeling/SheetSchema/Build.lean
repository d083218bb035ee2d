import SheetSchema.Journal
import SheetSchema.Row
import SheetSchema.SchemaError
import SheetSchema.Sketch
import SheetSchema.Source
import SheetSchema.Suggestion

/-!
Building the forest of a root sheet. Every sheet that is opened is recalculated once, before
its first cell is looked at. The content of a referenced sheet is built anew for every reference
to it. A sheet cannot be referred to while it is being read; since a reference to a sheet that
does not exist fails too, the sheets that are not being read get fewer with every nested
reference, and building ends.
-/
namespace SheetSchema

inductive BuildError
  | schema (error : SchemaError)
  | access (error : AccessError)
  /-- A row that shows a value without a meaning in its place. -/
  | meaninglessRow (sheet : String) (row : Int)
  deriving DecidableEq, Repr

/-- The state of a build, which outlives its failure. -/
structure Progress (σ : Type) where
  source : σ
  /-- The sheets recalculated so far, in order. -/
  recalculated : List String := []
  journal : Journal := #[]

abbrev BuildM (σ : Type) := ExceptT BuildError (StateM (Progress σ))

/-- A compiled root sheet: what its description and version cells show, and its forest. -/
structure Schema where
  description : Value
  version : Value
  forest : Forest Node
  deriving DecidableEq, Repr

namespace Build

variable {σ : Type} (source : Source σ) (vocabulary : Vocabulary)

def report (event : Event) : BuildM σ Unit :=
  modify fun progress => { progress with journal := progress.journal.push event }

def refuse {α : Type} (error : SchemaError) : BuildM σ α := throw (.schema error)

/-- What a cell shows. -/
def look (sheet : String) (row col : Int) : BuildM σ Value := do
  let progress ← get
  let (outcome, state) := source.shown sheet row col progress.source
  set { progress with source := state }
  match outcome with
  | .ok value => return value
  | .error error => throw (.access error)

def rowExtent (sheet : String) : BuildM σ Int := do
  match source.rowExtent sheet (← get).source with
  | .ok extent => return extent
  | .error error => throw (.access error)

/-- Recalculate a sheet unless this build has done so. -/
def recalculate (sheet : String) : BuildM σ Unit :=
  modify fun progress =>
    if sheet ∈ progress.recalculated then progress
    else { progress with
      source := source.recalculate sheet progress.source
      recalculated := progress.recalculated ++ [sheet] }

/-- Open an existing sheet, which has to reach its first data row, and give its last row. -/
def openSheet (sheet : String) (firstRow : Int) : BuildM σ Int := do
  let extent ← rowExtent source sheet
  if extent < firstRow then refuse (.emptyDefinition sheet)
  recalculate source sheet
  return extent

/-- The sheets that a missing one may have been meant for, in the order of their names. -/
def suggestions (sheet : String) : List String :=
  Suggestion.similar sheet (source.sheets.eraseDups.mergeSort fun a b => decide (a ≤ b))

/-- A row, looked at from its first hierarchy column to its notes. -/
def readRow (sheet : String) (number : Int) : BuildM σ Row := do
  let layout := vocabulary.layout
  let hierarchy ← (List.range layout.hierarchyColumns.toNat).mapM fun (column : Nat) =>
    look source sheet number (column + 1)
  let name ← look source sheet number layout.nameColumn
  let type ← look source sheet number layout.typeColumn
  let notes ← look source sheet number layout.notesColumn
  return { number, path := hierarchy.filter (!·.isVoid), name, type, notes }

/-- A row as an entry of its sheet, with the content that it requests. -/
def readEntry (resolve : Request → BuildM σ (Forest Node)) (scope : Scope) (number : Int) :
    BuildM σ Sketch.Entry := do
  let row ← readRow source vocabulary scope.sheet number
  if !row.hasMeaning vocabulary scope then throw (.meaninglessRow scope.sheet number)
  let children ←
    match row.request? vocabulary scope with
    | some request => resolve request
    | none => pure .nil
  match row.node? vocabulary scope with
  | some node => return (row.path, .tree node children)
  | none => return (row.path, .nil)

def rowNumbers (firstRow lastRow : Int) : List Int :=
  (List.range (lastRow + 1 - firstRow).toNat).map fun (offset : Nat) => firstRow + offset

/-- The forest of an open sheet. -/
def scan (resolve : Request → BuildM σ (Forest Node)) (scope : Scope) (firstRow lastRow : Int) :
    BuildM σ (Forest Node) := do
  let entries ← (rowNumbers firstRow lastRow).mapM
    (readEntry source vocabulary resolve scope)
  let forest := Sketch.assemble scope.sheet entries
  report (.scanned scope.sheet firstRow lastRow forest.roots.length)
  return forest

/-- The sheets that are not in a chain. -/
def unopened (chain : List String) : List String := source.sheets.filter (· ∉ chain)

theorem length_unopened_lt {chain : List String} {sheet : String} (hs : sheet ∈ source.sheets)
    (hc : sheet ∉ chain) :
    (unopened source (chain ++ [sheet])).length < (unopened source chain).length := by
  have : unopened source (chain ++ [sheet]) = (unopened source chain).filter (· ≠ sheet) := by
    simp [unopened, List.filter_filter, Bool.and_comm]
  rw [this]
  refine List.length_filter_lt_length_iff_exists.2 ⟨sheet, ?_, by simp⟩
  simp [unopened, hs, hc]

/-- The content that a request asks for, `chain` being the sheets that are being read, from the
root to the referrer. -/
def resolve (chain : List String) (request : Request) : BuildM σ (Forest Node) :=
  if _ : request.sheet ∈ chain then
    refuse (.circularReference (chain ++ [request.sheet]))
  else if _ : request.sheet ∈ source.sheets then do
    let firstRow := vocabulary.layout.referenceFirstRow
    let lastRow ← openSheet source request.sheet firstRow
    report (.resolving request.sheet request.referrer request.row request.subProcess)
    scan source vocabulary (fun inner => resolve (chain ++ [request.sheet]) inner)
      { sheet := request.sheet, isRoot := false, subProcess := request.subProcess,
        pattern := request.pattern }
      firstRow lastRow
  else
    refuse (.unresolvedReference request.sheet (suggestions source request.sheet)
      request.referrer (.cell (.int request.row)))
termination_by (unopened source chain).length
decreasing_by exact length_unopened_lt source ‹_› ‹_›

/-- Open the root sheet and give its last row. -/
def openRoot (root : String) : BuildM σ Int := do
  if root ∉ source.sheets then
    refuse (.missingDefinition root (suggestions source root))
  openSheet source root vocabulary.layout.rootFirstRow

/-- Compile the root sheet. -/
def schema (root : String) : BuildM σ Schema := do
  let lastRow ← openRoot source vocabulary root
  let layout := vocabulary.layout
  let description ← look source root layout.descriptionCell.1 layout.descriptionCell.2
  let version ← look source root layout.versionCell.1 layout.versionCell.2
  let forest ← scan source vocabulary (resolve source vocabulary [root])
    { sheet := root, isRoot := true, subProcess := .null, pattern := "" }
    layout.rootFirstRow lastRow
  report (.built root forest.roots.length forest.size)
  return { description, version, forest }

end Build

/-- Build the schema of a root sheet, from a state of the source and a journal so far. -/
def build {σ : Type} (source : Source σ) (vocabulary : Vocabulary) (root : String) (state : σ)
    (journal : Journal := #[]) : Except BuildError Schema × Progress σ :=
  (Build.schema source vocabulary root).run { source := state, journal }

end SheetSchema
