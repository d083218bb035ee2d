import Mathlib.Data.Int.Range
import SheetSchema.Build
import SheetSchema.Grid
import SheetSchema.Proofs.Computation

/-! Building over a plain grid, without a state. Nothing that a build does changes what a grid
shows, so its outcome is a function of the grid alone, with the same recursion over the chain of
sheets that are being read. -/
namespace SheetSchema

/-- What the requested sheet is read in. -/
def Request.scope (request : Request) : Scope :=
  { sheet := request.sheet, isRoot := false, subProcess := request.subProcess,
    pattern := request.pattern }

/-- What the root sheet is read in. -/
def rootScope (root : String) : Scope :=
  { sheet := root, isRoot := true, subProcess := .null, pattern := "" }

def Layout.firstRow (layout : Layout) (isRoot : Bool) : Int :=
  if isRoot then layout.rootFirstRow else layout.referenceFirstRow

namespace Grid

variable (grid : Grid) (vocabulary : Vocabulary)

def row (sheet : String) (number : Int) : Row :=
  let layout := vocabulary.layout
  let hierarchy := (List.range layout.hierarchyColumns.toNat).map fun (column : Nat) =>
    grid.shown sheet number (column + 1)
  { number
    path := hierarchy.filter (!·.isVoid)
    name := grid.shown sheet number layout.nameColumn
    type := grid.shown sheet number layout.typeColumn
    notes := grid.shown sheet number layout.notesColumn }

/-- The data rows of a sheet, as the root or as a referenced sheet: those from the first one up to
and with the last one. -/
def dataRows (isRoot : Bool) (sheet : String) : List Row :=
  (Int.range (vocabulary.layout.firstRow isRoot) (grid.rowExtent sheet + 1)).map
    (grid.row vocabulary sheet)

end Grid

/-- A row as an entry of its sheet, given the content of what it requests. -/
def Row.entry (vocabulary : Vocabulary) (content : Request → Except BuildError (Forest Node))
    (scope : Scope) (row : Row) : Except BuildError Sketch.Entry := do
  if !row.hasMeaning vocabulary scope then throw (.meaninglessRow scope.sheet row.number)
  let children ←
    match row.request? vocabulary scope with
    | some request => content request
    | none => pure .nil
  match row.node? vocabulary scope with
  | some node => return (row.path, .tree node children)
  | none => return (row.path, .nil)

namespace Grid

variable (grid : Grid) (vocabulary : Vocabulary)

@[simp] theorem source_sheets {σ : Type} : (grid.source : Source σ).sheets = grid.sheets := rfl

/-- The forest of a sheet, given the content of what its rows request. -/
def forest (content : Request → Except BuildError (Forest Node)) (scope : Scope) :
    Except BuildError (Forest Node) := do
  let entries ← (grid.dataRows vocabulary scope.isRoot scope.sheet).mapM
    (Row.entry vocabulary content scope)
  return Sketch.assemble scope.sheet entries

def suggestions (sheet : String) : List String :=
  Build.suggestions (grid.source : Source Unit) sheet

/-- The content that a request asks for below a chain of sheets. -/
def content (chain : List String) (request : Request) : Except BuildError (Forest Node) :=
  if _ : request.sheet ∈ chain then
    .error (.schema (.circularReference (chain ++ [request.sheet])))
  else if _ : request.sheet ∈ grid.sheets then
    if grid.rowExtent request.sheet < vocabulary.layout.referenceFirstRow then
      .error (.schema (.emptyDefinition request.sheet))
    else grid.forest vocabulary (fun inner => content (chain ++ [request.sheet]) inner)
      request.scope
  else
    .error (.schema (.unresolvedReference request.sheet (grid.suggestions request.sheet)
      request.referrer (.cell (.int request.row))))
termination_by (Build.unopened (grid.source : Source Unit) chain).length
decreasing_by exact Build.length_unopened_lt _ ‹_› ‹_›

def schema (root : String) : Except BuildError Schema :=
  if root ∉ grid.sheets then
    .error (.schema (.missingDefinition root (grid.suggestions root)))
  else if grid.rowExtent root < vocabulary.layout.rootFirstRow then
    .error (.schema (.emptyDefinition root))
  else do
    let layout := vocabulary.layout
    let forest ← grid.forest vocabulary (grid.content vocabulary [root]) (rootScope root)
    return {
      description := grid.shown root layout.descriptionCell.1 layout.descriptionCell.2
      version := grid.shown root layout.versionCell.1 layout.versionCell.2
      forest }

end Grid

namespace Build

variable {σ α β : Type}

/-- A computation whose outcome does not depend on the progress of the build. -/
def Gives (m : BuildM σ α) (outcome : Except BuildError α) : Prop :=
  ∀ progress, (m.run progress).1 = outcome

namespace Gives

theorem pure (value : α) : Gives (Pure.pure value : BuildM σ α) (.ok value) := fun _ => rfl

theorem refuse (error : SchemaError) :
    Gives (Build.refuse error : BuildM σ α) (.error (.schema error)) := fun _ => rfl

theorem bind {m : BuildM σ α} {f : α → BuildM σ β} {outcome : Except BuildError α}
    {g : α → Except BuildError β} (hm : Gives m outcome) (hf : ∀ value, Gives (f value) (g value)) :
    Gives (m >>= f) (outcome >>= g) := by
  intro progress
  have h := hm progress
  rw [run_bind]
  rcases hr : m.run progress with ⟨_ | value, after⟩
  · rw [hr] at h
    subst h
    rfl
  · rw [hr] at h
    subst h
    exact hf value after

theorem bind_ok {m : BuildM σ α} {f : α → BuildM σ β} {value : α} {outcome : Except BuildError β}
    (hm : Gives m (.ok value)) (hf : Gives (f value) outcome) : Gives (m >>= f) outcome := by
  intro progress
  have h := hm progress
  rw [run_bind]
  rcases hr : m.run progress with ⟨_ | other, after⟩
  · rw [hr] at h
    contradiction
  · rw [hr] at h
    cases h
    exact hf after

theorem bind_error {m : BuildM σ α} {f : α → BuildM σ β} {error : BuildError}
    (hm : Gives m (.error error)) : Gives (m >>= f) (.error error) := by
  intro progress
  have h := hm progress
  rw [run_bind]
  rcases hr : m.run progress with ⟨other | _, after⟩
  · rw [hr] at h
    cases h
    rfl
  · rw [hr] at h
    contradiction

theorem mapM {f : α → BuildM σ β} {g : α → Except BuildError β} (h : ∀ a, Gives (f a) (g a))
    (items : List α) : Gives (items.mapM f) (items.mapM g) := by
  induction items with
  | nil => exact pure []
  | cons a rest ih =>
    rw [List.mapM_cons, List.mapM_cons]
    exact (h a).bind fun _ => ih.bind fun _ => pure _

theorem mapM_ok {f : α → BuildM σ β} {g : α → β} (h : ∀ a, Gives (f a) (.ok (g a)))
    (items : List α) : Gives (items.mapM f) (.ok (items.map g)) := by
  induction items with
  | nil => exact pure []
  | cons a rest ih =>
    rw [List.mapM_cons]
    exact (h a).bind_ok (ih.bind_ok (pure _))

end Gives

variable (grid : Grid) (vocabulary : Vocabulary)

theorem look_gives (sheet : String) (row col : Int) :
    Gives (look (grid.source : Source σ) sheet row col) (.ok (grid.shown sheet row col)) :=
  fun _ => rfl

theorem rowExtent_gives (sheet : String) :
    Gives (rowExtent (grid.source : Source σ) sheet) (.ok (grid.rowExtent sheet)) :=
  fun _ => rfl

theorem recalculate_gives (source : Source σ) (sheet : String) :
    Gives (recalculate source sheet) (.ok ()) := fun _ => rfl

theorem report_gives (event : Event) : Gives (report event : BuildM σ Unit) (.ok ()) :=
  fun _ => rfl

/-- Opening a sheet, with what is done with its last row. -/
theorem openSheet_gives {sheet : String} {firstRow : Int} {next : Int → BuildM σ α}
    {outcome : Except BuildError α} (h : Gives (next (grid.rowExtent sheet)) outcome) :
    Gives (openSheet (grid.source : Source σ) sheet firstRow >>= next)
      (if grid.rowExtent sheet < firstRow then .error (.schema (.emptyDefinition sheet))
        else outcome) := by
  by_cases hlt : grid.rowExtent sheet < firstRow
  · rw [if_pos hlt]
    refine Gives.bind_error ((rowExtent_gives grid sheet).bind_ok ?_)
    simp only [hlt, ↓reduceIte]
    exact (Gives.refuse _).bind_error
  · rw [if_neg hlt]
    refine Gives.bind_ok ((rowExtent_gives grid sheet).bind_ok ?_) h
    simp only [hlt, ↓reduceIte]
    exact (recalculate_gives _ sheet).bind_ok (Gives.pure _)

theorem readRow_gives (sheet : String) (number : Int) :
    Gives (readRow (grid.source : Source σ) vocabulary sheet number)
      (.ok (grid.row vocabulary sheet number)) := by
  refine (Gives.mapM_ok (fun column => look_gives grid sheet number _) _).bind_ok ?_
  apply (look_gives grid sheet number _).bind_ok
  apply (look_gives grid sheet number _).bind_ok
  exact (look_gives grid sheet number _).bind_ok (Gives.pure _)

section Rows

variable {resolve : Request → BuildM σ (Forest Node)}
  {content : Request → Except BuildError (Forest Node)}

theorem readEntry_gives (h : ∀ request, Gives (resolve request) (content request)) (scope : Scope)
    (number : Int) :
    Gives (readEntry (grid.source : Source σ) vocabulary resolve scope number)
      (Row.entry vocabulary content scope (grid.row vocabulary scope.sheet number)) := by
  apply (readRow_gives grid vocabulary scope.sheet number).bind_ok
  unfold Row.entry
  cases hm : (grid.row vocabulary scope.sheet number).hasMeaning vocabulary scope with
  | false => exact fun _ => rfl
  | true =>
    cases hr : (grid.row vocabulary scope.sheet number).request? vocabulary scope with
    | none =>
      cases hn : (grid.row vocabulary scope.sheet number).node? vocabulary scope <;>
        exact fun _ => rfl
    | some request =>
      refine (h request).bind fun children => ?_
      cases hn : (grid.row vocabulary scope.sheet number).node? vocabulary scope <;>
        exact fun _ => rfl

/-- How a row that requests a content and is a node is read, from one progress to another. -/
theorem run_readEntry {source : Source σ} {scope : Scope} {number : Int} {node : Node}
    {children : Forest Node} {before between after : Progress σ} (row : Row) (request : Request)
    (hrow : (readRow source vocabulary scope.sheet number).run before = (.ok row, between))
    (hmeaning : row.hasMeaning vocabulary scope = true)
    (hrequest : row.request? vocabulary scope = some request)
    (hnode : row.node? vocabulary scope = some node)
    (hcontent : (resolve request).run between = (.ok children, after)) :
    (readEntry source vocabulary resolve scope number).run before =
      (.ok (row.path, .tree node children), after) := by
  refine run_bind_eq_ok_iff.2 ⟨row, between, hrow, ?_⟩
  simp only [hmeaning, hrequest, hnode]
  exact run_bind_eq_ok_iff.2 ⟨children, after, hcontent, rfl⟩

/-- A scan goes over the rows from the first one up to and with the last one. -/
theorem rowNumbers_eq_range (firstRow lastRow : Int) :
    rowNumbers firstRow lastRow = Int.range firstRow (lastRow + 1) := rfl

theorem scan_gives (h : ∀ request, Gives (resolve request) (content request)) (scope : Scope) :
    Gives
      (scan (grid.source : Source σ) vocabulary resolve scope
        (vocabulary.layout.firstRow scope.isRoot) (grid.rowExtent scope.sheet))
      (grid.forest vocabulary content scope) := by
  rw [Grid.forest, Grid.dataRows, ← rowNumbers_eq_range, List.mapM_map]
  refine (Gives.mapM (readEntry_gives grid vocabulary h scope) _).bind fun entries => ?_
  exact (report_gives _).bind_ok (Gives.pure _)

end Rows

theorem resolve_gives (chain : List String) (request : Request) :
    Gives (resolve (grid.source : Source σ) vocabulary chain request)
      (grid.content vocabulary chain request) := by
  rw [resolve, Grid.content]
  by_cases hc : request.sheet ∈ chain
  · simp only [hc, ↓reduceDIte]
    exact Gives.refuse _
  · by_cases hs : request.sheet ∈ grid.sheets
    · simp only [hc, hs, Grid.source_sheets, ↓reduceDIte]
      apply openSheet_gives grid
      apply (report_gives _).bind_ok
      exact scan_gives grid vocabulary
        (fun inner => resolve_gives (chain ++ [request.sheet]) inner) request.scope
    · simp only [hc, hs, Grid.source_sheets, ↓reduceDIte]
      exact Gives.refuse _
termination_by (unopened (grid.source : Source Unit) chain).length
decreasing_by exact length_unopened_lt _ hs hc

/-- Opening the root sheet, with what is done with its last row. -/
theorem openRoot_gives {root : String} {next : Int → BuildM σ α} {outcome : Except BuildError α}
    (h : Gives (next (grid.rowExtent root)) outcome) :
    Gives (openRoot (grid.source : Source σ) vocabulary root >>= next)
      (if root ∉ grid.sheets then
        .error (.schema (.missingDefinition root (grid.suggestions root)))
      else if grid.rowExtent root < vocabulary.layout.rootFirstRow then
        .error (.schema (.emptyDefinition root))
      else outcome) := by
  by_cases hr : root ∈ grid.sheets
  · simp only [openRoot, Grid.source_sheets, hr, not_true_eq_false, ↓reduceIte]
    exact openSheet_gives grid h
  · simp only [openRoot, Grid.source_sheets, hr, not_false_eq_true, ↓reduceIte]
    exact ((Gives.refuse _).bind_error).bind_error

theorem schema_gives (root : String) :
    Gives (schema (grid.source : Source σ) vocabulary root) (grid.schema vocabulary root) := by
  apply openRoot_gives grid vocabulary
  apply (look_gives grid root _ _).bind_ok
  apply (look_gives grid root _ _).bind_ok
  refine (scan_gives grid vocabulary (resolve_gives grid vocabulary [root])
    (rootScope root)).bind fun forest => ?_
  exact (report_gives _).bind_ok (Gives.pure _)

end Build

/-- A build over a grid has the outcome that the grid alone determines. -/
theorem build_grid {σ : Type} (grid : Grid) (vocabulary : Vocabulary) (root : String) (state : σ)
    (journal : Journal) :
    (build grid.source vocabulary root state journal).1 = grid.schema vocabulary root :=
  Build.schema_gives grid vocabulary root _

end SheetSchema
