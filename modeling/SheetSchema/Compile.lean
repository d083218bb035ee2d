import SheetSchema.Build
import SheetSchema.Flatten
import SheetSchema.Settings

/-!
Compiling a root sheet under settings: the tree alone, or the tree and the pages that it is
flattened onto. Errors of the build are reported together with the root sheet.
-/
namespace SheetSchema

inductive CompileError
  | settings (error : SettingsError)
  /-- The settings name no text as the root sheet. -/
  | rootNotText (root : Value)
  | access (error : AccessError)
  | meaninglessRow (sheet : String) (row : Int)
  | namelessTemplate
  /-- The compilation of a root sheet failed. -/
  | schema (root : String) (cause : SchemaError)

/-- The error as it is reported, for those that concern the definitions. -/
def CompileError.schemaError? : CompileError → Option SchemaError
  | schema root cause => some (.compilation root cause)
  | _ => none

/-- The state of a compilation, which outlives its failure. -/
structure Compilation (σ : Type) where
  source : σ
  recalculated : List String := []
  journal : Journal := #[]

/-- A schema with the pages of its forest, and the labels that flattening gave to its nodes. -/
structure CompiledPages where
  schema : Schema
  pages : PageSet
  labels : Labels

namespace Compile

/-- The members of a settings entry, which may be absent. -/
def membersOf (settings : Settings) (key : String) : Except SettingsError (List Cell) :=
  let v := settings.getD key
  if v.isVoid then .ok [] else Settings.memberSet v

/-- The vocabulary that settings describe. The layout is read first. -/
def vocabulary (settings : Settings) : Except SettingsError Vocabulary := do
  let layout ← settings.layout
  let subProcesses ← membersOf settings "sub_processes"
  let dataTypes ← membersOf settings "data_types"
  return { subProcesses, dataTypes, layout }

/-- The root sheet: the one asked for, or else that of the settings. -/
def rootOf (settings : Settings) (asked : Value) : Value :=
  if asked.isVoid then settings.getD "root_sheet" else asked

/-- Compile the tree of a root sheet. -/
def tree {σ : Type} (source : Source σ) (settings : Settings) (asked : Value) (state : σ)
    (journal : Journal := #[]) : Except CompileError (String × Schema) × Compilation σ :=
  match vocabulary settings with
  | .error error => (.error (.settings error), { source := state, journal })
  | .ok vocabulary =>
    let root := rootOf settings asked
    let journal := journal.push (.compiling root.display)
    match root with
    | .str root =>
      let (outcome, progress) := build source vocabulary root state journal
      let compilation : Compilation σ :=
        { source := progress.source, recalculated := progress.recalculated,
          journal := progress.journal }
      match outcome with
      | .ok schema => (.ok (root, schema), compilation)
      | .error (.schema cause) => (.error (.schema root cause), compilation)
      | .error (.access error) => (.error (.access error), compilation)
      | .error (.meaninglessRow sheet row) => (.error (.meaninglessRow sheet row), compilation)
    | root => (.error (.rootNotText root), { source := state, journal })

/-- Flatten a compiled schema onto pages of its own. -/
def pagesOf (root : String) (schema : Schema) (journal : Journal) :
    Except FlattenError CompiledPages × Journal :=
  let (outcome, state) :=
    flattenFrom (.str root) schema.forest.vertices { pages := {}, journal }
  (outcome.map fun _ => { schema, pages := state.pages, labels := state.labels }, state.journal)

/-- A failure of flattening as one of compiling. -/
def flattenFailure (root : String) : FlattenError → CompileError
  | .missingPage page tag => .schema root (.missingPage (.cell page) tag)
  | .namelessTemplate => .namelessTemplate

/-- Compile the tree of a root sheet and flatten it. -/
def pages {σ : Type} (source : Source σ) (settings : Settings) (asked : Value) (state : σ)
    (journal : Journal := #[]) : Except CompileError CompiledPages × Compilation σ :=
  let (outcome, compilation) := tree source settings asked state journal
  match outcome with
  | .error error => (.error error, compilation)
  | .ok (root, schema) =>
    let (outcome, journal) := pagesOf root schema compilation.journal
    (outcome.mapError (flattenFailure root), { compilation with journal })

end Compile

end SheetSchema
