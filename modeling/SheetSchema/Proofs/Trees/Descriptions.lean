import SheetSchema.Proofs.Building.WorkbookOutcome
import SheetSchema.Proofs.References.TextGrid

/-! Which description a field gets. While sheets are read, a sub-process and a description pattern are
handed from row to row and from sheet to sheet. What arrives at a row depends on the rows alone whose
types lead to its sheet: the sub-process is the last one that these name, or the path of the row, and
the pattern stands in the notes of the last of them. -/
namespace SheetSchema

namespace TextRow

/-- The last text that is a sub-process. -/
def lastSubProcess (subProcesses : List Cell) (texts : List String) : Option String :=
  (texts.filter fun text => .str text ∈ subProcesses).getLast?

/-- The hierarchy texts and the names of some rows. -/
def context (above : List TextRow) : List String := above.flatMap fun row => row.path ++ [row.name]

/-- The notes of the last of some rows if they are a pattern. -/
def patternOf (above : List TextRow) : String :=
  match above.getLast? with
  | some row => if Placeholder.holds row.notes then row.notes else ""
  | none => ""

/-- The description of the field of a row, `above` being the rows whose types lead to its sheet, from
the root sheet on. -/
def describe (vocabulary : Vocabulary) (above : List TextRow) (row : TextRow) : String :=
  if patternOf above ≠ "" then
    Placeholder.resolve (patternOf above)
      ((lastSubProcess vocabulary.subProcesses (context above ++ row.path)).getD "") row.notes
  else if .str row.type ∉ vocabulary.dataTypes ∧ Placeholder.holds row.notes then ""
  else row.notes

variable (dataTypes : List Cell) (isRoot : Bool)

/-- The node of a row that describes a field or refers to a sheet by its notes, given the description
for a field. -/
def node (sheet : String) (description : String) (row : TextRow) : Node :=
  if row.RefersByNotes dataTypes isRoot then
    { name := .str row.notes
      type := .reference (.str row.notes)
      template := .str sheet
      description := .str (if Placeholder.holds row.notes then "" else row.notes) }
  else
    { name := .str row.name
      type :=
        if .str row.type ∈ dataTypes then .leaf (.str row.type)
        else if row.type = "" then .structural else .reference (.str row.type)
      template := .str sheet
      description := .str description }

/-- The rows whose types lead to the sheet that a row refers to. A reference by notes starts anew. -/
def leading (above : List TextRow) (row : TextRow) : List TextRow :=
  if row.RefersByNotes dataTypes isRoot then [] else above ++ [row]

/-- What is entered for a row, given the description of its field and what the sheets that it may
refer to hold. -/
def entry (sheet : String) (describe : List TextRow → TextRow → String)
    (below : List TextRow → String → Forest Node) (above : List TextRow) (row : TextRow) :
    Sketch.Entry :=
  (row.path.map .str,
    if row.IsField isRoot then
      .tree (row.node dataTypes isRoot sheet (describe above row))
        ((row.target? dataTypes isRoot).elim .nil (below (row.leading dataTypes isRoot above)))
    else .nil)

end TextRow

/-- The forest of a sheet and of all that its rows refer to, given the descriptions of the fields,
each told by the rows whose types lead to its sheet and by its own row. -/
def TextGrid.tree (grid : TextGrid) (vocabulary : Vocabulary)
    (describe : List TextRow → TextRow → String) (chain : List String) (isRoot : Bool)
    (above : List TextRow) (sheet : String) : Forest Node :=
  Sketch.assemble sheet <|
    (grid.dataRows vocabulary.layout isRoot sheet).map fun row =>
      row.entry vocabulary.dataTypes isRoot sheet describe
        (fun above target =>
          if _ : target ∈ chain then .nil
          else if _ : target ∈ grid.sheets then
            grid.tree vocabulary describe (chain ++ [target]) false above target
          else .nil)
        above
termination_by (Build.unopened (grid.toGrid.source : Source Unit) chain).length
decreasing_by exact Build.length_unopened_lt (grid.toGrid.source : Source Unit) ‹_› ‹_›

/-- What a scope hands over comes from the rows whose types lead to its sheet. -/
structure Scope.Inherits (vocabulary : Vocabulary) (scope : Scope) (above : List TextRow) : Prop where
  subProcess : scope.subProcess =
    ((TextRow.lastSubProcess vocabulary.subProcesses (TextRow.context above)).map .str).getD .null
  pattern : scope.pattern = TextRow.patternOf above
  root : scope.isRoot = true → above = []

/-- No row leads to the root sheet. -/
theorem inherits_rootScope (vocabulary : Vocabulary) (root : String) :
    (rootScope root).Inherits vocabulary [] where
  subProcess := rfl
  pattern := rfl
  root := fun _ => rfl

namespace TextRow

variable {vocabulary : Vocabulary} {scope : Scope} {above : List TextRow} (row : TextRow)
  (number : Int)

theorem lastSubProcess_append (subProcesses : List Cell) (texts more : List String) :
    lastSubProcess subProcesses (texts ++ more) =
      (lastSubProcess subProcesses more).or (lastSubProcess subProcesses texts) := by
  rw [lastSubProcess, List.filter_append, List.getLast?_append]
  rfl

theorem filter_isAmong (subProcesses : List Cell) (texts : List String) :
    ((texts.map Value.str).filter (·.isAmong subProcesses)).getLast? =
      (lastSubProcess subProcesses texts).map .str := by
  have hamong : (fun text : String => (Value.str text).isAmong subProcesses) =
      fun text => decide (.str text ∈ subProcesses) := by
    funext text
    rw [Bool.eq_iff_iff, Value.isAmong_str, decide_eq_true_iff]
  rw [lastSubProcess, List.filter_map, List.getLast?_map, Function.comp_def, hamong]

/-- The sub-process of a row is the last one of its path and of the rows that lead to it. -/
theorem subProcess_inherited (h : scope.Inherits vocabulary above) :
    (row.toRow number).subProcess vocabulary scope =
      ((lastSubProcess vocabulary.subProcesses (context above ++ row.path)).map .str).getD .null := by
  rw [lastSubProcess_append, Row.subProcess, h.subProcess]
  change ((((row.path.map Value.str).filter _).getLast?).getD _) = _
  rw [filter_isAmong]
  cases lastSubProcess vocabulary.subProcesses row.path <;> rfl

theorem innerSubProcess_inherited (h : scope.Inherits vocabulary above) :
    (row.toRow number).innerSubProcess vocabulary scope =
      ((lastSubProcess vocabulary.subProcesses (context (above ++ [row]))).map .str).getD .null := by
  have hcontext : context (above ++ [row]) = context above ++ row.path ++ [row.name] := by
    simp [context]
  have htext : (row.toRow number).name = .str row.name := rfl
  rw [hcontext, lastSubProcess_append, Row.innerSubProcess, row.subProcess_inherited number h, htext]
  by_cases hname : Cell.str row.name ∈ vocabulary.subProcesses
  · rw [if_pos (Value.isAmong_str.2 hname)]
    simp [lastSubProcess, hname]
  · rw [if_neg (mt Value.isAmong_str.1 hname)]
    simp [lastSubProcess, hname]

theorem innerPattern_toRow : (row.toRow number).innerPattern = patternOf (above ++ [row]) := by
  rw [patternOf, List.getLast?_concat]
  rfl

theorem asText_getD_null (text : Option String) :
    ((text.map Value.str).getD .null).asText = text.getD "" := by
  cases text <;> rfl

theorem description_inherited (h : scope.Inherits vocabulary above) :
    (row.toRow number).description vocabulary scope = .str (describe vocabulary above row) := by
  have hbasic : (row.toRow number).isBasic vocabulary = decide (.str row.type ∈ vocabulary.dataTypes) := by
    rw [Bool.eq_iff_iff, decide_eq_true_iff]
    exact Value.isAmong_str
  rw [Row.description, h.pattern, row.subProcess_inherited number h, asText_getD_null, describe,
    hbasic]
  by_cases hpattern : patternOf above ≠ ""
  · rw [if_pos hpattern, if_pos hpattern]
    rfl
  · rw [if_neg hpattern, if_neg hpattern]
    by_cases htype : Cell.str row.type ∈ vocabulary.dataTypes
    · simp [htype, toRow]
    · by_cases hnotes : Placeholder.holds row.notes = true <;>
        simp [htype, hnotes, Row.hasPattern, toRow]

theorem node?_inherited (h : scope.Inherits vocabulary above) :
    (row.toRow number).node? vocabulary scope =
      if row.IsField scope.isRoot then
        some (row.node vocabulary.dataTypes scope.isRoot scope.sheet (describe vocabulary above row))
      else none := by
  have hdescription := row.description_inherited number h
  have htype := row.fieldType_toRow vocabulary number
  rw [Row.node?, content_toRow, hdescription, htype, node]
  by_cases hnotes : row.RefersByNotes vocabulary.dataTypes scope.isRoot
  · rw [if_pos hnotes, if_pos hnotes, if_pos (isField_of_refersByNotes hnotes)]
    simp only [toRow, Row.hasPattern, Value.asText_str]
    by_cases hpattern : Placeholder.holds row.notes = true <;> simp [hpattern]
  · rw [if_neg hnotes, if_neg hnotes]
    by_cases hfield : row.IsField scope.isRoot
    · rw [if_pos hfield, if_pos hfield]
      rfl
    · rw [if_neg hfield, if_neg hfield]

/-- What a row hands over comes from the rows that lead to its sheet and, unless it refers by its notes,
from itself. -/
theorem inherits_request (h : scope.Inherits vocabulary above) {request : Request}
    (hr : (row.toRow number).request? vocabulary scope = some request) :
    request.scope.Inherits vocabulary (row.leading vocabulary.dataTypes scope.isRoot above) := by
  rw [Row.request?, content_toRow] at hr
  by_cases hnotes : row.RefersByNotes vocabulary.dataTypes scope.isRoot
  · -- only the root sheet refers by notes, so nothing has been handed over
    rw [if_pos hnotes] at hr
    cases hr
    have habove : above = [] := h.root hnotes.1
    have hpath : row.path = [] := hnotes.2.1
    rw [leading, if_pos hnotes]
    refine ⟨?_, rfl, nofun⟩
    change (row.toRow number).subProcess vocabulary scope = _
    rw [row.subProcess_inherited number h, habove, hpath]
    rfl
  · rw [if_neg hnotes] at hr
    rw [leading, if_neg hnotes]
    by_cases hfield : row.IsField scope.isRoot
    · rw [if_pos hfield] at hr
      dsimp only at hr
      split at hr
      · cases hr
        exact ⟨row.innerSubProcess_inherited number h, row.innerPattern_toRow number, nofun⟩
      · contradiction
    · rw [if_neg hfield] at hr
      contradiction

/-- A row is entered with the description that the rows above it determine. -/
theorem entry_of_entered (h : scope.Inherits vocabulary above)
    {built : Request → Forest Node → Prop} {below : List TextRow → String → Forest Node}
    (hbelow : ∀ request children, built request children →
      ∀ above, request.scope.Inherits vocabulary above → children = below above request.sheet)
    {entry : Sketch.Entry} (entered : (row.toRow number).Entered vocabulary scope built entry) :
    entry = row.entry vocabulary.dataTypes scope.isRoot scope.sheet (describe vocabulary) below
      above := by
  have hnode := row.node?_inherited number h
  have htarget := row.request?_toRow vocabulary scope number
  rw [TextRow.entry]
  cases entered with
  | bare _ bare =>
    rw [bare] at hnode
    have hfield : ¬row.IsField scope.isRoot := fun hfield => by simp [hfield] at hnode
    rw [if_neg hfield]
    rfl
  | field _ field closed =>
    obtain ⟨hfield, hnode⟩ := Option.ite_none_right_eq_some.1 (hnode.symm.trans field)
    rw [closed] at htarget
    rw [if_pos hfield, ← htarget, ← Option.some.inj hnode]
    rfl
  | reference _ field requested content =>
    obtain ⟨hfield, hnode⟩ := Option.ite_none_right_eq_some.1 (hnode.symm.trans field)
    rw [requested] at htarget
    rw [if_pos hfield, ← htarget, ← Option.some.inj hnode,
      hbelow _ _ content _ (row.inherits_request number h requested)]
    rfl

end TextRow

namespace TextGrid

variable {grid : TextGrid} {vocabulary : Vocabulary}

/-- A sheet's forest has the descriptions that the rows above it determine, by induction over the
nesting of references: what a scope hands over is told by the rows above. -/
theorem eq_tree_of_forest {chain : List String} {scope : Scope} {forest : Forest Node}
    (h : grid.toGrid.forest vocabulary (grid.toGrid.content vocabulary chain) scope = .ok forest)
    {above : List TextRow} (habove : scope.Inherits vocabulary above) :
    forest = grid.tree vocabulary (TextRow.describe vocabulary) chain scope.isRoot above
      scope.sheet := by
  revert above
  refine Grid.forest_induction (P := fun chain scope forest => ∀ {above : List TextRow},
    scope.Inherits vocabulary above → forest =
      grid.tree vocabulary (TextRow.describe vocabulary) chain scope.isRoot above scope.sheet) ?_ h
  intro chain scope entries hentries above habove
  rw [TextGrid.tree]
  congr 1
  rw [dataRows_toGrid, List.forall₂_map_left_iff] at hentries
  rw [dataRows, List.map_map, ← List.forall₂_eq_eq_eq, List.forall₂_map_right_iff]
  refine hentries.flip.imp fun entry number entered => ?_
  dsimp only [Function.comp_apply]
  refine TextRow.entry_of_entered _ number habove ?_ entered
  rintro request children ⟨hcontent, hchildren⟩ above hrequest
  obtain ⟨hchain, hsheet, -⟩ := Grid.content_eq_ok_iff.1 hcontent
  have hsheet : request.sheet ∈ grid.sheets := hsheet
  rw [dif_neg hchain, dif_pos hsheet]
  exact hchildren hrequest

end TextGrid

/-- The schemas that are built over a grid of texts, or over a workbook in any state that shows these
texts. -/
inductive BuiltOver (vocabulary : Vocabulary) (root : String) (schema : Schema) : TextGrid → Prop
  | grid {σ : Type} (grid : TextGrid) (state : σ) (journal : Journal)
      (success : (build grid.toGrid.source vocabulary root state journal).1 = .ok schema) :
      BuiltOver vocabulary root schema grid
  | workbook (sheets : List String) (book : OpenWorkbook) (journal : Journal)
      (success : (build (OpenWorkbook.source sheets) vocabulary root book journal).1 = .ok schema) :
      BuiltOver vocabulary root schema (book.snapshot sheets)

theorem BuiltOver.schema_eq {vocabulary : Vocabulary} {root : String} {schema : Schema}
    {grid : TextGrid} (h : BuiltOver vocabulary root schema grid) :
    grid.toGrid.schema vocabulary root = .ok schema := by
  cases h with
  | grid grid state journal success =>
    exact (build_grid grid.toGrid vocabulary root state journal).symm.trans success
  | workbook sheets book journal success => exact schema_snapshot success

/-- The nodes that are built stand for rows, and the description of a field is told by its row
and by the rows whose types lead to its sheet: `TextRow.describe` takes the pattern from the last of
these alone, and the sub-process from their paths and names and the path of the row. -/
theorem descriptions_of_build {vocabulary : Vocabulary} {root : String} {schema : Schema}
    {grid : TextGrid} (h : BuiltOver vocabulary root schema grid) :
    schema.forest =
      grid.tree vocabulary (TextRow.describe vocabulary) [root] true [] root := by
  have hforest := (Grid.schema_eq_ok_iff.1 h.schema_eq).2.2.1
  have hroot : (rootScope root).Inherits vocabulary [] := ⟨rfl, rfl, fun _ => rfl⟩
  exact TextGrid.eq_tree_of_forest hforest hroot

namespace Pattern

/-- A root sheet `R` with a row in the group of a sub-process, which refers to a sheet `T` and has a
pattern for its one field. -/
def grid : TextGrid where
  sheets := ["R", "T"]
  rowExtent sheet := if sheet = "R" then 4 else 2
  text sheet row col :=
    let texts :=
      if sheet = "R" ∧ row = 4 then ["WC1", "a", "T", "PD:xxx:12yy$"]
      else if sheet = "T" ∧ row = 2 then ["", "x", "int", "n5"]
      else []
    (texts[col.toNat - 1]?).getD ""

def vocabulary : Vocabulary := { Twice.vocabulary with subProcesses := [.str "WC1"] }

/-- The row of `R`. -/
def first : TextRow where
  path := ["WC1"]
  name := "a"
  type := "T"
  notes := "PD:xxx:12yy$"

/-- The row of `T`. -/
def second : TextRow where
  path := []
  name := "x"
  type := "int"
  notes := "n5"

/-- What is built for `T`. -/
def content : Forest Node :=
  .tree { name := "x", type := .leaf "int", template := "T", description := "PD:WC1:12n5$" } .nil

def schema : Schema where
  description := ""
  version := ""
  forest :=
    .tree { name := "WC1", template := "R" }
      (.tree { name := "a", type := .reference "T", template := "R" } content)

theorem content_eq :
    grid.toGrid.content vocabulary ["R"]
      { sheet := "T", referrer := "R", row := 4, subProcess := "WC1", pattern := "PD:xxx:12yy$" } =
        .ok content := by
  refine Grid.content_eq_ok_iff.2 ⟨by decide, by decide, by decide, ?_⟩
  refine Grid.forest_eq_ok_iff.2 ⟨[([], content)], ?_, by decide⟩
  exact .cons (.field (by decide) (by decide) (by decide)) .nil

theorem schema_eq : grid.toGrid.schema vocabulary "R" = .ok schema := by
  refine Grid.schema_eq_ok_iff.2 ⟨by decide, by decide, ?_, by decide, by decide⟩
  refine Grid.forest_eq_ok_iff.2 ⟨[
    (["WC1"], .tree { name := "a", type := .reference "T", template := "R" } content)], ?_,
    by decide⟩
  exact .cons (.reference (by decide) (by decide) (by decide) content_eq) .nil

end Pattern

/-- The pattern of the one row and the notes of the other make the description. -/
theorem descriptions_of_build_pattern :
    BuiltOver Pattern.vocabulary "R" Pattern.schema Pattern.grid ∧
      Pattern.schema.forest =
        Pattern.grid.tree Pattern.vocabulary (TextRow.describe Pattern.vocabulary) ["R"] true [] "R" ∧
      TextRow.describe Pattern.vocabulary [Pattern.first] Pattern.second = "PD:WC1:12n5$" := by
  have hbuilt : BuiltOver Pattern.vocabulary "R" Pattern.schema Pattern.grid :=
    .grid Pattern.grid () #[] ((build_grid _ _ _ _ _).trans Pattern.schema_eq)
  exact ⟨hbuilt, descriptions_of_build hbuilt, by decide⟩

end SheetSchema
