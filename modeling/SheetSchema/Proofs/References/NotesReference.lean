import SheetSchema.Proofs.Building.Agreement
import SheetSchema.Proofs.Trees.Descriptions

/-! The two ways in which a row of the root sheet refers to another sheet: by its notes or by its
type. What is built for the other sheet is the same but for descriptions. By its type, a row hands
its name over if this is a sub-process; by its notes it hands nothing over, whatever it is named. -/
namespace SheetSchema

/-- Alike requests have alike contents or fail with the same error. -/
theorem TextGrid.content_alike (grid : TextGrid) {vocabulary vocabulary' : Vocabulary}
    (hv : vocabulary.Alike vocabulary') (chain : List String) {request request' : Request}
    (h : request.Alike request') (htext : request.scope.HandsText)
    (htext' : request'.scope.HandsText) :
    SameOutcome Forest.Alike (grid.toGrid.content vocabulary chain request)
      (grid.toGrid.content vocabulary' chain request') := by
  have hsource : (grid.toGrid.source : Source Unit).ShowsTexts := grid.showsTexts
  have hagree := (Build.resolve_agree hsource hv chain h htext htext'
    { source := () } { source := () } ⟨rfl, rfl⟩).1
  rwa [Build.resolve_gives, Build.resolve_gives] at hagree

/-- Two grids that show the same but in one row of a sheet. -/
structure TextGrid.DiffersAt (grid : TextGrid) (sheet : String) (number : Int) (other : TextGrid) :
    Prop where
  sheets : other.sheets = grid.sheets
  rowExtent : other.rowExtent = grid.rowExtent
  text : ∀ name row col, (name, row) ≠ (sheet, number) →
    other.text name row col = grid.text name row col

namespace TextGrid.DiffersAt

variable {grid other : TextGrid} {root : String} {number : Int}
  (h : grid.DiffersAt root number other)
include h

theorem toGrid_sheets : other.toGrid.sheets = grid.toGrid.sheets := h.sheets

theorem toGrid_rowExtent : other.toGrid.rowExtent = grid.toGrid.rowExtent := h.rowExtent

theorem row_eq (layout : Layout) {name : String} {row : Int} (hne : (name, row) ≠ (root, number)) :
    other.row layout name row = grid.row layout name row := by
  simp only [TextGrid.row, h.text _ _ _ hne]

theorem dataRows_eq (vocabulary : Vocabulary) (isRoot : Bool) {sheet : String}
    (hne : sheet ≠ root) :
    other.toGrid.dataRows vocabulary isRoot sheet =
      grid.toGrid.dataRows vocabulary isRoot sheet := by
  rw [dataRows_toGrid, dataRows_toGrid, h.rowExtent]
  refine List.map_congr_left fun row _ => ?_
  rw [h.row_eq vocabulary.layout fun heq => hne (congrArg Prod.fst heq)]

theorem suggestions_eq (sheet : String) :
    other.toGrid.suggestions sheet = grid.toGrid.suggestions sheet := by
  have hsheets : (other.toGrid.source : Source Unit).sheets =
      (grid.toGrid.source : Source Unit).sheets := h.sheets
  rw [Grid.suggestions, Grid.suggestions, Build.suggestions_congr hsheets]

/-- While the root sheet is being read, nothing is read of it again. -/
theorem content_eq (vocabulary : Vocabulary) {chain : List String} (hroot : root ∈ chain)
    (request : Request) :
    other.toGrid.content vocabulary chain request =
      grid.toGrid.content vocabulary chain request := by
  rw [Grid.content, Grid.content]
  by_cases hc : request.sheet ∈ chain
  · rw [dif_pos hc, dif_pos hc]
  · by_cases hs : request.sheet ∈ grid.toGrid.sheets
    · have hs' : request.sheet ∈ other.toGrid.sheets := h.toGrid_sheets ▸ hs
      have hne : request.scope.sheet ≠ root := by
        rintro rfl
        exact hc hroot
      have hinner : other.toGrid.content vocabulary (chain ++ [request.sheet]) =
          grid.toGrid.content vocabulary (chain ++ [request.sheet]) := by
        funext inner
        exact content_eq vocabulary (List.mem_append_left _ hroot) inner
      rw [dif_neg hc, dif_neg hc, dif_pos hs', dif_pos hs, h.toGrid_rowExtent]
      congr 1
      rw [Grid.forest, Grid.forest, h.dataRows_eq vocabulary _ hne, hinner]
    · have hs' : request.sheet ∉ other.toGrid.sheets := h.toGrid_sheets ▸ hs
      rw [dif_neg hc, dif_neg hc, dif_neg hs', dif_neg hs, h.suggestions_eq]
termination_by (Build.unopened (grid.toGrid.source : Source Unit) chain).length
decreasing_by exact Build.length_unopened_lt _ hs hc

end TextGrid.DiffersAt

/-- The numbers of the rows before a row, its own one, and those of the rows after it. -/
theorem range_split {firstRow lastRow number : Int} (hfirst : firstRow ≤ number)
    (hlast : number ≤ lastRow) :
    Int.range firstRow (lastRow + 1) =
      Int.range firstRow number ++ number :: Int.range (number + 1) (lastRow + 1) := by
  have hlength : (lastRow + 1 - firstRow).toNat =
      (number - firstRow).toNat + ((lastRow + 1 - (number + 1)).toNat + 1) := by omega
  have hnumber : firstRow + ((number - firstRow).toNat : Int) = number := by omega
  unfold Int.range
  rw [hlength, List.range_add, List.map_append, List.range_succ_eq_map]
  simp only [List.map_cons, List.map_map, Nat.add_zero, hnumber]
  congr 2
  refine List.map_congr_left fun offset _ => ?_
  simp only [Function.comp_apply]
  omega

/-- The data rows of a sheet before one of them, this one, and those after it. -/
theorem Grid.dataRows_split (grid : Grid) {vocabulary : Vocabulary} (isRoot : Bool)
    {sheet : String} {number : Int} (hfirst : vocabulary.layout.firstRow isRoot ≤ number)
    (hlast : number ≤ grid.rowExtent sheet) :
    grid.dataRows vocabulary isRoot sheet =
      (Int.range (vocabulary.layout.firstRow isRoot) number).map (grid.row vocabulary sheet) ++
        grid.row vocabulary sheet number ::
          (Int.range (number + 1) (grid.rowExtent sheet + 1)).map (grid.row vocabulary sheet) := by
  rw [dataRows, range_split hfirst hlast, List.map_append, List.map_cons]

/-- A row with a node and a request is entered with what the request asks for. -/
theorem Row.entry_of_request {vocabulary : Vocabulary} {scope : Scope} {row : Row}
    {content : Request → Except BuildError (Forest Node)} {node : Node} {request : Request}
    (hm : row.hasMeaning vocabulary scope = true) (hn : row.node? vocabulary scope = some node)
    (hr : row.request? vocabulary scope = some request) :
    row.entry vocabulary content scope =
      content request >>= fun children => .ok (row.path, .tree node children) := by
  unfold Row.entry
  simp only [hm, hn, hr]
  rfl

namespace TextRow

/-- The row with another name, and with its notes as its type. -/
def byType (row : TextRow) (name : String) : TextRow :=
  { row with name, type := row.notes, notes := "" }

variable {vocabulary : Vocabulary} {root name : String} {row : TextRow} (number : Int)
  (hnotes : row.RefersByNotes vocabulary.dataTypes true)

/-- What a row asks for by its notes or, with its notes as its type, by this. -/
def request (row : TextRow) (root : String) (number : Int) (subProcess : Value) : Request where
  sheet := row.notes
  referrer := root
  row := number
  subProcess := subProcess
  pattern := ""

theorem not_refersByNotes_byType : ¬(row.byType name).RefersByNotes vocabulary.dataTypes true :=
  fun h => h.2.2.2.1 rfl

theorem node?_byType (hname : name ≠ "") :
    ((row.byType name).toRow number).node? vocabulary (rootScope root) =
      some ((row.byType name).node vocabulary.dataTypes true root "") := by
  have hroot := inherits_rootScope vocabulary root
  have hfield : (row.byType name).IsField (rootScope root).isRoot := .inl hname
  have hdescribe : describe vocabulary [] (row.byType name) = "" := by
    have hnone : Placeholder.holds "" = false := by decide
    simp [describe, patternOf, byType, hnone]
  rw [(row.byType name).node?_inherited number hroot, if_pos hfield, hdescribe]
  rfl

include hnotes

theorem node?_byNotes :
    (row.toRow number).node? vocabulary (rootScope root) =
      some (row.node vocabulary.dataTypes true root "") := by
  have hroot := inherits_rootScope vocabulary root
  have hfield : row.IsField (rootScope root).isRoot := isField_of_refersByNotes hnotes
  have hnotes' : row.RefersByNotes vocabulary.dataTypes (rootScope root).isRoot := hnotes
  rw [row.node?_inherited number hroot, if_pos hfield, node, if_pos hnotes', node, if_pos hnotes]
  rfl

theorem request?_byNotes :
    (row.toRow number).request? vocabulary (rootScope root) =
      some (row.request root number .null) := by
  have hnotes' : row.RefersByNotes vocabulary.dataTypes (rootScope root).isRoot := hnotes
  have hpath : row.path = [] := hnotes.2.1
  rw [Row.request?, content_toRow, if_pos hnotes']
  simp only [toRow, Row.subProcess, hpath]
  rfl

theorem request?_byType (hname : name ≠ "") :
    ((row.byType name).toRow number).request? vocabulary (rootScope root) =
      some (row.request root number
        (if .str name ∈ vocabulary.subProcesses then .str name else .null)) := by
  have hnotes' : ¬(row.byType name).RefersByNotes vocabulary.dataTypes (rootScope root).isRoot :=
    not_refersByNotes_byType
  have hfield : (row.byType name).IsField (rootScope root).isRoot := .inl hname
  have hfieldType : ((row.byType name).toRow number).fieldType vocabulary =
      .reference (.str row.notes) := by
    have htype : (row.byType name).type = row.notes := rfl
    rw [fieldType_toRow, htype, if_neg hnotes.2.2.2.2, if_neg hnotes.2.2.2.1]
  have hinner : ((row.byType name).toRow number).innerSubProcess vocabulary (rootScope root) =
      if .str name ∈ vocabulary.subProcesses then .str name else .null := by
    have hname : ((row.byType name).toRow number).name = .str name := rfl
    have hpath : ((row.byType name).toRow number).path = [] := congrArg (List.map _) hnotes.2.1
    rw [Row.innerSubProcess, hname, Row.subProcess, hpath]
    by_cases hs : Cell.str name ∈ vocabulary.subProcesses
    · rw [if_pos (Value.isAmong_str.2 hs), if_pos hs]
    · rw [if_neg (mt Value.isAmong_str.1 hs), if_neg hs]
      rfl
  have hpattern : ((row.byType name).toRow number).innerPattern = "" := by
    have hnone : Placeholder.holds "" = false := by decide
    simp [Row.innerPattern, Row.hasPattern, toRow, byType, hnone]
  rw [Row.request?, content_toRow, if_neg hnotes', if_pos hfield]
  simp only [hfieldType, hinner, hpattern]
  rfl

end TextRow

/-- Two forests that differ at most in descriptions, and only if the name is a sub-process. -/
def Vocabulary.AlikeUnder (vocabulary : Vocabulary) (name : String) (forest other : Forest Node) :
    Prop :=
  forest.Alike other ∧ (.str name ∉ vocabulary.subProcesses → forest = other)

/-- Two forests of a sheet with the same entries but for one, which is in the same place a node with
related forests below it. -/
def Sketch.DifferAt (sheet : String) (place : Int) (node node' : Node)
    (R : Forest Node → Forest Node → Prop) (forest forest' : Forest Node) : Prop :=
  ∃ before after children children', (before.length : Int) = place ∧
    forest = assemble sheet (before ++ ([], .tree node children) :: after) ∧
    forest' = assemble sheet (before ++ ([], .tree node' children') :: after) ∧ R children children'

namespace TextGrid

variable {grid other : TextGrid} {vocabulary : Vocabulary} {root name : String} {number : Int}

/-- The contents that a row asks for by its notes and by its type, below the root sheet. -/
theorem content_byType (row : TextRow) :
    SameOutcome (vocabulary.AlikeUnder name)
      (grid.toGrid.content vocabulary [root] (row.request root number .null))
      (grid.toGrid.content vocabulary [root] (row.request root number
        (if .str name ∈ vocabulary.subProcesses then .str name else .null))) := by
  by_cases hs : Cell.str name ∈ vocabulary.subProcesses
  · rw [if_pos hs]
    have halike : (row.request root number .null).Alike (row.request root number (.str name)) :=
      ⟨rfl, rfl, rfl⟩
    exact (grid.content_alike (.refl vocabulary) [root] halike rfl rfl).imp
      fun _ _ _ _ h => ⟨h, fun hnot => absurd hs hnot⟩
  · rw [if_neg hs]
    exact (SameOutcome.refl _).imp fun _ _ _ _ h => ⟨h ▸ rfl, fun _ => h⟩

/-- A row of the root sheet is entered alike, by its notes and by its type. -/
theorem entry_byType (grid : TextGrid) (root : String) (number : Int) {row : TextRow}
    (hnotes : row.RefersByNotes vocabulary.dataTypes true) (hname : name ≠ "") :
    SameOutcome
      (fun entry entry' => ∃ children children',
        entry = ([], .tree (row.node vocabulary.dataTypes true root "") children) ∧
        entry' = ([], .tree ((row.byType name).node vocabulary.dataTypes true root "") children') ∧
        vocabulary.AlikeUnder name children children')
      ((row.toRow number).entry vocabulary (grid.toGrid.content vocabulary [root]) (rootScope root))
      (((row.byType name).toRow number).entry vocabulary (grid.toGrid.content vocabulary [root])
        (rootScope root)) := by
  have htext := handsText_rootScope root
  have hpath : (row.toRow number).path = [] := congrArg (List.map _) hnotes.2.1
  have hpath' : ((row.byType name).toRow number).path = [] := hpath
  rw [Row.entry_of_request (row.hasMeaning_toRow number htext) (TextRow.node?_byNotes number hnotes)
      (TextRow.request?_byNotes number hnotes),
    Row.entry_of_request ((row.byType name).hasMeaning_toRow number htext)
      (TextRow.node?_byType number hname) (TextRow.request?_byType number hnotes hname),
    hpath, hpath']
  exact (content_byType row).bind fun children children' h => .ok ⟨children, children', rfl, rfl, h⟩

/-- The rows of two root sheets that differ in one row, before and after which they are the same. -/
theorem DiffersAt.dataRows_root (h : grid.DiffersAt root number other)
    (hfirst : vocabulary.layout.rootFirstRow ≤ number) (hlast : number ≤ grid.rowExtent root) :
    ∃ before after : List Row,
      (before.length : Int) = number - vocabulary.layout.rootFirstRow ∧
      grid.toGrid.dataRows vocabulary true root =
        before ++ (grid.row vocabulary.layout root number).toRow number :: after ∧
      other.toGrid.dataRows vocabulary true root =
        before ++ (other.row vocabulary.layout root number).toRow number :: after := by
  have hsame {firstRow lastRow : Int} (hout : number < firstRow ∨ lastRow ≤ number) :
      (Int.range firstRow lastRow).map (other.toGrid.row vocabulary root) =
        (Int.range firstRow lastRow).map (grid.toGrid.row vocabulary root) := by
    refine List.map_congr_left fun row hrow => ?_
    have hbounds := Int.mem_range_iff.1 hrow
    have hne : row ≠ number := by omega
    rw [row_toGrid, row_toGrid, h.row_eq vocabulary.layout fun heq => hne (congrArg Prod.snd heq)]
  have hlast' : number ≤ other.toGrid.rowExtent root := by rwa [h.toGrid_rowExtent]
  have hrows := grid.toGrid.dataRows_split true hfirst hlast
  have hrows' := other.toGrid.dataRows_split true hfirst hlast'
  rw [hsame (.inr (by omega)), h.toGrid_rowExtent, hsame (.inl (by omega)), row_toGrid] at hrows'
  rw [row_toGrid] at hrows
  refine ⟨_, _, ?_, hrows, hrows'⟩
  simp only [Int.range, List.length_map, List.length_range, Layout.firstRow, if_pos]
  omega

/-- Two root sheets that differ in a row, which refers by its notes in one of them and by its type
in the other. -/
theorem schema_byType (h : grid.DiffersAt root number other)
    (hfirst : vocabulary.layout.rootFirstRow ≤ number) (hlast : number ≤ grid.rowExtent root)
    {row : TextRow} (hrow : grid.row vocabulary.layout root number = row)
    (hnotes : row.RefersByNotes vocabulary.dataTypes true) (hname : name ≠ "")
    (htype : other.row vocabulary.layout root number = row.byType name) :
    SameOutcome
      (fun schema schema' => Sketch.DifferAt root (number - vocabulary.layout.rootFirstRow)
        (row.node vocabulary.dataTypes true root "")
        ((row.byType name).node vocabulary.dataTypes true root "") (vocabulary.AlikeUnder name)
        schema.forest schema'.forest)
      (grid.toGrid.schema vocabulary root) (other.toGrid.schema vocabulary root) := by
  have hreaches : ¬grid.toGrid.rowExtent root < vocabulary.layout.rootFirstRow :=
    Int.not_lt.2 (Int.le_trans hfirst hlast)
  have hcontent : other.toGrid.content vocabulary [root] =
      grid.toGrid.content vocabulary [root] := by
    funext request
    exact h.content_eq vocabulary (List.mem_singleton_self root) request
  unfold Grid.schema
  rw [h.toGrid_sheets, h.toGrid_rowExtent, h.suggestions_eq, if_neg hreaches, if_neg hreaches]
  by_cases hroot : root ∈ grid.toGrid.sheets
  · obtain ⟨before, after, hlength, hrows, hrows'⟩ := h.dataRows_root hfirst hlast
    rw [hrow] at hrows
    rw [htype] at hrows'
    have hentries := (entry_byType grid root number hnotes hname).mapM_replace before after
    rw [← hrows, ← hrows'] at hentries
    rw [if_neg (not_not.2 hroot), if_neg (not_not.2 hroot), hcontent]
    refine (hentries.bind ?_).bind fun _ _ hforest => .ok hforest
    rintro _ _ ⟨first, _, _, rest, hfirst, rfl, rfl, children, children', rfl, rfl, halike⟩
    exact .ok ⟨first, rest, children, children', hfirst ▸ hlength, rfl, rfl, halike⟩
  · rw [if_pos hroot, if_pos hroot]
    exact .error _

end TextGrid

/-- A row of the root sheet that refers by its notes and the same row with another name and with the
notes as its type. The builds fail with the same error. If they succeed, their trees have the same
entries but for that of the row, and below its two nodes there is the same but for descriptions.
There is altogether the same if the name of the row that refers by its type is no sub-process; this
name is handed over, and that of the row that refers by its notes is not. -/
theorem build_byType {grid other : TextGrid} {vocabulary : Vocabulary} {root name : String}
    {number : Int} (h : grid.DiffersAt root number other)
    (hfirst : vocabulary.layout.rootFirstRow ≤ number) (hlast : number ≤ grid.rowExtent root)
    {row : TextRow} (hrow : grid.row vocabulary.layout root number = row)
    (hnotes : row.RefersByNotes vocabulary.dataTypes true) (hname : name ≠ "")
    (htype : other.row vocabulary.layout root number = row.byType name) :
    (∀ {σ τ : Type} (state : σ) (state' : τ) (journal journal' : Journal) (error : BuildError),
      (build grid.toGrid.source vocabulary root state journal).1 = .error error ↔
        (build other.toGrid.source vocabulary root state' journal').1 = .error error) ∧
    ∀ schema schema', BuiltOver vocabulary root schema grid →
      BuiltOver vocabulary root schema' other →
        Sketch.DifferAt root (number - vocabulary.layout.rootFirstRow)
          (row.node vocabulary.dataTypes true root "")
          ((row.byType name).node vocabulary.dataTypes true root "") (vocabulary.AlikeUnder name)
          schema.forest schema'.forest := by
  have houtcome := TextGrid.schema_byType h hfirst hlast hrow hnotes hname htype
  constructor
  · intro σ τ state state' journal journal' error
    rw [build_grid, build_grid]
    exact houtcome.error_iff
  · intro schema schema' hbuilt hbuilt'
    rw [hbuilt.schema_eq, hbuilt'.schema_eq] at houtcome
    obtain ⟨_, ⟨⟩, hforest⟩ := houtcome.exists_ok
    exact hforest

namespace ByNotes

/-- A root sheet `R` with a row named as a sub-process, whose notes refer to a sheet `S`. The row of
`S` hands a pattern to a sheet `T`. -/
def grid : TextGrid where
  sheets := ["R", "S", "T"]
  rowExtent sheet := if sheet = "R" then 4 else 2
  text sheet row col :=
    let texts :=
      if sheet = "R" ∧ row = 4 then ["", "WC1", "", "S"]
      else if sheet = "S" ∧ row = 2 then ["", "c", "T", "PD:xxx:1a$"]
      else if sheet = "T" ∧ row = 2 then ["", "x", "int", ""]
      else []
    (texts[col.toNat - 1]?).getD ""

/-- The grid with `S` as the type of the row of `R`. -/
def typed : TextGrid where
  sheets := grid.sheets
  rowExtent := grid.rowExtent
  text sheet row col :=
    if sheet = "R" ∧ row = 4 then (["", "WC1", "S", ""][col.toNat - 1]?).getD ""
    else grid.text sheet row col

/-- The row of `R`. -/
def row : TextRow where
  path := []
  name := "WC1"
  type := ""
  notes := "S"

theorem differsAt : grid.DiffersAt "R" 4 typed where
  sheets := rfl
  rowExtent := rfl
  text _ _ _ hne := if_neg fun ⟨hname, hrow⟩ => hne (Prod.ext hname hrow)

/-- The sub-process that `S` is read with, the row of `R` handing its name over or not. -/
def subProcess (named : Bool) : Value := if named then "WC1" else .null

/-- What is built for `T`. -/
def inner (named : Bool) : Forest Node :=
  .tree {
    name := "x"
    type := .leaf "int"
    template := "T"
    description := if named then "PD:WC1:1a$" else "PD::1a$" } .nil

/-- What is built for `S`. -/
def content (named : Bool) : Forest Node :=
  .tree { name := "c", type := .reference "T", template := "S" } (inner named)

theorem inner_eq (named : Bool) :
    grid.toGrid.content Pattern.vocabulary ["R", "S"]
      { sheet := "T", referrer := "S", row := 2, subProcess := subProcess named,
        pattern := "PD:xxx:1a$" } = .ok (inner named) := by
  refine Grid.content_eq_ok_iff.2
    ⟨by decide +revert, by decide +revert, by decide +revert, ?_⟩
  refine Grid.forest_eq_ok_iff.2 ⟨[([], inner named)], ?_, by decide +revert⟩
  exact .cons (.field (by decide +revert) (by decide +revert) (by decide +revert)) .nil

theorem content_eq (named : Bool) :
    grid.toGrid.content Pattern.vocabulary ["R"] (row.request "R" 4 (subProcess named)) =
      .ok (content named) := by
  refine Grid.content_eq_ok_iff.2
    ⟨by decide +revert, by decide +revert, by decide +revert, ?_⟩
  refine Grid.forest_eq_ok_iff.2 ⟨[([], content named)], ?_, by decide +revert⟩
  exact .cons (.reference (by decide +revert) (by decide +revert) (by decide +revert)
    (inner_eq named)) .nil

/-- The schema in which the row of `R` has a node. -/
def schema (node : Node) (named : Bool) : Schema where
  description := ""
  version := ""
  forest := .tree node (content named)

theorem schema_eq :
    grid.toGrid.schema Pattern.vocabulary "R" =
      .ok (schema (row.node Pattern.vocabulary.dataTypes true "R" "") false) := by
  refine Grid.schema_eq_ok_iff.2 ⟨by decide, by decide, ?_, by decide, by decide⟩
  refine Grid.forest_eq_ok_iff.2 ⟨[([], .tree _ (content false))], ?_, rfl⟩
  exact .cons (.reference (by decide) (by decide) (by decide) (content_eq false)) .nil

theorem schema_typed_eq :
    typed.toGrid.schema Pattern.vocabulary "R" =
      .ok (schema ((row.byType "WC1").node Pattern.vocabulary.dataTypes true "R" "") true) := by
  have hcontent := content_eq true
  rw [← differsAt.content_eq Pattern.vocabulary (by decide)] at hcontent
  refine Grid.schema_eq_ok_iff.2 ⟨by decide, by decide, ?_, by decide, by decide⟩
  refine Grid.forest_eq_ok_iff.2 ⟨[([], .tree _ (content true))], ?_, rfl⟩
  exact .cons (.reference (by decide) (by decide) (by decide) hcontent) .nil

end ByNotes

/-- The name of the row is a sub-process. It goes into the description of the field of `T` if the
row refers to `S` by its type, and not if it does by its notes. -/
theorem build_byType_subProcess :
    ByNotes.row.RefersByNotes Pattern.vocabulary.dataTypes true ∧
    ∃ schema schema',
      (build (ByNotes.grid.toGrid.source : Source Unit) Pattern.vocabulary "R" ()).1 =
        .ok schema ∧
      (build (ByNotes.typed.toGrid.source : Source Unit) Pattern.vocabulary "R" ()).1 =
        .ok schema' ∧
      Sketch.DifferAt "R" 0 (ByNotes.row.node Pattern.vocabulary.dataTypes true "R" "")
        ((ByNotes.row.byType "WC1").node Pattern.vocabulary.dataTypes true "R" "")
        (Pattern.vocabulary.AlikeUnder "WC1") schema.forest schema'.forest ∧
      schema.forest.walk.map (·.description) = ["S", "", "PD::1a$"] ∧
      schema'.forest.walk.map (·.description) = ["", "", "PD:WC1:1a$"] := by
  have hnotes : ByNotes.row.RefersByNotes Pattern.vocabulary.dataTypes true := by decide
  have hbuild : (build (ByNotes.grid.toGrid.source : Source Unit) Pattern.vocabulary "R" ()).1 =
      .ok _ := (build_grid _ _ _ _ _).trans ByNotes.schema_eq
  have hbuild' : (build (ByNotes.typed.toGrid.source : Source Unit) Pattern.vocabulary "R" ()).1 =
      .ok _ := (build_grid _ _ _ _ _).trans ByNotes.schema_typed_eq
  have hforests := (@build_byType _ _ Pattern.vocabulary "R" "WC1" 4 ByNotes.differsAt
    (by decide) (by decide) ByNotes.row (by decide) hnotes (by decide) (by decide)).2 _ _
    (.grid _ () #[] hbuild) (.grid _ () #[] hbuild')
  exact ⟨hnotes, _, _, hbuild, hbuild', hforests, by decide, by decide⟩

end SheetSchema
