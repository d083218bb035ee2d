import SheetSchema.Proofs.Building.ScannedForest

/-! Grids of texts. Their rows have a meaning in every scope that hands texts over, and what a row
refers to is decided by its texts and by whether its sheet is the root. -/
namespace SheetSchema

/-- Of texts, those are absent that are empty. -/
theorem Value.filter_not_isVoid (texts : List String) :
    (texts.map Value.str).filter (!·.isVoid) = (texts.filter (· ≠ "")).map .str := by
  have hvoid (text : String) : (!(Value.str text).isVoid) = decide (text ≠ "") := by
    by_cases h : text = "" <;> simp [h, Value.isVoid, Cell.isVoid]
  rw [List.filter_map]
  simp only [Function.comp_def, hvoid]

/-- A grid whose cells all show texts. -/
structure TextGrid where
  sheets : List String
  rowExtent : String → Int
  text : String → Int → Int → String

/-- What a data row of texts shows; `path` holds the hierarchy texts that are not empty. -/
structure TextRow where
  path : List String
  name : String
  type : String
  notes : String
  deriving DecidableEq, Repr

def TextGrid.toGrid (grid : TextGrid) : Grid where
  sheets := grid.sheets
  rowExtent := grid.rowExtent
  shown sheet row col := .str (grid.text sheet row col)

def TextGrid.row (grid : TextGrid) (layout : Layout) (sheet : String) (number : Int) : TextRow where
  path := ((List.range layout.hierarchyColumns.toNat).map fun (column : Nat) =>
    grid.text sheet number (column + 1)).filter (· ≠ "")
  name := grid.text sheet number layout.nameColumn
  type := grid.text sheet number layout.typeColumn
  notes := grid.text sheet number layout.notesColumn

namespace TextRow

def toRow (row : TextRow) (number : Int) : Row where
  number := number
  path := row.path.map .str
  name := .str row.name
  type := .str row.type
  notes := .str row.notes

variable (dataTypes : List Cell) (isRoot : Bool) (row : TextRow)

/-- A named row of the root sheet without hierarchy texts whose notes are no basic type. -/
def RefersByNotes : Prop :=
  isRoot ∧ row.path = [] ∧ row.name ≠ "" ∧ row.notes ≠ "" ∧ .str row.notes ∉ dataTypes

instance : Decidable (row.RefersByNotes dataTypes isRoot) := by
  unfold RefersByNotes
  infer_instance

/-- A row that describes a field: it is named, or it has a type and stands below a hierarchy of
the root sheet. -/
def IsField : Prop := row.name ≠ "" ∨ isRoot ∧ row.path ≠ [] ∧ row.type ≠ ""

instance : Decidable (row.IsField isRoot) := by
  unfold IsField
  infer_instance

/-- The sheet that a row refers to: its notes if it refers by these, or else a type that is not
basic, if the row is named or stands below a hierarchy of the root sheet. -/
def target? : Option String :=
  if row.RefersByNotes dataTypes isRoot then some row.notes
  else if row.type ≠ "" ∧ .str row.type ∉ dataTypes ∧ (row.name ≠ "" ∨ isRoot ∧ row.path ≠ []) then
    some row.type
  else none

variable {dataTypes isRoot row} in
theorem isField_of_refersByNotes (h : row.RefersByNotes dataTypes isRoot) :
    row.IsField isRoot := .inl h.2.2.1

variable {isRoot row} in
theorem not_isField_iff :
    ¬row.IsField isRoot ↔ row.name = "" ∧ (¬isRoot = true ∨ row.path = [] ∨ row.type = "") := by
  rw [IsField, not_or, not_and_or, not_and_or, not_not, not_not, not_not]

variable (vocabulary : Vocabulary) (scope : Scope) (number : Int)

theorem content_toRow :
    (row.toRow number).content vocabulary scope =
      if row.RefersByNotes vocabulary.dataTypes scope.isRoot then .notesReference
      else if row.IsField scope.isRoot then .field else .nothing := by
  have hname : (Value.str row.name).isVoid = true ↔ row.name = "" := Value.isVoid_str _
  have htype : (Value.str row.type).isVoid = true ↔ row.type = "" := Value.isVoid_str _
  have hnotes : (Value.str row.notes).isVoid = true ↔ row.notes = "" := Value.isVoid_str _
  have hkind : scope.isRoot = true ∧ (row.toRow number).path = [] ∧
      ¬(row.toRow number).name.isVoid = true ∧ ¬(row.toRow number).notes.isVoid = true ∧
      ¬(row.toRow number).notes.isAmong vocabulary.dataTypes = true ↔
      row.RefersByNotes vocabulary.dataTypes scope.isRoot := by
    simp [toRow, RefersByNotes, hname, hnotes]
  unfold Row.content
  by_cases h : row.RefersByNotes vocabulary.dataTypes scope.isRoot
  · rw [if_pos (hkind.2 h), if_pos h]
  · rw [if_neg (mt hkind.1 h), if_neg h]
    by_cases hf : row.IsField scope.isRoot
    · rw [if_pos hf, if_neg]
      simp only [toRow, hname, htype, List.map_eq_nil_iff]
      exact fun hnot => not_isField_iff.2 hnot hf
    · rw [if_neg hf, if_pos]
      simp only [toRow, hname, htype, List.map_eq_nil_iff]
      exact not_isField_iff.1 hf

theorem fieldType_toRow :
    (row.toRow number).fieldType vocabulary =
      if .str row.type ∈ vocabulary.dataTypes then .leaf (.str row.type)
      else if row.type = "" then .structural else .reference (.str row.type) := by
  have htype : (Value.str row.type).isVoid = true ↔ row.type = "" := Value.isVoid_str _
  simp [Row.fieldType, Row.isBasic, toRow, htype]

/-- What a row requests is the sheet that it refers to. -/
theorem request?_toRow :
    ((row.toRow number).request? vocabulary scope).map (·.sheet) =
      row.target? vocabulary.dataTypes scope.isRoot := by
  unfold Row.request? target?
  rw [content_toRow, fieldType_toRow]
  by_cases h : row.RefersByNotes vocabulary.dataTypes scope.isRoot
  · simp only [h, ↓reduceIte]
    rfl
  · by_cases hf : row.IsField scope.isRoot
    · by_cases hb : Cell.str row.type ∈ vocabulary.dataTypes
      · simp [h, hf, hb]
      · by_cases ht : row.type = ""
        · rw [ht] at hb
          simp [h, hf, hb, ht]
        · have hr : row.name ≠ "" ∨ scope.isRoot = true ∧ row.path ≠ [] :=
            hf.imp_right fun hbelow => ⟨hbelow.1, hbelow.2.1⟩
          simp only [h, hf, hb, ht, hr, ↓reduceIte, not_false_eq_true, ne_eq, and_self]
          rfl
    · have hr : ¬(row.type ≠ "" ∧ Cell.str row.type ∉ vocabulary.dataTypes ∧
          (row.name ≠ "" ∨ scope.isRoot = true ∧ row.path ≠ [])) := by
        rintro ⟨ht, _, hfield⟩
        exact hf (hfield.imp_right fun hbelow => ⟨hbelow.1, hbelow.2, ht⟩)
      simp only [h, hf, hr, ↓reduceIte]
      rfl

end TextRow

/-- Whether the sub-process that a scope hands over can stand in a text. -/
def Scope.HandsText (scope : Scope) : Prop := scope.subProcess.asText?.isSome

theorem handsText_rootScope (root : String) : (rootScope root).HandsText := rfl

namespace TextRow

variable {vocabulary : Vocabulary} {scope : Scope} (row : TextRow) (number : Int)

theorem subProcess_toRow (vocabulary : Vocabulary) (h : scope.HandsText) :
    ((row.toRow number).subProcess vocabulary scope).asText?.isSome := by
  unfold Row.subProcess
  cases hl : ((row.toRow number).path.filter (·.isAmong vocabulary.subProcesses)).getLast? with
  | none => exact h
  | some v =>
    have hv := (List.mem_filter.1 (List.mem_of_getLast? hl)).1
    obtain ⟨text, _, rfl⟩ := List.mem_map.1 hv
    rfl

theorem hasMeaning_toRow (h : scope.HandsText) :
    (row.toRow number).hasMeaning vocabulary scope = true := by
  have hsub := row.subProcess_toRow number vocabulary h
  have hpath : (row.toRow number).path.all Value.isSingle = true := by
    simp [toRow, Value.isSingle]
  unfold Row.hasMeaning
  rw [hpath, Bool.true_and]
  cases (row.toRow number).content vocabulary scope with
  | nothing => rfl
  | notesReference => rfl
  | field =>
    simp only [hsub, Bool.true_and]
    simp [toRow, Value.isSingle, Value.asText?]

theorem handsText_request {request : Request} (h : scope.HandsText)
    (hr : (row.toRow number).request? vocabulary scope = some request) :
    request.scope.HandsText := by
  have hsub := row.subProcess_toRow number vocabulary h
  have hinner : ((row.toRow number).innerSubProcess vocabulary scope).asText?.isSome := by
    unfold Row.innerSubProcess
    split
    · rfl
    · exact hsub
  unfold Row.request? at hr
  split at hr
  · contradiction
  · split at hr
    · cases hr
      exact hinner
    · contradiction
  · split at hr
    · cases hr
      exact hsub
    · contradiction

end TextRow

namespace TextGrid

variable (grid : TextGrid) (vocabulary : Vocabulary)

/-- The data rows of a sheet, as the root or as a referenced sheet: those from the first one up to
and with the last one. -/
def dataRows (layout : Layout) (isRoot : Bool) (sheet : String) : List TextRow :=
  (Int.range (layout.firstRow isRoot) (grid.rowExtent sheet + 1)).map (grid.row layout sheet)

theorem mem_dataRows {layout : Layout} {isRoot : Bool} {sheet : String} {row : TextRow} :
    row ∈ grid.dataRows layout isRoot sheet ↔
      ∃ number, (layout.firstRow isRoot ≤ number ∧ number ≤ grid.rowExtent sheet) ∧
        grid.row layout sheet number = row := by
  simp only [dataRows, List.mem_map, Int.mem_range_iff, Int.lt_add_one_iff]

theorem row_toGrid (sheet : String) (number : Int) :
    grid.toGrid.row vocabulary sheet number =
      (grid.row vocabulary.layout sheet number).toRow number := by
  simp only [Grid.row, toGrid, row, TextRow.toRow, Row.mk.injEq, true_and, and_true]
  rw [← Value.filter_not_isVoid, List.map_map]
  rfl

theorem dataRows_toGrid (isRoot : Bool) (sheet : String) :
    grid.toGrid.dataRows vocabulary isRoot sheet =
      (Int.range (vocabulary.layout.firstRow isRoot) (grid.rowExtent sheet + 1)).map
        fun number => (grid.row vocabulary.layout sheet number).toRow number := by
  unfold Grid.dataRows
  exact List.map_congr_left fun number _ => grid.row_toGrid vocabulary sheet number

/-- A row of a sheet is a data row, neither above the first one nor below the last one, and refers
to another sheet. -/
def RefersAt (root sheet : String) (number : Int) (target : String) : Prop :=
  (vocabulary.layout.firstRow (sheet = root) ≤ number ∧ number ≤ grid.rowExtent sheet) ∧
    (grid.row vocabulary.layout sheet number).target? vocabulary.dataTypes (sheet = root) =
      some target

/-- A sheet refers to those that its data rows refer to. -/
def Refers (root sheet target : String) : Prop :=
  ∃ number, grid.RefersAt vocabulary root sheet number target

end TextGrid

namespace Twice

/-- A root sheet `R` with two rows that refer to a sheet `T`, which has a field in a group. -/
def grid : TextGrid where
  sheets := ["R", "T"]
  rowExtent sheet := if sheet = "R" then 5 else 2
  text sheet row col :=
    if sheet = "R" then
      if col = 2 then (if row = 4 then "a" else "b") else if col = 3 then "T" else ""
    else if col = 1 then "g" else if col = 2 then "x" else if col = 3 then "int" else ""

def vocabulary : Vocabulary where
  subProcesses := []
  dataTypes := [.str "int"]
  layout := { hierarchyColumns := 1, nameColumn := 2, typeColumn := 3, notesColumn := 4 }

/-- What is built for `T`. -/
def content : Forest Node :=
  .tree { name := "g", template := "T" }
    (.tree { name := "x", type := .leaf "int", template := "T" } .nil)

def first : Node × Forest Node :=
  ({ name := "a", type := .reference "T", template := "R" }, content)

def second : Node × Forest Node :=
  ({ name := "b", type := .reference "T", template := "R" }, content)

def schema : Schema where
  description := "b"
  version := "b"
  forest := .node first.1 first.2 (.tree second.1 second.2)

theorem content_eq (row : Int) :
    grid.toGrid.content vocabulary ["R"]
      { sheet := "T", referrer := "R", row, subProcess := .null, pattern := "" } = .ok content := by
  have hforest (inner : Request → Except BuildError (Forest Node)) :
      grid.toGrid.forest vocabulary inner
        { sheet := "T", isRoot := false, subProcess := .null, pattern := "" } = .ok content := by
    refine Grid.forest_eq_ok_iff.2 ⟨[(["g"],
      .tree { name := "x", type := .leaf "int", template := "T" } .nil)], ?_, by decide⟩
    exact .cons (.field (by decide) (by decide) (by decide)) .nil
  refine Grid.content_eq_ok_iff.2 ⟨?_, ?_, ?_, hforest _⟩
  · change "T" ∉ ["R"]
    decide
  · change "T" ∈ ["R", "T"]
    decide
  · change (2 : Int) ≤ 2
    decide

theorem schema_eq : grid.toGrid.schema vocabulary "R" = .ok schema := by
  refine Grid.schema_eq_ok_iff.2 ⟨by decide, by decide, ?_, by decide, by decide⟩
  refine Grid.forest_eq_ok_iff.2 ⟨[
    ([], .tree first.1 first.2), ([], .tree second.1 second.2)], ?_, by decide⟩
  refine .cons ?_ (.cons ?_ .nil)
  · exact .reference (by decide) (by decide) (by decide) (content_eq 4)
  · exact .reference (by decide) (by decide) (by decide) (content_eq 5)

end Twice

namespace Diamond

/-- A root sheet `R` that refers to a sheet `S` and then to the one that is called `second`. `S`
refers to a sheet `T`, whose field has the type `last`. -/
def grid (second last : String) : TextGrid where
  sheets := ["R", "S", "T"]
  rowExtent sheet := if sheet = "R" then 5 else 2
  text sheet row col :=
    if col = 2 then
      if sheet = "R" then (if row = 4 then "a" else "b") else if sheet = "S" then "c" else "x"
    else if col = 3 then
      if sheet = "R" then (if row = 4 then "S" else second) else if sheet = "S" then "T" else last
    else ""

/-- The request of a data row for what its type names. -/
def request (referrer : String) (row : Int) (sheet : String) : Request where
  sheet := sheet
  referrer := referrer
  row := row
  subProcess := .null
  pattern := ""

/-- What is built for `T`. -/
def lowest : Forest Node := .tree { name := "x", type := .leaf "int", template := "T" } .nil

/-- What is built for `S`. -/
def middle : Forest Node := .tree { name := "c", type := .reference "T", template := "S" } lowest

def schema : Schema where
  description := "b"
  version := "b"
  forest :=
    .node { name := "a", type := .reference "S", template := "R" } middle
      (.tree { name := "b", type := .reference "T", template := "R" } lowest)

theorem content_lowest {chain : List String} (hchain : "T" ∉ chain) (referrer : String)
    (row : Int) :
    (grid "T" "int").toGrid.content Twice.vocabulary chain (request referrer row "T") =
      .ok lowest := by
  refine Grid.content_eq_ok_iff.2 ⟨hchain, (by decide : "T" ∈ ["R", "S", "T"]),
    (by decide : (2 : Int) ≤ 2), Grid.forest_eq_ok_iff.2 ⟨[([], lowest)], ?_,
      (by decide : lowest = Sketch.assemble "T" [([], lowest)])⟩⟩
  exact .cons (.field rfl rfl rfl) .nil

theorem content_middle :
    (grid "T" "int").toGrid.content Twice.vocabulary ["R"] (request "R" 4 "S") = .ok middle := by
  refine Grid.content_eq_ok_iff.2 ⟨(by decide : "S" ∉ ["R"]), (by decide : "S" ∈ ["R", "S", "T"]),
    (by decide : (2 : Int) ≤ 2), Grid.forest_eq_ok_iff.2 ⟨[([], middle)], ?_, by decide⟩⟩
  exact .cons (.reference rfl rfl rfl (content_lowest (by decide) "S" 2)) .nil

theorem schema_eq : (grid "T" "int").toGrid.schema Twice.vocabulary "R" = .ok schema := by
  refine Grid.schema_eq_ok_iff.2 ⟨by decide, by decide, Grid.forest_eq_ok_iff.2 ⟨[
    ([], .tree { name := "a", type := .reference "S", template := "R" } middle),
    ([], .tree { name := "b", type := .reference "T", template := "R" } lowest)], ?_, by decide⟩,
    by decide, by decide⟩
  refine .cons (.reference rfl rfl rfl content_middle) (.cons ?_ .nil)
  exact .reference rfl rfl rfl (content_lowest (by decide) "R" 5)

end Diamond

end SheetSchema
