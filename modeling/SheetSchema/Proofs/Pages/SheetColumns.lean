import Mathlib.Data.List.Dedup
import SheetSchema.Proofs.Pages.Expansion
import SheetSchema.Proofs.References.TextGrid
import SheetSchema.Proofs.Trees.Paths
import SheetSchema.Proofs.Trees.RowNode

/-! The columns of a sheet's forest, told by its rows: one for every row that describes a field, and
one for every path that leads to nothing. -/
namespace SheetSchema

/-- The labels of the groups along a path. -/
def pathLabels (path : List Value) : List Label := path.map fun name => (name, "")

namespace Sketch

open Forest

/-- The signature of a field below some groups. -/
def fieldSignature (above : List Label) (field : List Value × Node × Forest SketchNode) :
    Value × Value × Value :=
  (field.2.1.name, field.2.1.type.name, .list (flatLabels (above ++ pathLabels field.1)))

/-- The signature of a group that nothing stands in. -/
def bareSignature (above : List Label) (path : List Value) : Value × Value × Value :=
  (path.getLastD "", "", .list (flatLabels (above ++ pathLabels path.dropLast)))

theorem fieldSignature_cons (above : List Label) (name : Value)
    (field : List Value × Node × Forest SketchNode) :
    fieldSignature above (name :: field.1, field.2) =
      fieldSignature (above ++ pathLabels [name]) field := by
  simp [fieldSignature, pathLabels]

theorem bareSignature_cons (above : List Label) (name : Value) {path : List Value}
    (h : path ≠ []) :
    bareSignature above (name :: path) = bareSignature (above ++ pathLabels [name]) path := by
  obtain ⟨first, path, rfl⟩ := List.exists_cons_of_ne_nil h
  simp [bareSignature, pathLabels]

/-- The signatures of the fields of a sketch and of its groups that nothing stands in. -/
def signatures (above : List Label) (sketch : Forest SketchNode) : List (Value × Value × Value) :=
  (fields sketch).map (fieldSignature above) ++ (barePaths sketch).map (bareSignature above)

section Node

variable {sheet : String} {above : List Label} {name : Value} {node : Node}
  {children rest : Forest SketchNode}

theorem signatures_field :
    signatures above (.node (.field node) children rest) =
      fieldSignature above ([], node, children) :: signatures above rest := by
  rw [signatures, fields, barePaths]
  rfl

theorem signatures_bare :
    (signatures above (.node (.group name) .nil rest)).Perm
      (bareSignature above [name] :: signatures above rest) := by
  rw [signatures, fields, barePaths]
  exact List.perm_middle

theorem signatures_group (hc : children ≠ .nil) :
    (signatures above (.node (.group name) children rest)).Perm
      (signatures (above ++ pathLabels [name]) children ++ signatures above rest) := by
  have hfields : (fields (.node (.group name) children rest)).map (fieldSignature above) =
      (fields children).map (fieldSignature (above ++ pathLabels [name])) ++
        (fields rest).map (fieldSignature above) := by
    rw [fields, List.map_append, List.map_map]
    congr 1
    exact List.map_congr_left fun field _ => fieldSignature_cons above name field
  have hbare : (barePaths (.node (.group name) children rest)).map (bareSignature above) =
      (barePaths children).map (bareSignature (above ++ pathLabels [name])) ++
        (barePaths rest).map (bareSignature above) := by
    rw [barePaths, if_neg hc, List.nil_append, List.map_append, List.map_map]
    congr 1
    exact List.map_congr_left fun path hpath =>
      bareSignature_cons above name (ne_nil_of_mem_barePaths hpath)
  rw [signatures, hfields, hbare, signatures, signatures, List.append_assoc, List.append_assoc]
  exact (List.perm_append_comm_assoc _ _ _).append_left _

theorem columns_field (h : node.type = .structural → children = .nil) :
    (tree node (children.map (toNode sheet))).columns above =
      [node.column node.type.name above] := by
  apply columns_tree_of_ne
  rintro ⟨ht, hne⟩
  exact hne (by rw [h ht, Forest.map])

theorem columns_group (hc : children ≠ .nil) :
    (tree (groupNode sheet name) (children.map (toNode sheet))).columns above =
      (children.map (toNode sheet)).columns (above ++ pathLabels [name]) := by
  have hne : children.map (toNode sheet) ≠ .nil := by
    cases children with
    | nil => exact absurd rfl hc
    | node _ _ _ => simp [Forest.map]
  rw [tree, columns, columns, List.append_nil, if_pos ⟨rfl, hne⟩]
  rfl

end Node

/-- The columns of a sketch are those of its fields and of its groups that nothing stands in. -/
theorem columns_map_toNode (sheet : String) (above : List Label) (sketch : Forest SketchNode)
    (hfields : ∀ field ∈ fields sketch, field.2.1.type = .structural → field.2.2 = .nil) :
    (((sketch.map (toNode sheet)).columns above).map Column.signature).Perm
      (signatures above sketch) := by
  induction sketch generalizing above with
  | nil => exact List.Perm.refl _
  | node value children rest ihc ihr =>
    rw [Forest.map, columns_node, List.map_append]
    cases value with
    | field node =>
      obtain ⟨hnode, hrest⟩ := List.forall_mem_cons.1 hfields
      have hcolumn : (node.column node.type.name above).signature =
          fieldSignature above ([], node, children) := by
        simp [Column.signature, Node.column, fieldSignature, pathLabels, flatLabels]
      rw [toNode, columns_field hnode, signatures_field, List.map_singleton, hcolumn]
      exact (ihr above hrest).cons _
    | group name =>
      rw [fields, List.forall_mem_append, List.forall_mem_map] at hfields
      have hrest := ihr above hfields.2
      rw [toNode_group]
      by_cases hc : children = .nil
      · subst hc
        have hcolumn : ((groupNode sheet name).column (groupNode sheet name).type.name
            above).signature = bareSignature above [name] := by
          simp [Column.signature, Node.column, bareSignature, pathLabels, flatLabels, groupNode,
            NodeType.name]
        rw [columns_field fun _ => rfl, List.map_singleton, hcolumn]
        exact (hrest.cons _).trans signatures_bare.symm
      · rw [columns_group hc]
        have hchildren := ihc (above ++ pathLabels [name]) hfields.1
        exact (hchildren.append hrest).trans (signatures_group hc).symm

end Sketch

namespace TextRow

variable (dataTypes : List Cell) (isRoot : Bool)

/-- The labels of a path of texts: each text, followed by the empty description of its group. -/
def labelsOf (path : List String) : Value := .list (path.flatMap fun text => [.str text, ""])

/-- The signature of the column of a row that describes a field. -/
def column (row : TextRow) : Value × Value × Value :=
  if row.RefersByNotes dataTypes isRoot then (row.notes, row.notes, labelsOf [])
  else (row.name, row.type, labelsOf row.path)

/-- The signature of the column of a group that nothing stands in. -/
def bareColumn (path : List String) : Value × Value × Value :=
  (path.getLastD "", "", labelsOf path.dropLast)

/-- A path of some rows that no row extends and no field stands at. -/
def LeadsNowhere (rows : List TextRow) (path : List String) : Prop :=
  path ≠ [] ∧ (∀ row ∈ rows, path <+: row.path → row.path = path) ∧
    ∀ row ∈ rows, row.IsField isRoot → row.path ≠ path

instance (rows : List TextRow) (path : List String) :
    Decidable (LeadsNowhere isRoot rows path) := by
  unfold LeadsNowhere
  infer_instance

/-- The signatures of the columns of a sheet with the given rows: one for every row that describes
a field, and one for every path that leads nowhere. -/
def columns (rows : List TextRow) : List (Value × Value × Value) :=
  (rows.filter (·.IsField isRoot)).map (column dataTypes isRoot) ++
    ((rows.map (·.path)).dedup.filter (LeadsNowhere isRoot rows)).map bareColumn

variable {dataTypes isRoot}

theorem flatLabels_pathLabels (path : List String) :
    Value.list (flatLabels (pathLabels (path.map Value.str))) = labelsOf path := by
  simp [flatLabels, pathLabels, labelsOf, List.flatMap_map]

theorem bareSignature_map (path : List String) :
    Sketch.bareSignature [] (path.map Value.str) = bareColumn path := by
  have hlast : (path.map Value.str).getLastD (.str "") = .str (path.getLastD "") := by
    rw [List.getLastD_eq_getLast?, List.getLastD_eq_getLast?, List.getLast?_map]
    cases path.getLast? <;> rfl
  rw [Sketch.bareSignature, hlast, List.nil_append, ← List.map_dropLast, flatLabels_pathLabels,
    bareColumn]

section Entered

variable {vocabulary : Vocabulary} {scope : Scope} {row : TextRow} {number : Int}

theorem not_isField_of_node?_eq_none (h : (row.toRow number).node? vocabulary scope = none) :
    ¬row.IsField scope.isRoot := by
  intro hfield
  have hcontent := content_toRow row vocabulary scope number
  unfold Row.node? at h
  rw [hcontent] at h
  by_cases hnotes : row.RefersByNotes vocabulary.dataTypes scope.isRoot
  · simp [hnotes] at h
  · simp [hnotes, hfield] at h

theorem signature_of_node? {node : Node}
    (h : (row.toRow number).node? vocabulary scope = some node) (below : Forest SketchNode) :
    row.IsField scope.isRoot ∧
      Sketch.fieldSignature [] (row.path.map Value.str, node, below) =
        row.column vocabulary.dataTypes scope.isRoot := by
  have hcontent := content_toRow row vocabulary scope number
  rw [Sketch.fieldSignature, List.nil_append, flatLabels_pathLabels, column]
  obtain ⟨hkind, rfl⟩ | ⟨hkind, rfl⟩ := Row.node?_cases h
  · rw [hkind] at hcontent
    have hnotes : ¬row.RefersByNotes vocabulary.dataTypes scope.isRoot := by
      intro hnotes
      simp [hnotes] at hcontent
    have hfield : row.IsField scope.isRoot := by
      by_contra hfield
      simp [hnotes, hfield] at hcontent
    have htype : ((row.toRow number).fieldType vocabulary).name = .str row.type := by
      rw [fieldType_toRow]
      by_cases hbasic : Cell.str row.type ∈ vocabulary.dataTypes
      · rw [if_pos hbasic]
        rfl
      · by_cases hempty : row.type = ""
        · rw [if_neg hbasic, if_pos hempty, hempty]
          rfl
        · rw [if_neg hbasic, if_neg hempty]
          rfl
    rw [if_neg hnotes, htype]
    exact ⟨hfield, rfl⟩
  · rw [hkind] at hcontent
    have hnotes : row.RefersByNotes vocabulary.dataTypes scope.isRoot := by
      by_contra hnotes
      by_cases hfield : row.IsField scope.isRoot <;> simp [hnotes, hfield] at hcontent
    rw [if_pos hnotes, hnotes.2.1]
    exact ⟨isField_of_refersByNotes hnotes, rfl⟩

/-- What is entered for a row: its path, and below it the field that it describes or nothing. -/
def Records (dataTypes : List Cell) (isRoot : Bool) (row : TextRow) (entry : Sketch.Entry) : Prop :=
  entry.1 = row.path.map Value.str ∧
    if row.IsField isRoot then
      ∃ node children, entry.2 = .tree node children ∧
        (node.type = .structural → children = .nil) ∧
        Sketch.fieldSignature [] (row.path.map Value.str, node, children.map .field) =
          row.column dataTypes isRoot
    else entry.2 = .nil

theorem records_of_entered {built : Request → Forest Node → Prop} {entry : Sketch.Entry}
    (h : (row.toRow number).Entered vocabulary scope built entry) :
    Records vocabulary.dataTypes scope.isRoot row entry := by
  unfold Records
  cases h with
  | bare _ hn => exact ⟨rfl, by rw [if_neg (not_isField_of_node?_eq_none hn)]⟩
  | @field node _ hn _ =>
    obtain ⟨hfield, hsignature⟩ := signature_of_node? hn (Forest.nil.map .field)
    rw [if_pos hfield]
    exact ⟨rfl, node, .nil, rfl, fun _ => rfl, hsignature⟩
  | @reference node _ children _ hn hr _ =>
    obtain ⟨hfield, hsignature⟩ := signature_of_node? hn (children.map .field)
    rw [if_pos hfield]
    have htype := Row.type_of_request? hn hr
    exact ⟨rfl, node, children, rfl, fun hs => by simp [htype] at hs, hsignature⟩

end Entered

section Entries

variable {dataTypes : List Cell} {isRoot : Bool} {rows : List TextRow} {entries : List Sketch.Entry}

theorem isTexts_of_records (h : List.Forall₂ (Records dataTypes isRoot) rows entries) :
    ∀ entry ∈ entries, Sketch.IsTexts entry.1 := by
  intro entry hentry
  obtain ⟨row, _, hrow⟩ := exists_of_forall₂_right h hentry
  exact hrow.1 ▸ Sketch.isTexts_map_str row.path

/-- The field of a row as it is entered. -/
theorem fields_of_records {row : TextRow} {entry : Sketch.Entry}
    (h : Records dataTypes isRoot row entry) :
    if row.IsField isRoot then
      ∃ field, Sketch.enteredFields entry = [field] ∧ field.1 = row.path.map Value.str ∧
        (field.2.1.type = .structural → field.2.2 = .nil) ∧
        Sketch.fieldSignature [] field = row.column dataTypes isRoot
    else Sketch.enteredFields entry = [] := by
  obtain ⟨hpath, h⟩ := h
  unfold Sketch.enteredFields
  by_cases hfield : row.IsField isRoot
  · rw [if_pos hfield] at h ⊢
    obtain ⟨node, children, htree, hnil, hsignature⟩ := h
    refine ⟨(row.path.map Value.str, node, children.map .field), ?_, rfl, ?_, hsignature⟩
    · simp [htree, hpath, Forest.tree, Forest.map, Sketch.fields]
    · intro ht
      rw [hnil ht]
      rfl
  · rw [if_neg hfield] at h ⊢
    simp [h, Forest.map, Sketch.fields]

/-- The fields of the rows, as they are entered. -/
theorem enteredFields_of_records (h : List.Forall₂ (Records dataTypes isRoot) rows entries) :
    let entered := entries.flatMap Sketch.enteredFields
    entered.map (Sketch.fieldSignature []) =
        (rows.filter (·.IsField isRoot)).map (column dataTypes isRoot) ∧
      entered.map (·.1) =
        (rows.filter (·.IsField isRoot)).map (·.path.map Value.str) ∧
      ∀ field ∈ entered, field.2.1.type = .structural → field.2.2 = .nil := by
  intro entered
  induction h with
  | nil => simp [entered]
  | @cons row entry rows entries hrow _ ih =>
    obtain ⟨hsignatures, hpaths, hnil⟩ := ih
    have hfields := fields_of_records hrow
    simp only [entered, List.flatMap_cons, List.map_append, List.forall_mem_append]
    rw [hsignatures, hpaths, List.filter_cons]
    by_cases hfield : row.IsField isRoot
    · rw [if_pos hfield] at hfields
      obtain ⟨field, heq, hpath, hstructural, hsignature⟩ := hfields
      simp only [heq, hfield, decide_true, ↓reduceIte, List.map_cons, List.map_nil, hsignature,
        hpath, List.singleton_append, true_and]
      exact ⟨by simpa using hstructural, hnil⟩
    · rw [if_neg hfield] at hfields
      simp only [hfields, hfield, decide_false, Bool.false_eq_true, ↓reduceIte, List.map_nil,
        List.nil_append, true_and]
      exact ⟨by simp, hnil⟩

theorem paths_of_records (h : List.Forall₂ (Records dataTypes isRoot) rows entries) :
    entries.map (·.1) = rows.map (·.path.map Value.str) := by
  induction h with
  | nil => rfl
  | cons hrow _ ih => rw [List.map_cons, List.map_cons, ih, hrow.1]

theorem eq_of_map_str {path other : List String} (h : path.map Value.str = other.map Value.str) :
    path = other :=
  List.map_injective_iff.2 (fun _ _ h => by simpa using h) h

theorem prefix_map_str {path other : List String} :
    path.map Value.str <+: other.map Value.str ↔ path <+: other :=
  List.prefix_map_iff_of_injective fun _ _ h => by simpa using h

/-- A prefix that is not extended by any name is all of the list. -/
theorem eq_of_prefix {path other : List Value} (h : path <+: other)
    (hextend : ∀ name, ¬path ++ [name] <+: other) : other = path := by
  obtain ⟨more, rfl⟩ := h
  cases more with
  | nil => exact List.append_nil _
  | cons name more =>
    refine absurd ⟨more, ?_⟩ (hextend name)
    simp

theorem exists_prefix_of_records (h : List.Forall₂ (Records dataTypes isRoot) rows entries)
    (path : List Value) :
    (∃ entry ∈ entries, path <+: entry.1) ↔ ∃ row ∈ rows, path <+: row.path.map Value.str := by
  have hleft : (∃ entry ∈ entries, path <+: entry.1) ↔
      ∃ other ∈ entries.map (·.1), path <+: other := by simp
  rw [hleft, paths_of_records h]
  simp

theorem forall_fields_ne_of_records (h : List.Forall₂ (Records dataTypes isRoot) rows entries)
    (path : List Value) :
    (∀ field ∈ Sketch.fields (Sketch.ofEntries entries), field.1 ≠ path) ↔
      ∀ row ∈ rows, row.IsField isRoot → row.path.map Value.str ≠ path := by
  have hperm := (Sketch.fields_ofEntries (isTexts_of_records h)).map (·.1)
  rw [(enteredFields_of_records h).2.1] at hperm
  have hleft : (∀ field ∈ Sketch.fields (Sketch.ofEntries entries), field.1 ≠ path) ↔
      path ∉ (Sketch.fields (Sketch.ofEntries entries)).map (·.1) := by
    simp only [List.mem_map, not_exists, not_and, ne_eq]
  rw [hleft, hperm.mem_iff]
  simp only [List.mem_map, List.mem_filter, decide_eq_true_eq, not_exists, not_and, and_imp,
    ne_eq]

/-- Nothing stands in the groups whose paths lead nowhere. -/
theorem mem_barePaths_of_records (h : List.Forall₂ (Records dataTypes isRoot) rows entries)
    {path : List Value} :
    path ∈ Sketch.barePaths (Sketch.ofEntries entries) ↔
      ∃ texts, path = texts.map Value.str ∧ texts ∈ rows.map (·.path) ∧
        LeadsNowhere isRoot rows texts := by
  have htexts := isTexts_of_records h
  rw [Sketch.mem_barePaths_iff (Sketch.nodup_paths_ofEntries htexts),
    forall_fields_ne_of_records h]
  simp only [Sketch.mem_paths_ofEntries htexts, exists_prefix_of_records h]
  constructor
  · rintro ⟨⟨hne, row, hrow, hpre⟩, hextend, hfield⟩
    have hmax (row : TextRow) (hrow : row ∈ rows) (hpre : path <+: row.path.map Value.str) :
        row.path.map Value.str = path :=
      eq_of_prefix hpre fun name hname => hextend name ⟨by simp, row, hrow, hname⟩
    have hpath := hmax row hrow hpre
    subst hpath
    refine ⟨row.path, rfl, List.mem_map_of_mem hrow, ?_, fun other hother hpre => ?_, ?_⟩
    · exact fun hnil => hne (by rw [hnil, List.map_nil])
    · exact eq_of_map_str (hmax other hother (prefix_map_str.2 hpre))
    · exact fun other hother hof heq => hfield other hother hof (by rw [heq])
  · rintro ⟨texts, rfl, hmem, hne, hmax, hfield⟩
    obtain ⟨row, hrow, rfl⟩ := List.mem_map.1 hmem
    refine ⟨⟨by simpa using hne, row, hrow, List.prefix_rfl⟩, ?_, ?_⟩
    · rintro name ⟨_, other, hother, hpre⟩
      have hpre' : row.path.map Value.str <+: other.path.map Value.str :=
        (List.prefix_append _ _).trans hpre
      have heq := hmax other hother (prefix_map_str.1 hpre')
      rw [heq] at hpre
      have hlength := hpre.length_le
      rw [List.length_append, List.length_singleton] at hlength
      omega
    · exact fun other hother hof heq => hfield other hother hof (eq_of_map_str heq)

/-- The columns of a sheet are those that its rows tell. -/
theorem columns_perm (h : List.Forall₂ (Records dataTypes isRoot) rows entries) (sheet : String) :
    (((Sketch.assemble sheet entries).columns []).map Column.signature).Perm
      (columns dataTypes isRoot rows) := by
  have htexts := isTexts_of_records h
  obtain ⟨hsignatures, _, hnil⟩ := enteredFields_of_records h
  have hfields := Sketch.fields_ofEntries htexts
  have hinj : Function.Injective (List.map Value.str) := fun _ _ => eq_of_map_str
  have hbare : (Sketch.barePaths (Sketch.ofEntries entries)).Perm
      (((rows.map (·.path)).dedup.filter (LeadsNowhere isRoot rows)).map (List.map Value.str)) := by
    refine (List.perm_ext_iff_of_nodup ?_ ?_).2 fun path => ?_
    · exact (Sketch.barePaths_sublist _).nodup (Sketch.nodup_paths_ofEntries htexts)
    · exact (((List.nodup_dedup _).filter _).map hinj)
    · rw [mem_barePaths_of_records h]
      simp only [List.mem_map, List.mem_filter, List.mem_dedup, decide_eq_true_eq]
      constructor
      · rintro ⟨texts, rfl, hmem, hnowhere⟩
        exact ⟨texts, ⟨hmem, hnowhere⟩, rfl⟩
      · rintro ⟨texts, ⟨hmem, hnowhere⟩, rfl⟩
        exact ⟨texts, rfl, hmem, hnowhere⟩
  refine (Sketch.columns_map_toNode sheet [] _ fun field hmem => ?_).trans ?_
  · exact hnil field (hfields.mem_iff.1 hmem)
  · apply List.Perm.append
    · exact hsignatures ▸ hfields.map _
    · apply (hbare.map _).trans
      rw [List.map_map]
      exact List.Perm.of_eq (List.map_congr_left fun path _ => bareSignature_map path)

/-- A forest is empty if no row has a path or describes a field. -/
theorem assemble_eq_nil_iff (h : List.Forall₂ (Records dataTypes isRoot) rows entries)
    (sheet : String) :
    Sketch.assemble sheet entries = .nil ↔ ∀ row ∈ rows, row.path = [] ∧ ¬row.IsField isRoot := by
  have htexts := isTexts_of_records h
  have hpaths : Sketch.paths (Sketch.ofEntries entries) = [] ↔ ∀ row ∈ rows, row.path = [] := by
    have hentries : (∀ row ∈ rows, row.path = []) ↔ ∀ entry ∈ entries, entry.1 = [] := by
      have hmap := paths_of_records h
      have hleft : (∀ entry ∈ entries, entry.1 = []) ↔ ∀ path ∈ entries.map (·.1), path = [] := by
        simp
      rw [hleft, hmap]
      simp
    rw [hentries, List.eq_nil_iff_forall_not_mem]
    constructor
    · intro hnone entry hentry
      by_contra hne
      exact hnone entry.1 ((Sketch.mem_paths_ofEntries htexts).2
        ⟨hne, entry, hentry, List.prefix_rfl⟩)
    · intro hall path hpath
      obtain ⟨hne, entry, hentry, hpre⟩ := (Sketch.mem_paths_ofEntries htexts).1 hpath
      rw [hall entry hentry] at hpre
      exact hne (List.prefix_nil.1 hpre)
  have hfields : Sketch.fields (Sketch.ofEntries entries) = [] ↔
      ∀ row ∈ rows, ¬row.IsField isRoot := by
    have hlength := (Sketch.fields_ofEntries htexts).length_eq
    have hcount := congrArg List.length (enteredFields_of_records h).1
    rw [List.length_map, List.length_map] at hcount
    rw [← List.length_eq_zero_iff, hlength, hcount, List.length_eq_zero_iff,
      List.filter_eq_nil_iff]
    simp
  have hnil : Sketch.assemble sheet entries = .nil ↔ Sketch.ofEntries entries = .nil := by
    unfold Sketch.assemble
    cases Sketch.ofEntries entries <;> simp [Forest.map]
  rw [hnil, Sketch.eq_nil_iff, hpaths, hfields]
  exact forall₂_and.symm.trans (by simp [imp_and])

end Entries

end TextRow

end SheetSchema
