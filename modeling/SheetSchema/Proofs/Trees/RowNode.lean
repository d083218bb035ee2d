import SheetSchema.Proofs.Building.ScannedForest
import SheetSchema.Proofs.Trees.Assembly

/-! The node of a data row and its request: they agree on the sheet that is referred to, and both
but for what they take from the row's context depend on the vocabulary only through the basic types
and the layout, and on the scope only through its sheet and through whether this is the root. -/
namespace SheetSchema

/-- The node without its description. -/
def Node.plain (node : Node) : Node := { node with description := "" }

namespace Value

/-- A value that can stand in a text is a text, if it is not absent. -/
theorem exists_str_of_asText? {v : Value} (h : v.asText?.isSome = true) (hv : ¬v.isVoid = true) :
    ∃ s, v = .str s := by
  unfold asText? at h
  split at h
  next s => exact ⟨s, rfl⟩
  · simp [hv] at h

theorem exists_str_of_isText {v : Value} (h : v.isText = true) : ∃ s, v = .str s := by
  cases v with
  | cell c =>
    cases c with
    | str s => exact ⟨s, rfl⟩
    | _ => simp [isText, Cell.isText] at h
  | _ => simp [isText] at h

end Value

namespace Row

variable {vocabulary : Vocabulary} {scope : Scope} {row : Row} {node : Node}

theorem fieldType_eq_leaf_iff {dataType : Value} :
    row.fieldType vocabulary = .leaf dataType ↔
      row.type = dataType ∧ row.type.isAmong vocabulary.dataTypes = true := by
  unfold fieldType isBasic
  by_cases hb : row.type.isAmong vocabulary.dataTypes = true
  · simp [hb]
  · by_cases hv : row.type.isVoid = true <;> simp [hb, hv]

theorem fieldType_eq_reference_iff {target : Value} :
    row.fieldType vocabulary = .reference target ↔
      row.type = target ∧ ¬row.type.isAmong vocabulary.dataTypes = true ∧
        ¬row.type.isVoid = true := by
  unfold fieldType isBasic
  by_cases hb : row.type.isAmong vocabulary.dataTypes = true
  · simp [hb]
  · by_cases hv : row.type.isVoid = true <;> simp [hb, hv]

/-- The two kinds of rows with a node. -/
theorem node?_cases (h : row.node? vocabulary scope = some node) :
    row.content vocabulary scope = .field ∧
        node = { name := row.name, type := row.fieldType vocabulary, template := .str scope.sheet,
                 description := row.description vocabulary scope } ∨
      row.content vocabulary scope = .notesReference ∧
        node = { name := row.notes, type := .reference row.notes, template := .str scope.sheet,
                 description := if row.hasPattern then "" else row.notes } := by
  unfold node? at h
  cases hc : row.content vocabulary scope with
  | nothing => simp [hc] at h
  | field =>
    simp only [hc, Option.some.injEq] at h
    exact .inl ⟨rfl, h.symm⟩
  | notesReference =>
    simp only [hc, Option.some.injEq] at h
    exact .inr ⟨rfl, h.symm⟩

/-- The two kinds of rows that request the content of a sheet. -/
theorem request?_cases {request : Request} (h : row.request? vocabulary scope = some request) :
    row.content vocabulary scope = .field ∧
        row.fieldType vocabulary = .reference (.str request.sheet) ∨
      row.content vocabulary scope = .notesReference ∧ row.notes = .str request.sheet := by
  unfold request? at h
  cases hc : row.content vocabulary scope with
  | nothing => simp [hc] at h
  | field =>
    simp only [hc] at h
    split at h
    next sheet htype =>
      cases h
      exact .inl ⟨rfl, htype⟩
    · contradiction
  | notesReference =>
    simp only [hc] at h
    split at h
    next sheet hnotes =>
      cases h
      exact .inr ⟨rfl, hnotes⟩
    · contradiction

theorem template_of_node? (h : row.node? vocabulary scope = some node) :
    node.template = .str scope.sheet := by
  obtain ⟨_, rfl⟩ | ⟨_, rfl⟩ := node?_cases h <;> rfl

/-- The type of a node is a basic one if it is a leaf. -/
theorem isAmong_of_leaf {dataType : Value} (h : row.node? vocabulary scope = some node)
    (ht : node.type = .leaf dataType) : dataType.isAmong vocabulary.dataTypes = true := by
  obtain ⟨_, rfl⟩ | ⟨_, rfl⟩ := node?_cases h
  · obtain ⟨rfl, hb⟩ := fieldType_eq_leaf_iff.1 ht
    exact hb
  · simp at ht

theorem not_isAmong_of_notesReference (h : row.content vocabulary scope = .notesReference) :
    ¬row.notes.isVoid = true ∧ ¬row.notes.isAmong vocabulary.dataTypes = true := by
  unfold content at h
  split at h
  next hkind => exact ⟨hkind.2.2.2.1, hkind.2.2.2.2⟩
  · split at h <;> simp at h

/-- What a row requests has a name and is no basic type. -/
theorem sheet_of_request? {request : Request} (h : row.request? vocabulary scope = some request) :
    request.sheet ≠ "" ∧ .str request.sheet ∉ vocabulary.dataTypes := by
  have hv : ¬(Value.str request.sheet).isVoid = true ∧
      ¬(Value.str request.sheet).isAmong vocabulary.dataTypes = true := by
    obtain ⟨_, htype⟩ | ⟨hc, hnotes⟩ := request?_cases h
    · obtain ⟨ht, hb, hv⟩ := fieldType_eq_reference_iff.1 htype
      rw [ht] at hb hv
      exact ⟨hv, hb⟩
    · rw [← hnotes]
      exact not_isAmong_of_notesReference hc
  rwa [Value.isVoid_str, Value.isAmong_str] at hv

/-- The type of a row's node is what the row requests. -/
theorem type_of_request? {request : Request} (h : row.node? vocabulary scope = some node)
    (hr : row.request? vocabulary scope = some request) :
    node.type = .reference (.str request.sheet) := by
  obtain ⟨hc, rfl⟩ | ⟨hc, rfl⟩ := node?_cases h
  · obtain ⟨_, htype⟩ | ⟨hc', _⟩ := request?_cases hr
    · exact htype
    · simp [hc] at hc'
  · obtain ⟨hc', _⟩ | ⟨_, hnotes⟩ := request?_cases hr
    · simp [hc] at hc'
    · simp [hnotes]

/-- A row whose values have a meaning requests the sheet that its node refers to. -/
theorem exists_request? {target : Value} (hm : row.hasMeaning vocabulary scope = true)
    (h : row.node? vocabulary scope = some node) (ht : node.type = .reference target) :
    ∃ request, row.request? vocabulary scope = some request := by
  unfold hasMeaning at hm
  obtain ⟨hc, rfl⟩ | ⟨hc, rfl⟩ := node?_cases h
  · obtain ⟨_, hb, hv⟩ := fieldType_eq_reference_iff.1 ht
    have htext : row.type.asText?.isSome = true := by
      simp only [hc, isBasic, hb, Bool.and_eq_true, Bool.false_or] at hm
      exact hm.2.1.2.1
    obtain ⟨sheet, hs⟩ := Value.exists_str_of_asText? htext hv
    have htype : row.fieldType vocabulary = .reference (.str sheet) :=
      fieldType_eq_reference_iff.2 ⟨hs, hb, hv⟩
    simp [request?, hc, htype]
  · have htext : row.notes.isText = true := by
      simp only [hc, Bool.and_eq_true] at hm
      exact hm.2
    obtain ⟨sheet, hs⟩ := Value.exists_str_of_isText htext
    simp [request?, hc, hs]

section Entered

variable {built : Request → Forest Node → Prop} {entry : Sketch.Entry}

/-- A reference that a row enters is the node of the row, with what it requests below it, or stands
further below. -/
theorem Entered.exists_request (h : row.Entered vocabulary scope built entry)
    {branch : Node × Forest Node} (hbranch : branch ∈ entry.2.branches) {target : Value}
    (ht : branch.1.type = .reference target) :
    ∃ request, row.request? vocabulary scope = some request ∧ ∃ children,
      built request children ∧
        (target = .str request.sheet ∧ branch.2 = children ∨ branch ∈ children.branches) := by
  cases h with
  | bare _ _ => simp [Forest.branches] at hbranch
  | field hm hn hr =>
    simp only [Forest.tree, Forest.branches, List.append_nil, List.mem_singleton] at hbranch
    subst hbranch
    obtain ⟨request, hrequest⟩ := exists_request? hm hn ht
    simp [hr] at hrequest
  | @reference node request children hm hn hr hchildren =>
    simp only [Forest.tree, Forest.branches, List.append_nil, List.mem_cons] at hbranch
    refine ⟨request, hr, children, hchildren, ?_⟩
    rcases hbranch with rfl | hbranch
    · have htype := type_of_request? hn hr
      rw [ht] at htype
      cases htype
      exact .inl ⟨rfl, rfl⟩
    · exact .inr hbranch

/-- A row that requests a sheet enters a reference to it. -/
theorem Entered.exists_tree (h : row.Entered vocabulary scope built entry) {request : Request}
    (hr : row.request? vocabulary scope = some request) :
    ∃ node children, entry.2 = .tree node children ∧ built request children ∧
      node.type = .reference (.str request.sheet) := by
  cases h with
  | bare _ hn => simp [request?_of_node?_eq_none hn] at hr
  | field _ _ hclosed => simp [hclosed] at hr
  | @reference node other children _ hn hother hchildren =>
    rw [hr] at hother
    cases hother
    exact ⟨node, children, rfl, hchildren, type_of_request? hn hr⟩

end Entered

end Row

/-- Two vocabularies with the same basic types and the same layout, whatever the sub-processes. -/
structure Vocabulary.Alike (vocabulary other : Vocabulary) : Prop where
  dataTypes : vocabulary.dataTypes = other.dataTypes
  layout : vocabulary.layout = other.layout

theorem Vocabulary.Alike.refl (vocabulary : Vocabulary) : vocabulary.Alike vocabulary := ⟨rfl, rfl⟩

/-- Two scopes of the same sheet, whatever they hand over. -/
structure Scope.Alike (scope other : Scope) : Prop where
  sheet : scope.sheet = other.sheet
  isRoot : scope.isRoot = other.isRoot

/-- Two requests for the same sheet by the same row, whatever they hand over. -/
structure Request.Alike (request other : Request) : Prop where
  sheet : request.sheet = other.sheet
  referrer : request.referrer = other.referrer
  row : request.row = other.row

/-- Two forests that differ at most in descriptions. -/
def Forest.Alike (forest other : Forest Node) : Prop :=
  forest.map Node.plain = other.map Node.plain

/-- Two entries under the same path that differ at most in descriptions. -/
structure Sketch.Entry.Alike (entry other : Sketch.Entry) : Prop where
  path : entry.1 = other.1
  forest : entry.2.Alike other.2

/-- Groups have no descriptions. -/
theorem Sketch.alike_assemble {sheet : String} {entries entries' : List Entry}
    (h : List.Forall₂ Entry.Alike entries entries') :
    (assemble sheet entries).Alike (assemble sheet entries') := by
  have hplain (name : Value) : (groupNode sheet name).plain = groupNode sheet name := rfl
  rw [Forest.Alike, map_assemble hplain, map_assemble hplain]
  congr 1
  induction h with
  | nil => rfl
  | cons h _ ih => rw [List.map_cons, List.map_cons, h.path, h.forest, ih]

theorem Forest.alike_tree {node node' : Node} {children children' : Forest Node}
    (hnode : node.plain = node'.plain) (h : children.Alike children') :
    (tree node children).Alike (tree node' children') := by
  rw [Alike] at h
  simp only [Alike, tree, map, hnode, h]

namespace Row

variable {vocabulary vocabulary' : Vocabulary} {scope other : Scope} (row : Row)

theorem content_congr (hv : vocabulary.Alike vocabulary') (h : scope.Alike other) :
    row.content vocabulary scope = row.content vocabulary' other := by
  simp [content, hv.dataTypes, h.isRoot]

theorem fieldType_congr (hv : vocabulary.Alike vocabulary') :
    row.fieldType vocabulary = row.fieldType vocabulary' := by
  rw [fieldType, isBasic, hv.dataTypes]
  rfl

/-- But for its description, the node of a row depends on the sheet and the basic types alone. -/
theorem plain_node?_congr (hv : vocabulary.Alike vocabulary') (h : scope.Alike other) :
    (row.node? vocabulary scope).map Node.plain = (row.node? vocabulary' other).map Node.plain := by
  unfold node?
  rw [content_congr row hv h, fieldType_congr row hv, h.sheet]
  cases row.content vocabulary' other <;> rfl

theorem request?_alike (hv : vocabulary.Alike vocabulary') (h : scope.Alike other) :
    Option.Rel Request.Alike (row.request? vocabulary scope) (row.request? vocabulary' other) := by
  unfold request?
  rw [content_congr row hv h, fieldType_congr row hv, h.sheet]
  cases row.content vocabulary' other with
  | nothing => exact .none
  | field =>
    dsimp only
    split
    · exact .some ⟨rfl, rfl, rfl⟩
    · exact .none
  | notesReference =>
    dsimp only
    split
    · exact .some ⟨rfl, rfl, rfl⟩
    · exact .none

end Row

end SheetSchema
