import SheetSchema.Proofs.Pages.Contribution
import SheetSchema.Proofs.References.TextGrid
import SheetSchema.Proofs.Trees.WellTyped

/-! The kinds of nodes in built trees. A node is classified by templates alone, its own and those of
its children. In a tree that is built, over any source, this tells what the node is by its type: a
group is a structural node with children, a complex node a reference with children, whose one
template is the sheet that it names, and every other node has no children. -/
namespace SheetSchema

/-- The kind of a node as its type tells it. A leaf with children has none. -/
def NodeType.kindAbove (type : NodeType) (children : Forest Node) : Option Kind :=
  if children = .nil then some .simple
  else match type with
    | .structural => some .group
    | .reference (.str sheet) => some (.complex [.str sheet])
    | _ => none

namespace Forest

variable {sheets : List String} {dataTypes : List Cell} {chain : List String} {sheet : String}
  {node : Node} {children : Forest Node}

/-- What a reference names is neither its own sheet nor a basic type, and what stands below it is
well typed for the sheet that it names. -/
theorem WellTyped.reference (h : (tree node children).WellTyped sheets dataTypes chain sheet)
    (hsheet : sheet ∈ chain) {target : Value} (ht : node.type = .reference target) :
    ∃ name, target = .str name ∧ name ≠ "" ∧ .str name ∉ dataTypes ∧ name ∈ sheets ∧
      name ≠ sheet ∧ children.WellTyped sheets dataTypes (chain ++ [name]) name := by
  obtain ⟨_, htype, _⟩ := h
  rw [ht] at htype
  obtain ⟨name, rfl, hchain, hmem, hname, hbasic, hchildren⟩ := htype
  refine ⟨name, rfl, hname, hbasic, hmem, ?_, hchildren⟩
  rintro rfl
  exact hchain hsheet

theorem WellTyped.structural (h : (tree node children).WellTyped sheets dataTypes chain sheet)
    (ht : node.type = .structural) : children.WellTyped sheets dataTypes chain sheet := by
  obtain ⟨_, htype, _⟩ := h
  rw [ht] at htype
  exact htype.2

theorem WellTyped.leaf (h : (tree node children).WellTyped sheets dataTypes chain sheet)
    {dataType : Value} (ht : node.type = .leaf dataType) :
    dataType.isAmong dataTypes = true ∧ children = .nil := by
  obtain ⟨_, htype, _⟩ := h
  rwa [ht] at htype

theorem WellTyped.classify_eq (h : (tree node children).WellTyped sheets dataTypes chain sheet)
    (hsheet : sheet ∈ chain) :
    classify node.template (children.roots.map (·.template)) = node.type.kindAbove children := by
  have htemplate : node.template = .str sheet := h.1
  unfold NodeType.kindAbove
  by_cases hnil : children = .nil
  · rw [if_pos hnil, hnil]
    rfl
  · rw [if_neg hnil, htemplate]
    cases ht : node.type with
    | structural =>
      have hchildren := h.structural ht
      rw [classify_of_forall_eq (roots_ne_nil hnil)
        (by simpa using fun _ => hchildren.template_eq), if_pos rfl]
    | leaf dataType => exact absurd (h.leaf ht).2 hnil
    | reference target =>
      obtain ⟨name, rfl, _, _, _, hname, hchildren⟩ := h.reference hsheet ht
      rw [classify_of_forall_eq (roots_ne_nil hnil)
        (by simpa using fun _ => hchildren.template_eq), if_neg hname]

end Forest

section Told

variable {type : NodeType} {children : Forest Node}

theorem kindAbove_eq_simple_iff : type.kindAbove children = some .simple ↔ children = .nil := by
  unfold NodeType.kindAbove
  by_cases h : children = .nil
  · simp [h]
  · rw [if_neg h]
    split <;> simp [h]

theorem kindAbove_eq_group_iff :
    type.kindAbove children = some .group ↔ type = .structural ∧ children ≠ .nil := by
  unfold NodeType.kindAbove
  by_cases h : children = .nil
  · simp [h]
  · rw [if_neg h]
    split <;> simp_all

theorem kindAbove_eq_complex_iff {templates : List Cell} :
    type.kindAbove children = some (.complex templates) ↔
      ∃ sheet, type = .reference (.str sheet) ∧ children ≠ .nil ∧ templates = [.str sheet] := by
  unfold NodeType.kindAbove
  by_cases h : children = .nil
  · simp [h]
  · rw [if_neg h]
    split <;> simp_all [eq_comm]

end Told

/-- In a tree that is built, over any source, the top level stands on the root sheet; a leaf has a
basic type and no children; the children of a structural node stand on its sheet; and a reference
names another existing sheet that is no basic type, on which its children stand. So the kind of a
node is told by its type and by whether it has children. -/
theorem kinds_of_build {σ : Type} {source : Source σ} {vocabulary : Vocabulary} {root : String}
    {state : σ} {journal : Journal} {schema : Schema}
    (h : (build source vocabulary root state journal).1 = .ok schema) :
    (∀ node ∈ schema.forest.roots, node.template = .str root) ∧
    ∀ node children, (node, children) ∈ schema.forest.branches →
      (∀ dataType, node.type = .leaf dataType →
        children = .nil ∧ dataType.isAmong vocabulary.dataTypes = true) ∧
      (node.type = .structural → ∀ child ∈ children.roots, child.template = node.template) ∧
      (∀ target, node.type = .reference target → ∃ sheet, target = .str sheet ∧ sheet ≠ "" ∧
        .str sheet ∉ vocabulary.dataTypes ∧ sheet ∈ source.sheets ∧ node.template ≠ .str sheet ∧
        ∀ child ∈ children.roots, child.template = .str sheet) ∧
      let kind := classify node.template (children.roots.map (·.template))
      (kind = some .group ↔ node.type = .structural ∧ children ≠ .nil) ∧
      (∀ templates, kind = some (.complex templates) ↔
        ∃ sheet, node.type = .reference (.str sheet) ∧ children ≠ .nil ∧
          templates = [.str sheet]) ∧
      (kind = some .simple ↔ children = .nil) := by
  have htyped := wellTyped_build h
  refine ⟨fun node hnode => htyped.template_eq hnode, fun node children hbranch => ?_⟩
  obtain ⟨chain, sheet, _, hmem, hnode⟩ := htyped.of_branch hbranch
  have hsheet : sheet ∈ chain := hmem (List.mem_singleton_self root)
  have htemplate : node.template = .str sheet := hnode.1
  have hkind := hnode.classify_eq hsheet
  refine ⟨fun dataType ht => (hnode.leaf ht).symm, fun ht child hchild => ?_, fun target ht => ?_,
    ?_⟩
  · rw [htemplate]
    exact (hnode.structural ht).template_eq hchild
  · obtain ⟨name, rfl, hname, hbasic, hexists, hother, hchildren⟩ := hnode.reference hsheet ht
    refine ⟨name, rfl, hname, hbasic, hexists, ?_, fun _ => hchildren.template_eq⟩
    rw [htemplate]
    simpa using hother.symm
  · intro kind
    have hkind : kind = node.type.kindAbove children := hkind
    rw [hkind]
    exact ⟨kindAbove_eq_group_iff, fun templates => kindAbove_eq_complex_iff,
      kindAbove_eq_simple_iff⟩

/-- Both references to `T` are complex, and what stands in the group below them is simple. -/
theorem kinds_of_build_twice :
    (build (Twice.grid.toGrid.source : Source Unit) Twice.vocabulary "R" () #[]).1 =
        .ok Twice.schema ∧
      (∀ branch ∈ [Twice.first, Twice.second], branch ∈ Twice.schema.forest.branches ∧
        classify branch.1.template (branch.2.roots.map (·.template)) =
          some (.complex [.str "T"])) ∧
      ∀ node children, (node, children) ∈ Twice.schema.forest.branches → node.name = "x" →
        classify node.template (children.roots.map (·.template)) = some .simple := by
  have hbuilt := (build_grid Twice.grid.toGrid Twice.vocabulary "R" () #[]).trans Twice.schema_eq
  obtain ⟨_, hnodes⟩ := kinds_of_build hbuilt
  refine ⟨hbuilt, fun branch hbranch => ?_, fun node children hmem hname => ?_⟩
  · have hmem : branch ∈ Twice.schema.forest.branches := by
      revert branch
      decide
    have htype : branch.1.type = .reference "T" ∧ branch.2 ≠ .nil := by
      revert branch
      decide
    obtain ⟨_, _, _, _, hcomplex, _⟩ := hnodes branch.1 branch.2 hmem
    exact ⟨hmem, (hcomplex _).2 ⟨"T", htype.1, htype.2, rfl⟩⟩
  · obtain ⟨_, _, _, _, _, hsimple⟩ := hnodes node children hmem
    have hleaf : ∀ branch ∈ Twice.schema.forest.branches, branch.1.name = "x" →
        branch.2 = .nil := by decide
    exact hsimple.2 (hleaf _ hmem hname)

end SheetSchema
