import SheetSchema.Proofs.Building.Invariant
import SheetSchema.Proofs.Trees.Assembly
import SheetSchema.Proofs.Trees.RowNode

/-! The discipline of templates and types in built forests. A group has the template of what
stands in it and no description, a leaf has a basic type and no children, and a reference names a
sheet that is not being read, which is the template of everything below it. -/
namespace SheetSchema

/-- A forest for a sheet, below a chain of sheets that are being read. -/
def Forest.WellTyped (sheets : List String) (dataTypes : List Cell) (chain : List String)
    (sheet : String) : Forest Node → Prop
  | nil => True
  | node value children rest =>
    value.template = .str sheet ∧
      (match value.type with
      | .structural =>
        (children = nil ∨ value.description = "") ∧ children.WellTyped sheets dataTypes chain sheet
      | .leaf dataType => dataType.isAmong dataTypes = true ∧ children = nil
      | .reference target => ∃ name, target = .str name ∧ name ∉ chain ∧ name ∈ sheets ∧
          name ≠ "" ∧ .str name ∉ dataTypes ∧
          children.WellTyped sheets dataTypes (chain ++ [name]) name) ∧
      rest.WellTyped sheets dataTypes chain sheet

namespace Forest

variable {sheets : List String} {dataTypes : List Cell} {chain : List String} {sheet : String}

theorem inherited_wellTyped :
    Sketch.Inherited sheet (WellTyped sheets dataTypes chain sheet) where
  nil := trivial
  node := fun node children rest => by simp [WellTyped, tree, and_assoc]
  group := fun name children => by simp [WellTyped, tree, Sketch.groupNode]

theorem WellTyped.template_eq {forest : Forest Node}
    (h : forest.WellTyped sheets dataTypes chain sheet) {node : Node} (hn : node ∈ forest.roots) :
    node.template = .str sheet := by
  induction forest with
  | nil => simp [roots] at hn
  | node value children rest _ ih =>
    rcases List.mem_cons.1 hn with rfl | hn
    · exact h.1
    · exact ih h.2.2 hn

/-- Every node of a well-typed forest is well typed with what stands below it, for a sheet and below
a chain that goes on from that of the forest. -/
theorem WellTyped.of_branch {forest : Forest Node}
    (h : forest.WellTyped sheets dataTypes chain sheet) {branch : Node × Forest Node}
    (hbranch : branch ∈ forest.branches) :
    ∃ chain' sheet', chain <+: chain' ∧ (sheet ∈ chain → sheet' ∈ chain') ∧
      (tree branch.1 branch.2).WellTyped sheets dataTypes chain' sheet' := by
  induction forest generalizing chain sheet with
  | nil => simp [branches] at hbranch
  | node value children rest ihc ihr =>
    obtain ⟨htemplate, htype, hrest⟩ := h
    simp only [branches, List.mem_cons, List.mem_append] at hbranch
    rcases hbranch with rfl | hbranch | hbranch
    · exact ⟨chain, sheet, List.prefix_rfl, id, htemplate, htype, trivial⟩
    · cases hv : value.type with
      | structural =>
        rw [hv] at htype
        exact ihc htype.2 hbranch
      | leaf dataType =>
        rw [hv] at htype
        simp [htype.2, branches] at hbranch
      | reference other =>
        rw [hv] at htype
        obtain ⟨name, rfl, _, _, _, _, hchildren⟩ := htype
        obtain ⟨chain', sheet', hpre, hmem, htyped⟩ := ihc hchildren hbranch
        exact ⟨chain', sheet', (List.prefix_append chain [name]).trans hpre,
          fun _ => hmem (by simp), htyped⟩
    · exact ihr hrest hbranch

/-- A reference anywhere in a well-typed forest names a sheet off a chain that goes on from that of
the forest, and what stands below it is well typed in turn. -/
theorem WellTyped.of_reference {forest : Forest Node}
    (h : forest.WellTyped sheets dataTypes chain sheet) {branch : Node × Forest Node}
    (hbranch : branch ∈ forest.branches) {target : Value} (ht : branch.1.type = .reference target) :
    ∃ name chain', target = .str name ∧ chain <+: chain' ∧ name ∉ chain' ∧ name ∈ sheets ∧
      branch.2.WellTyped sheets dataTypes (chain' ++ [name]) name := by
  obtain ⟨chain', _, hpre, _, _, htype, _⟩ := h.of_branch hbranch
  rw [ht] at htype
  obtain ⟨name, rfl, hname, hsheet, _, _, hchildren⟩ := htype
  exact ⟨name, chain', rfl, hpre, hname, hsheet, hchildren⟩

end Forest

/-- The discipline passes from the contents that the rows of a sheet request to its forest. -/
theorem Forest.wellTyped_hereditary (sheets : List String) (vocabulary : Vocabulary) :
    Build.Hereditary sheets vocabulary fun chain scope forest =>
      forest.WellTyped sheets vocabulary.dataTypes chain scope.sheet := by
  intro chain scope entries hentries
  rw [Forest.inherited_wellTyped.assemble_iff]
  intro entry hentry
  obtain ⟨row, hrow⟩ := hentries entry hentry
  cases hrow with
  | bare _ _ => trivial
  | @field node hm hn hr =>
    refine ⟨Row.template_of_node? hn, ?_, trivial⟩
    cases ht : node.type with
    | structural => exact ⟨.inl rfl, trivial⟩
    | leaf dataType => exact ⟨Row.isAmong_of_leaf hn ht, rfl⟩
    | reference target =>
      obtain ⟨request, hrequest⟩ := Row.exists_request? hm hn ht
      simp [hr] at hrequest
  | @reference node request children hm hn hr hchildren =>
    refine ⟨Row.template_of_node? hn, ?_, trivial⟩
    rw [Row.type_of_request? hn hr]
    obtain ⟨hchain, hsheet, htyped⟩ := hchildren
    obtain ⟨hname, hbasic⟩ := Row.sheet_of_request? hr
    exact ⟨request.sheet, rfl, hchain, hsheet, hname, hbasic, htyped⟩

/-- What is built for a sheet is well typed below the chain that it is built for. -/
theorem Grid.wellTyped_forest {grid : Grid} {vocabulary : Vocabulary} {chain : List String}
    {scope : Scope} {forest : Forest Node}
    (h : grid.forest vocabulary (grid.content vocabulary chain) scope = .ok forest) :
    forest.WellTyped grid.sheets vocabulary.dataTypes chain scope.sheet := by
  refine forest_induction (P := fun chain scope forest =>
    forest.WellTyped grid.sheets vocabulary.dataTypes chain scope.sheet) ?_ h
  intro chain scope entries hentries
  apply Forest.wellTyped_hereditary
  intro entry hentry
  obtain ⟨row, _, hrow⟩ := exists_of_forall₂_right hentries hentry
  refine ⟨row, hrow.mono fun request children _ hchildren => ?_⟩
  obtain ⟨hchain, hsheet, _, _⟩ := Grid.content_eq_ok_iff.1 hchildren.1
  exact ⟨hchain, hsheet, hchildren.2⟩

/-- Whatever the source is, what is built for a root sheet is well typed. -/
theorem wellTyped_build {σ : Type} {source : Source σ} {vocabulary : Vocabulary} {root : String}
    {state : σ} {journal : Journal} {schema : Schema}
    (h : (build source vocabulary root state journal).1 = .ok schema) :
    schema.forest.WellTyped source.sheets vocabulary.dataTypes [root] root :=
  (Forest.wellTyped_hereditary source.sheets vocabulary).of_build h

end SheetSchema
