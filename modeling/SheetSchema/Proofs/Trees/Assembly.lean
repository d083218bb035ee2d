import SheetSchema.Sketch

/-! The forest that is assembled from the entries of a sheet, taken apart again: below its groups
it holds the forests of the entries and nothing else. -/
namespace SheetSchema

namespace Forest

variable {α β : Type}

/-- Every node with the forest of its children, in the order of `walk`. -/
def branches : Forest α → List (α × Forest α)
  | nil => []
  | node value children rest => (value, children) :: (children.branches ++ rest.branches)

theorem branches_subset {forest : Forest α} {branch : α × Forest α} (h : branch ∈ forest.branches) :
    branch.2.branches ⊆ forest.branches := by
  induction forest with
  | nil => simp [branches] at h
  | node value children rest ihc ihr =>
    intro inner hinner
    simp only [branches, List.mem_cons, List.mem_append] at h ⊢
    rcases h with rfl | h | h
    · exact .inr (.inl hinner)
    · exact .inr (.inl (ihc h hinner))
    · exact .inr (.inr (ihr h hinner))

theorem map_branches (forest : Forest α) : forest.branches.map (·.1) = forest.walk := by
  induction forest with
  | nil => rfl
  | node value children rest ihc ihr => simp [branches, walk, ihc, ihr]

theorem roots_subset_walk (forest : Forest α) : forest.roots ⊆ forest.walk := by
  induction forest with
  | nil => exact List.Subset.refl _
  | node value children rest _ ih =>
    exact List.cons_subset_cons _ fun _ hroot => List.mem_append_right children.walk (ih hroot)

/-- The children of a node of a forest are nodes of the forest. -/
theorem roots_subset_of_mem_branches {forest : Forest α} {branch : α × Forest α}
    (h : branch ∈ forest.branches) : branch.2.roots ⊆ forest.walk := by
  intro child hchild
  have hwalk := roots_subset_walk branch.2 hchild
  rw [← map_branches, List.mem_map] at hwalk ⊢
  obtain ⟨inner, hinner, rfl⟩ := hwalk
  exact ⟨inner, branches_subset h hinner, rfl⟩

@[simp] theorem map_append (f : α → β) (a b : Forest α) : (a ++ b).map f = a.map f ++ b.map f := by
  induction a with
  | nil => rfl
  | node value children rest _ ih => simp [map, ih]

theorem map_map {γ : Type} (g : β → γ) (f : α → β) (forest : Forest α) :
    (forest.map f).map g = forest.map (g ∘ f) := by
  induction forest with
  | nil => rfl
  | node value children rest ihc ihr => simp [map, ihc, ihr]

theorem map_eq_self {f : α → α} (h : ∀ a, f a = a) (forest : Forest α) : forest.map f = forest := by
  induction forest with
  | nil => rfl
  | node value children rest ihc ihr => simp [map, h, ihc, ihr]

end Forest

namespace Sketch

variable {sheet : String}

/-- The node of a group. -/
def groupNode (sheet : String) (name : Value) : Node := { name, template := .str sheet }

/-- The sketch with some entries entered. -/
def enterAll (sketch : Forest SketchNode) (entries : List Entry) : Forest SketchNode :=
  entries.foldl (fun sketch entry => enter entry.1 (entry.2.map .field) sketch) sketch

theorem enterAll_cons (sketch : Forest SketchNode) (entry : Entry) (entries : List Entry) :
    enterAll sketch (entry :: entries) =
      enterAll (enter entry.1 (entry.2.map .field) sketch) entries := rfl

@[simp] theorem toNode_group (name : Value) : toNode sheet (.group name) = groupNode sheet name :=
  rfl

theorem map_toNode_field (forest : Forest Node) :
    (forest.map .field).map (toNode sheet) = forest := by
  rw [Forest.map_map]
  exact Forest.map_eq_self (fun _ => rfl) forest

/-- A property that a forest has if its trees have it, a group's tree having it if what stands in
the group has it. -/
structure Inherited (sheet : String) (P : Forest Node → Prop) : Prop where
  nil : P .nil
  node : ∀ node children rest,
    P (.node node children rest) ↔ P (.tree node children) ∧ P rest
  group : ∀ name children, P (.tree (groupNode sheet name) children) ↔ P children

namespace Inherited

variable {P : Forest Node → Prop}

theorem append_iff (h : Inherited sheet P) (a b : Forest Node) : P (a ++ b) ↔ P a ∧ P b := by
  induction a with
  | nil => simp [h.nil]
  | node value children rest _ ih =>
    rw [Forest.node_append, h.node, ih, h.node value children rest, and_assoc]

theorem nest_iff (h : Inherited sheet P) (path : List Value) (inside : Forest SketchNode) :
    P ((nest path inside).map (toNode sheet)) ↔ P (inside.map (toNode sheet)) := by
  induction path with
  | nil => rfl
  | cons name path ih => exact (h.group name _).trans ih

/-- Entering a forest adds nothing but what is entered. -/
theorem enter_iff (h : Inherited sheet P) (path : List Value)
    (inside forest : Forest SketchNode) :
    P ((enter path inside forest).map (toNode sheet)) ↔
      P (inside.map (toNode sheet)) ∧ P (forest.map (toNode sheet)) := by
  fun_induction enter path inside forest with
  | case1 inside forest => rw [Forest.map_append, h.append_iff, and_comm]
  | case2 path inside _ => simp [h.nest_iff, Forest.map, h.nil]
  | case3 name path inside value children rest hgroup ih =>
    cases value with
    | group other =>
      simp only [Forest.map, toNode_group]
      rw [h.node, h.group, ih, h.node _ (children.map _), h.group, and_assoc]
    | field node => simp [SketchNode.isGroup] at hgroup
  | case4 name path inside value children rest hgroup ih =>
    simp only [Forest.map]
    rw [h.node, ih, h.node _ (children.map _), and_left_comm]

/-- An assembled forest has the property if the forests of all its entries have it. -/
theorem assemble_iff (h : Inherited sheet P) (entries : List Entry) :
    P (assemble sheet entries) ↔ ∀ entry ∈ entries, P entry.2 := by
  have hentered (sketch : Forest SketchNode) :
      P ((enterAll sketch entries).map (toNode sheet)) ↔
        P (sketch.map (toNode sheet)) ∧ ∀ entry ∈ entries, P entry.2 := by
    induction entries generalizing sketch with
    | nil => simp [enterAll]
    | cons entry entries ih =>
      rw [enterAll_cons, ih, h.enter_iff, map_toNode_field, List.forall_mem_cons]
      exact and_assoc.trans and_left_comm
  have hnil : P (Forest.map (toNode sheet) .nil) := h.nil
  exact (hentered .nil).trans (and_iff_right hnil)

end Inherited

/-- Below its groups, an assembled forest holds the branches of the entries. -/
theorem mem_branches_assemble {entries : List Entry} {branch : Node × Forest Node}
    (h : branch.1.type ≠ .structural) :
    branch ∈ (assemble sheet entries).branches ↔ ∃ entry ∈ entries, branch ∈ entry.2.branches := by
  have hout : Inherited sheet fun forest => branch ∉ forest.branches := {
    nil := by simp [Forest.branches]
    node := fun node children rest => by simp [Forest.branches, Forest.tree, not_or, and_assoc]
    group := fun name children => by
      have hne : branch ≠ (groupNode sheet name, children) := by
        rintro rfl
        exact h rfl
      simp [Forest.branches, Forest.tree, hne] }
  have := hout.assemble_iff entries
  simpa using not_congr this

/-- A function on the nodes of finished fields, applied in a sketch. -/
def mapField (f : Node → Node) : SketchNode → SketchNode
  | .group name => .group name
  | .field node => .field (f node)

theorem isGroup_mapField (f : Node → Node) (name : Value) (node : SketchNode) :
    (mapField f node).isGroup name = node.isGroup name := by
  cases node <;> rfl

theorem map_nest (f : Node → Node) (path : List Value) (inside : Forest SketchNode) :
    (nest path inside).map (mapField f) = nest path (inside.map (mapField f)) := by
  induction path with
  | nil => rfl
  | cons name path ih => simpa [nest, Forest.tree, Forest.map, mapField] using ih

theorem map_enter (f : Node → Node) (path : List Value) (inside forest : Forest SketchNode) :
    (enter path inside forest).map (mapField f) =
      enter path (inside.map (mapField f)) (forest.map (mapField f)) := by
  fun_induction enter path inside forest with
  | case1 inside forest => simp [enter]
  | case2 path inside hpath =>
    cases path with
    | nil => exact absurd rfl hpath
    | cons name path => simp [map_nest, Forest.map, enter]
  | case3 name path inside value children rest hgroup ih =>
    simp [Forest.map, enter, isGroup_mapField, hgroup, ih]
  | case4 name path inside value children rest hgroup ih =>
    simp [Forest.map, enter, isGroup_mapField, hgroup, ih]

/-- A function that leaves the groups of a sheet as they are can be applied before the entries are
assembled. -/
theorem map_assemble {f : Node → Node}
    (hf : ∀ name, f (groupNode sheet name) = groupNode sheet name)
    (entries : List Entry) :
    (assemble sheet entries).map f =
      assemble sheet (entries.map fun entry => (entry.1, entry.2.map f)) := by
  have hentered (sketch : Forest SketchNode) :
      (enterAll sketch entries).map (mapField f) =
        enterAll (sketch.map (mapField f))
          (entries.map fun entry => (entry.1, entry.2.map f)) := by
    induction entries generalizing sketch with
    | nil => rfl
    | cons entry entries ih =>
      rw [enterAll_cons, ih, map_enter, Forest.map_map, List.map_cons, enterAll_cons,
        Forest.map_map]
      rfl
  have hnode : f ∘ toNode sheet = toNode sheet ∘ mapField f := by
    funext node
    cases node with
    | group name => exact hf name
    | field node => rfl
  rw [assemble, assemble, Forest.map_map, hnode, ← Forest.map_map]
  exact congrArg (Forest.map (toNode sheet)) (hentered .nil)

end Sketch

end SheetSchema
