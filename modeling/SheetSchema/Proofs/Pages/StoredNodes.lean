import Mathlib.Data.List.Perm.Subperm
import SheetSchema.NodeStore
import SheetSchema.Proofs.Pages.Visits

/-! Flattening the nodes of a store. If a finite forest hangs below the given keys, the flattening
that follows the keys is that of the forest, in which a shared node appears once for every way to
it: no key stands below itself then, so that no way is longer than there are nodes. -/
namespace SheetSchema

namespace NodeStore

open Flattening

/-- The forest that hangs below keys. -/
inductive Holds (store : NodeStore) : List Nat → Forest Vertex → Prop
  | nil : Holds store [] .nil
  | node {key : Nat} {keys : List Nat} {stored : StoredNode} {children rest : Forest Vertex}
      (found : store.nodes[key]? = some stored) (below : Holds store stored.children children)
      (beside : Holds store keys rest) :
      Holds store (key :: keys) (.node { toNode := stored.node, key } children rest)

variable {store : NodeStore} {keys : List Nat} {forest : Forest Vertex}

namespace Holds

/-- One forest at most hangs below keys. -/
theorem unique (h : store.Holds keys forest) {other : Forest Vertex}
    (hother : store.Holds keys other) : forest = other := by
  induction h generalizing other with
  | nil => cases hother; rfl
  | node found _ _ ihb ihr =>
    cases hother with
    | node found' below' beside' =>
      cases found.symm.trans found'
      rw [ihb below', ihr beside']

theorem map_template (h : store.Holds keys forest) :
    keys.map store.template = forest.roots.map (·.template) := by
  induction h with
  | nil => rfl
  | @node key _ stored _ _ found _ _ _ ih =>
    have htemplate : store.template key = stored.node.template := by
      simp [template, node?, found]
    rw [List.map_cons, htemplate, ih]
    rfl

end Holds

theorem run_flattenTo_cons {key : Nat} {stored : StoredNode} {children : Forest Vertex}
    (found : store.nodes[key]? = some stored) (below : store.Holds stored.children children)
    (depth : Nat) (group : Option Vertex) (keys : List Nat) (state : Flattening) :
    (store.flattenTo (depth + 1) group (key :: keys)).run state =
      proceed (Visit.top group { toNode := stored.node, key } children state).outcome
        (fun inner => (store.flattenTo depth inner stored.children).run)
        (store.flattenTo (depth + 1) group keys).run := by
  have hnode : store.node? key = some stored.node := by simp [node?, found]
  have hchildren : store.children key = stored.children := by simp [NodeStore.children, found]
  have hvisit : (visitBelow group { toNode := stored.node, key } (store.childTemplates key)).run
      state = (Visit.top group { toNode := stored.node, key } children state).outcome := by
    rw [childTemplates, hchildren, below.map_template]
    exact run_visitBelow _
  conv_lhs => rw [flattenTo, List.forM_eq_forM, List.forM_cons, run_bind, hnode, hchildren]
  dsimp only
  rw [run_bind, hvisit]
  unfold proceed
  rcases (Visit.top group _ children state).outcome with ⟨error | _ | inner, mid⟩
  · rfl
  · rfl
  · dsimp only
    rcases (store.flattenTo depth inner stored.children).run mid with ⟨error | _, after⟩ <;> rfl

theorem unfold_cons {key : Nat} {stored : StoredNode} (found : store.nodes[key]? = some stored)
    (depth : Nat) (keys : List Nat) :
    store.unfold (depth + 1) (key :: keys) =
      .node { toNode := stored.node, key } (store.unfold depth stored.children)
        (store.unfold (depth + 1) keys) := by
  rw [unfold, List.foldr_cons, found]
  rfl

/-- The keys on the way to a forest: different ones, below each of which a larger tree hangs. -/
structure Leads (store : NodeStore) (above : List Nat) (forest : Forest Vertex) : Prop where
  nodup : above.Nodup
  larger : ∀ key ∈ above, ∃ tree, store.Holds [key] tree ∧ forest.size < tree.size

namespace Leads

variable {above : List Nat} {key : Nat} {stored : StoredNode} {children rest : Forest Vertex}

theorem length_le (h : store.Leads above forest) : above.length ≤ store.nodes.size := by
  have hrange : above ⊆ List.range store.nodes.size := by
    intro key hkey
    obtain ⟨tree, hkeys, _⟩ := h.larger key hkey
    cases hkeys with
    | node found => exact List.mem_range.2 (Array.getElem?_eq_some_iff.1 found).1
  simpa using (h.nodup.subperm hrange).length_le

theorem beside (h : store.Leads above (.node { toNode := stored.node, key } children rest)) :
    store.Leads above rest := by
  refine ⟨h.nodup, fun other hother => ?_⟩
  obtain ⟨tree, hkeys, hsize⟩ := h.larger other hother
  refine ⟨tree, hkeys, ?_⟩
  simp only [Forest.size] at hsize
  omega

/-- A key does not lead to itself. -/
theorem below (h : store.Leads above (.node { toNode := stored.node, key } children rest))
    (found : store.nodes[key]? = some stored) (holds : store.Holds stored.children children) :
    store.Leads (key :: above) children := by
  have hself : store.Holds [key] (.node { toNode := stored.node, key } children .nil) :=
    .node found holds .nil
  refine ⟨List.nodup_cons.2 ⟨fun hkey => ?_, h.nodup⟩, List.forall_mem_cons.2 ⟨?_, ?_⟩⟩
  · obtain ⟨tree, hkeys, hsize⟩ := h.larger key hkey
    rw [hkeys.unique hself] at hsize
    simp only [Forest.size] at hsize
    omega
  · refine ⟨_, hself, ?_⟩
    simp only [Forest.size]
    omega
  · intro other hother
    obtain ⟨tree, hkeys, hsize⟩ := h.larger other hother
    refine ⟨tree, hkeys, ?_⟩
    simp only [Forest.size] at hsize
    omega

end Leads

theorem run_flattenTo (h : store.Holds keys forest) {above : List Nat}
    (habove : store.Leads above forest) {depth : Nat}
    (hdepth : store.nodes.size < depth + above.length) (group : Option Vertex)
    (state : Flattening) :
    (store.flattenTo depth group keys).run state = (run group forest).run state := by
  induction h generalizing above depth group state with
  | nil => cases depth <;> rfl
  | @node key keys stored children rest found holds _ ihb ihr =>
    have hlength := habove.length_le
    obtain ⟨depth, rfl⟩ : ∃ less, depth = less + 1 := Nat.exists_eq_add_one.2 (by omega)
    have hbelow := habove.below found holds
    have hbelowDepth : store.nodes.size < depth + (above.length + 1) := by omega
    have hrest : (store.flattenTo (depth + 1) group keys).run = (run group rest).run :=
      funext (ihr habove.beside hdepth group)
    have hchildren : (fun inner => (store.flattenTo depth inner stored.children).run) =
        fun inner => (run inner children).run :=
      funext fun inner => funext (ihb hbelow hbelowDepth inner)
    rw [run_flattenTo_cons found holds, run_node, hrest, hchildren]

theorem unfold_eq (h : store.Holds keys forest) {above : List Nat}
    (habove : store.Leads above forest) {depth : Nat}
    (hdepth : store.nodes.size ≤ depth + above.length) : store.unfold depth keys = forest := by
  induction h generalizing above depth with
  | nil => cases depth <;> rfl
  | node found holds _ ihb ihr =>
    have hbelow := habove.below found holds
    have hlength := hbelow.length_le
    rw [List.length_cons] at hlength
    obtain ⟨depth, rfl⟩ : ∃ less, depth = less + 1 := Nat.exists_eq_add_one.2 (by omega)
    have hbelowDepth : store.nodes.size ≤ depth + (above.length + 1) := by omega
    rw [unfold_cons found, ihb hbelow hbelowDepth, ihr habove.beside hdepth]

theorem flattenKeys_of_holds (h : store.Holds keys forest) :
    store.flattenKeys keys = run none forest := by
  have htop : store.Leads [] forest := ⟨List.nodup_nil, nofun⟩
  have hdepth (size : Nat) : size < (size + 1) * (size + 1) + ([] : List Nat).length :=
    Nat.lt_of_lt_of_le (Nat.lt_succ_self size) (Nat.le_mul_self _)
  exact funext fun state => run_flattenTo h htop (hdepth _) none state

/-- What a store shows below keys, and what becomes of it, if a finite forest hangs there. -/
theorem flatten_of_holds (h : store.Holds keys forest) (pages : PageSet) :
    store.forest keys = forest ∧
      let (outcome, state) := SheetSchema.flatten forest { pages, labels := store.labels }
      store.flatten keys pages = (outcome, { store with labels := state.labels }, state.pages) := by
  have htop : store.Leads [] forest := ⟨List.nodup_nil, nofun⟩
  refine ⟨unfold_eq h htop (Nat.le_refl _), ?_⟩
  rw [NodeStore.flatten, flattenKeys_of_holds h]
  rfl

theorem flattenFrom_of_holds (h : store.Holds keys forest) (root : Value) (pages : PageSet) :
    let done := SheetSchema.flattenFrom root forest { pages, labels := store.labels }
    store.flattenFrom root keys pages =
      (done.1, { store with labels := done.2.labels }, done.2.pages) := by
  rw [NodeStore.flattenFrom, flattenKeys_of_holds h]
  rfl

end NodeStore

end SheetSchema
