import Mathlib.Data.List.Nodup
import SheetSchema.Flatten
import SheetSchema.Proofs.Computation
import SheetSchema.Proofs.Trees.Assembly

/-! Flattening with the labels as an argument. Labels belong to keys and are handed from a group to
each of its children just before the child is visited; in a forest in which every node has a key
of its own and no labels yet, this is the same as carrying them down the recursion. -/
namespace SheetSchema

/-- The column of a node below the given labels, the name of each followed by its description. -/
def Node.column (node : Node) (dataType : Value) (labels : List Label) : Column :=
  { tagName := node.name
    dataType
    description := node.description
    labels := .list (labels.flatMap fun (name, description) => [name, description]) }

/-- What a node with the given labels contributes to the pages, and the labels that its children
get if they are flattened. -/
def Node.contribute (node : Node) (labels : List Label) (childTemplates : List Value)
    (pages : PageSet) : Except FlattenError (Option (List Label)) × PageSet :=
  match classify node.template childTemplates, node.template with
  | none, _ => (.error .namelessTemplate, pages)
  | some .group, _ => (.ok (some (labels ++ [(node.name, node.description)])), pages)
  | some .simple, .cell page =>
    if pages.contains page then
      (.ok none, pages.addRows page [node.column node.type.name labels])
    else (.error (.missingPage page node.name), pages)
  | some (.complex templates), .cell page =>
    let columns := templates.map fun template => node.column (.cell template) labels
    let written := if pages.contains page then pages.addRows page columns else pages
    (.ok (if templates.all pages.contains then none else some []), written.createAll templates)
  | some .simple, _ | some (.complex _), _ => (.error .namelessTemplate, pages)

/-- Flatten a forest whose top level has the given labels. -/
def project (labels : List Label) : Forest Node → PageSet → Except FlattenError Unit × PageSet
  | .nil, pages => (.ok (), pages)
  | .node node children rest, pages =>
    match node.contribute labels (children.roots.map (·.template)) pages with
    | (.error error, pages) => (.error error, pages)
    | (.ok none, pages) => project labels rest pages
    | (.ok (some inner), pages) =>
      match project inner children pages with
      | (.error error, pages) => (.error error, pages)
      | (.ok (), pages) => project labels rest pages

namespace Flattening

def keys (forest : Forest Vertex) : List Nat := forest.walk.map (·.key)

/-- The labels that the children of a group get from it. -/
def handed (group : Option Vertex) (labels : Labels) : List Label :=
  match group with
  | none => []
  | some group => labels.get group.key ++ [(group.name, group.description)]

theorem get_append (labels : Labels) (key other : Nat) (more : List Label) :
    (labels.append key more).get other =
      if key = other then labels.get key ++ more else labels.get other := by
  unfold Labels.append
  rw [Labels.get, Std.HashMap.getD_insert]
  by_cases h : key = other <;> simp [h, Labels.get]

section Visit

variable {vertex : Vertex} {childTemplates : List Value} {page : Cell}

theorem run_visit_simple (state : Flattening)
    (hk : classify vertex.template childTemplates = some .simple)
    (ht : vertex.template = .cell page) :
    (visit vertex childTemplates).run state =
      if state.pages.contains page then
        (.ok .stay, { state with
          pages := state.pages.addRows page
            [vertex.toNode.column vertex.type.name (state.labels.get vertex.key)] })
      else (.error (.missingPage page vertex.name), state) := by
  have hwrite : (writeSimple vertex page).run state =
      if state.pages.contains page then
        (.ok (), { state with
          pages := state.pages.addRows page
            [vertex.toNode.column vertex.type.name (state.labels.get vertex.key)] })
      else (.error (.missingPage page vertex.name), state) := by
    unfold writeSimple
    change ExceptT.run (if state.pages.contains page then _ else _ : FlattenM Unit) state = _
    by_cases hp : state.pages.contains page = true
    · rw [if_pos hp, if_pos hp]
      rfl
    · rw [if_neg hp, if_neg hp]
      rfl
  unfold visit
  rw [hk, ht]
  change (writeSimple vertex page >>= fun _ => pure Descent.stay).run state = _
  rw [run_bind, hwrite]
  by_cases hp : state.pages.contains page = true
  · rw [if_pos hp, if_pos hp]
    rfl
  · rw [if_neg hp, if_neg hp]

theorem run_visit_complex {templates : List Cell} (state : Flattening)
    (hk : classify vertex.template childTemplates = some (.complex templates))
    (ht : vertex.template = .cell page) :
    let after := writeComplex vertex page templates state
    (visit vertex childTemplates).run state =
      if templates.all state.pages.contains then
        (.ok .stay, { after with
          journal := after.journal.push (.childrenSkipped vertex.name templates) })
      else (.ok (.enter none), after) := by
  intro after
  unfold visit
  rw [hk, ht]
  change
    ExceptT.run (if templates.all state.pages.contains then _ else _ : FlattenM Descent) after = _
  by_cases ha : templates.all state.pages.contains = true
  · rw [if_pos ha, if_pos ha]
    rfl
  · rw [if_neg ha, if_neg ha]
    rfl

theorem labels_writeComplex (vertex : Vertex) (page : Cell) (templates : List Cell)
    (state : Flattening) :
    (writeComplex vertex page templates state).labels = state.labels := by
  unfold writeComplex
  split <;> rfl

theorem pages_writeComplex (vertex : Vertex) (page : Cell) (templates : List Cell)
    (state : Flattening) :
    (writeComplex vertex page templates state).pages =
      (if state.pages.contains page then
        state.pages.addRows page (templates.map fun template =>
          vertex.toNode.column (.cell template) (state.labels.get vertex.key))
      else state.pages).createAll templates := by
  unfold writeComplex
  split <;> rfl

end Visit

/-- Visiting a node contributes what its labels say and leaves all labels as they are. -/
theorem run_visit (vertex : Vertex) (childTemplates : List Value) (state : Flattening) :
    ∃ after : Flattening, after.labels = state.labels ∧
      after.pages = (vertex.toNode.contribute (state.labels.get vertex.key) childTemplates
        state.pages).2 ∧
      match (vertex.toNode.contribute (state.labels.get vertex.key) childTemplates
        state.pages).1 with
      | .error error => (visit vertex childTemplates).run state = (.error error, after)
      | .ok none => (visit vertex childTemplates).run state = (.ok .stay, after)
      | .ok (some inner) => ∃ group, handed group state.labels = inner ∧
          (group = none ∨ group = some vertex) ∧
          (visit vertex childTemplates).run state = (.ok (.enter group), after) := by
  unfold Node.contribute
  cases hk : classify vertex.template childTemplates with
  | none => exact ⟨state, rfl, rfl, by unfold visit; rw [hk]; rfl⟩
  | some kind =>
    cases kind with
    | group =>
      refine ⟨state, rfl, rfl, some vertex, rfl, .inr rfl, ?_⟩
      unfold visit
      rw [hk]
      rfl
    | simple =>
      cases ht : vertex.template with
      | cell page =>
        dsimp only
        rw [run_visit_simple state hk ht]
        by_cases hp : state.pages.contains page = true
        · rw [if_pos hp, if_pos hp]
          refine ⟨?_, ?labels, ?pages, ?run⟩
          case run => exact rfl
          · rfl
          · rfl
        · rw [if_neg hp, if_neg hp]
          exact ⟨state, rfl, rfl, rfl⟩
      | _ => exact ⟨state, rfl, rfl, by unfold visit; rw [hk, ht]; rfl⟩
    | complex templates =>
      cases ht : vertex.template with
      | cell page =>
        have hlabels := labels_writeComplex vertex page templates state
        have hpages := pages_writeComplex vertex page templates state
        dsimp only
        rw [run_visit_complex state hk ht]
        by_cases ha : templates.all state.pages.contains = true
        · rw [if_pos ha, if_pos ha]
          refine ⟨?_, ?labels', ?pages', ?run'⟩
          case run' => exact rfl
          · exact hlabels
          · exact hpages
        · rw [if_neg ha, if_neg ha]
          exact ⟨_, hlabels, hpages, none, rfl, .inl rfl, rfl⟩
      | _ => exact ⟨state, rfl, rfl, by unfold visit; rw [hk, ht]; rfl⟩

/-- The state once a group, if there is one, has handed its labels to a child. -/
def entered (group : Option Vertex) (child : Vertex) (state : Flattening) : Flattening :=
  match group with
  | none => state
  | some group => handDown group child state

section Entered

variable {group : Option Vertex} {child : Vertex} {state : Flattening}

theorem run_visitBelow (childTemplates : List Value) :
    (visitBelow group child childTemplates).run state =
      (visit child childTemplates).run (entered group child state) := by
  cases group <;> rfl

theorem pages_entered : (entered group child state).pages = state.pages := by
  cases group <;> rfl

theorem get_entered (h : state.labels.get child.key = []) :
    (entered group child state).labels.get child.key = handed group state.labels := by
  cases group with
  | none => exact h
  | some group => simp [entered, handDown, get_append, h, handed]

theorem get_entered_of_ne {key : Nat} (h : key ≠ child.key) :
    (entered group child state).labels.get key = state.labels.get key := by
  cases group with
  | none => rfl
  | some group => simp [entered, handDown, get_append, h.symm]

end Entered

theorem handed_congr {group : Option Vertex} {labels labels' : Labels}
    (h : ∀ g, group = some g → labels.get g.key = labels'.get g.key) :
    handed group labels = handed group labels' := by
  cases group with
  | none => rfl
  | some group => simp [handed, h group rfl]

theorem mem_keys_node {key : Nat} {vertex : Vertex} {children rest : Forest Vertex} :
    key ∈ keys (.node vertex children rest) ↔
      key = vertex.key ∨ key ∈ keys children ∨ key ∈ keys rest := by
  simp [keys, Forest.walk]

/-- The nodes of a forest have keys of their own and no labels yet, and the group that stands
around them has another key. -/
structure Fresh (group : Option Vertex) (forest : Forest Vertex) (labels : Labels) : Prop where
  nodup : (keys forest).Nodup
  free : ∀ key ∈ keys forest, labels.get key = []
  around : ∀ g, group = some g → g.key ∉ keys forest

namespace Fresh

variable {group : Option Vertex} {vertex : Vertex} {children rest : Forest Vertex}
  {labels after : Labels}

theorem around_node (h : Fresh group (.node vertex children rest) labels) {g : Vertex}
    (hg : group = some g) : g.key ≠ vertex.key ∧ g.key ∉ keys children ∧ g.key ∉ keys rest := by
  have hout := h.around g hg
  rw [mem_keys_node, not_or, not_or] at hout
  exact hout

/-- Below a node the forest is fresh if labels have been handed to that node only. -/
theorem below (h : Fresh group (.node vertex children rest) labels) {inner : Option Vertex}
    (hinner : inner = none ∨ inner = some vertex)
    (hsame : ∀ key, key ≠ vertex.key → after.get key = labels.get key) :
    Fresh inner children after := by
  have hnodup := h.nodup
  simp only [keys, Forest.walk, List.map_cons, List.map_append, List.nodup_cons,
    List.nodup_append, List.mem_append, not_or] at hnodup
  obtain ⟨⟨hvertex, _⟩, hchildren, _⟩ := hnodup
  refine ⟨hchildren, fun key hkey => ?_, fun g hg => ?_⟩
  · rw [hsame key fun heq => hvertex (heq ▸ hkey)]
    exact h.free key (mem_keys_node.2 (.inr (.inl hkey)))
  · rcases hinner with rfl | rfl
    · cases hg
    · cases hg
      exact hvertex

/-- After a node and its children the rest is fresh, and it is handed the same labels. -/
theorem beside (h : Fresh group (.node vertex children rest) labels)
    (hsame : ∀ key, key ≠ vertex.key → key ∉ keys children → after.get key = labels.get key) :
    Fresh group rest after ∧ handed group after = handed group labels := by
  have hnodup := h.nodup
  simp only [keys, Forest.walk, List.map_cons, List.map_append, List.nodup_cons,
    List.nodup_append, List.mem_append, not_or] at hnodup
  obtain ⟨⟨_, hvertex⟩, _, hrest, hdisjoint⟩ := hnodup
  refine ⟨⟨hrest, fun key hkey => ?_, fun g hg => (h.around_node hg).2.2⟩, ?_⟩
  · rw [hsame key (fun heq => hvertex (heq ▸ hkey)) fun hin => hdisjoint key hin key hkey rfl]
    exact h.free key (mem_keys_node.2 (.inr (.inr hkey)))
  · exact handed_congr fun g hg => hsame _ (h.around_node hg).1 (h.around_node hg).2.1

end Fresh

/-- A run over a fresh forest flattens below the labels of its group, and changes the labels of no
key but its own. -/
theorem run_eq_project (forest : Forest Vertex) (group : Option Vertex) (state : Flattening)
    (h : Fresh group forest state.labels) :
    (((run group forest).run state).1, ((run group forest).run state).2.pages) =
        project (handed group state.labels) (forest.map (·.toNode)) state.pages ∧
      ∀ key ∉ keys forest, ((run group forest).run state).2.labels.get key =
        state.labels.get key := by
  induction forest generalizing group state with
  | nil => exact ⟨rfl, fun _ _ => rfl⟩
  | node vertex children rest ihc ihr =>
    have hown : vertex.key ∈ keys (.node vertex children rest) := mem_keys_node.2 (.inl rfl)
    obtain ⟨after, hlabels, hpages, hrun⟩ :=
      run_visit vertex (children.roots.map (·.template)) (entered group vertex state)
    rw [get_entered (h.free _ hown), pages_entered] at hpages hrun
    have hsame (key : Nat) (hkey : key ≠ vertex.key) :
        after.labels.get key = state.labels.get key := by
      rw [hlabels, get_entered_of_ne hkey]
    -- The rest is run when the labels of the node and of what stands below it may have changed.
    have htail (mid : Flattening) (hmid : ∀ key, key ≠ vertex.key → key ∉ keys children →
        mid.labels.get key = state.labels.get key) :
        (((run group rest).run mid).1, ((run group rest).run mid).2.pages) =
            project (handed group state.labels) (rest.map (·.toNode)) mid.pages ∧
          ∀ key ∉ keys (.node vertex children rest),
            ((run group rest).run mid).2.labels.get key = state.labels.get key := by
      obtain ⟨hfresh, hhanded⟩ := h.beside hmid
      obtain ⟨hproject, hrest⟩ := ihr group mid hfresh
      rw [hhanded] at hproject
      refine ⟨hproject, fun key hkey => ?_⟩
      rw [mem_keys_node, not_or, not_or] at hkey
      rw [hrest key hkey.2.2, hmid key hkey.1 hkey.2.1]
    have hroots : (children.map (·.toNode)).roots.map (·.template) =
        children.roots.map (·.template) := by
      rw [Forest.roots_map, List.map_map]
      rfl
    rw [run, run_bind, run_visitBelow, Forest.map, project, hroots]
    rcases hcontribute : vertex.toNode.contribute (handed group state.labels)
      (children.roots.map (·.template)) state.pages with ⟨error | _ | inner, pages⟩
    all_goals
      rw [hcontribute] at hpages hrun
      dsimp only at hpages hrun
      subst hpages
    · rw [hcontribute, hrun]
      exact ⟨rfl, fun key hkey => hsame key fun heq => hkey (heq ▸ hown)⟩
    · rw [hcontribute, hrun]
      exact htail after fun key hkey _ => hsame key hkey
    · obtain ⟨below, rfl, hcases, hrun⟩ := hrun
      rw [hcontribute, hrun]
      dsimp only
      obtain ⟨hproject, hchildren⟩ := ihc below after (h.below hcases hsame)
      rw [hlabels] at hproject
      rw [run_bind, ← hproject]
      rcases hmid : (run below children).run after with ⟨error | _, mid⟩
      · rw [hmid] at hchildren
        refine ⟨rfl, fun key hkey => ?_⟩
        rw [mem_keys_node, not_or, not_or] at hkey
        exact (hchildren key hkey.2.1).trans (hsame key hkey.1)
      · rw [hmid] at hchildren
        exact htail mid fun key hv hc => (hchildren key hc).trans (hsame key hv)

end Flattening

theorem Forest.keys_vertices (forest : Forest Node) :
    Flattening.keys forest.vertices = List.range' 0 forest.size := by
  rw [Flattening.keys, vertices, walk_map, List.map_map, ← walk_numberFrom]
  rfl

theorem Forest.map_vertices (forest : Forest Node) : forest.vertices.map (·.toNode) = forest := by
  rw [vertices, map_map]
  exact map_numberFrom 0 forest

theorem Labels.get_empty (key : Nat) : Labels.get {} key = [] := Std.HashMap.getD_empty

/-- Flattening a forest onto some pages, without any labels to begin with. -/
theorem flatten_vertices (forest : Forest Node) (pages : PageSet) (journal : Journal) :
    ((flatten forest.vertices { pages, journal }).1,
      (flatten forest.vertices { pages, journal }).2.pages) = project [] forest pages := by
  have hkeys : (Flattening.keys forest.vertices).Nodup := by
    rw [Forest.keys_vertices]
    exact List.nodup_range'
  have h := (Flattening.run_eq_project forest.vertices none { pages, journal }
    ⟨hkeys, fun key _ => Labels.get_empty key, nofun⟩).1
  rwa [Forest.map_vertices] at h

/-- Flattening a forest below a root template, whose page is the first one. -/
theorem flattenFrom_vertices (root : String) (forest : Forest Node) (journal : Journal) :
    ((flattenFrom (.str root) forest.vertices { pages := {}, journal }).1,
      (flattenFrom (.str root) forest.vertices { pages := {}, journal }).2.pages) =
      project [] forest (PageSet.ofNames [.str root]) := by
  have h := flatten_vertices forest (PageSet.ofNames [.str root]) journal
  rw [← h]
  let journaled (state : Flattening) : Flattening :=
    { state with
      journal := state.journal.push
        (.flattened (.str root) state.pages.size state.pages.rowCount) }
  have hrun : flattenFrom (.str root) forest.vertices { pages := {}, journal } =
      (Flattening.run none forest.vertices >>= fun _ => modify journaled : FlattenM Unit).run
        { pages := PageSet.ofNames [.str root], journal } := rfl
  rw [hrun, run_bind, flatten]
  rcases (Flattening.run none forest.vertices).run
    { pages := PageSet.ofNames [.str root], journal } with ⟨_ | _, after⟩ <;> rfl

end SheetSchema
