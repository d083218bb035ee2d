import SheetSchema.Proofs.Pages.StoredNodes

/-! Flattening only adds. Whether it ends well or not, the pages that were there stay in their places
with their rows in front, the pages behind them are those of the children of complex nodes, the
nodes are as they were, and labels are appended to the children of groups alone. Nothing is asked of
the nodes: any of them may be shared. -/
namespace SheetSchema

namespace PageSet

/-- What a page set becomes when rows and pages are added to it. The new pages come last and have
names of their own, of which `Allowed` holds. -/
structure Gains (Allowed : Cell → Prop) (pages later : PageSet) : Prop where
  rows : ∀ (i : Nat) (page : Page), pages.pages[i]? = some page →
    ∃ more, later.pages[i]? = some { page with rows := page.rows ++ more }
  names : ∃ new, later.names = pages.names ++ new ∧
    new.Pairwise (fun first second => first.agrees second = false) ∧
    ∀ name ∈ new, pages.contains name = false ∧ Allowed name

namespace Gains

variable {Allowed : Cell → Prop} {pages later last : PageSet}

theorem refl (Allowed : Cell → Prop) (pages : PageSet) : pages.Gains Allowed pages where
  rows i page hpage := ⟨[], by rw [List.append_nil, hpage]⟩
  names := ⟨[], (List.append_nil _).symm, .nil, nofun⟩

theorem trans (h : pages.Gains Allowed later) (h' : later.Gains Allowed last) :
    pages.Gains Allowed last := by
  refine ⟨fun i page hpage => ?_, ?_⟩
  · obtain ⟨more, hlater⟩ := h.rows i page hpage
    obtain ⟨further, hlast⟩ := h'.rows i _ hlater
    exact ⟨more ++ further, by rw [hlast, List.append_assoc]⟩
  · obtain ⟨new, hlater, hnew, hallowed⟩ := h.names
    obtain ⟨newer, hlast, hnewer, hallowed'⟩ := h'.names
    -- what is new to the later set is neither in the first one nor among what was new before
    have hapart : ∀ first ∈ later.names, ∀ second ∈ newer, first.agrees second = false := by
      intro first hfirst second hsecond
      refine Bool.eq_false_iff.2 fun hagrees => ?_
      have hpresent : later.contains second = true := contains_iff.2 ⟨first, hfirst, hagrees⟩
      rw [(hallowed' second hsecond).1] at hpresent
      contradiction
    refine ⟨new ++ newer, by rw [hlast, hlater, List.append_assoc],
      List.pairwise_append.2 ⟨hnew, hnewer, fun first hfirst => hapart first ?_⟩,
      List.forall_mem_append.2 ⟨hallowed, fun name hname => ⟨?_, (hallowed' name hname).2⟩⟩⟩
    · rw [hlater]
      exact List.mem_append_right _ hfirst
    · refine Bool.eq_false_iff.2 fun hpresent => ?_
      obtain ⟨other, hother, hagrees⟩ := contains_iff.1 hpresent
      rw [hapart other (hlater ▸ List.mem_append_left _ hother) name hname] at hagrees
      contradiction

theorem addRows (name : Cell) (rows : List Column) :
    pages.Gains Allowed (pages.addRows name rows) where
  rows i page hpage := by
    refine ⟨if page.name.agrees name then rows else [], ?_⟩
    rw [PageSet.addRows, List.getElem?_map, hpage, Option.map_some]
    split <;> simp
  names := ⟨[], by simp, .nil, nofun⟩

theorem create {name : Cell} (h : Allowed name) : pages.Gains Allowed (pages.create name) := by
  by_cases hpresent : pages.contains name = true
  · rw [PageSet.create, if_pos hpresent]
    exact .refl Allowed pages
  · refine ⟨fun i page hpage => ⟨[], ?_⟩, [name], ?_, List.pairwise_singleton _ _, ?_⟩
    · obtain ⟨hi, -⟩ := List.getElem?_eq_some_iff.1 hpage
      rw [PageSet.create, if_neg hpresent, List.getElem?_append_left hi, hpage, List.append_nil]
    · rw [names_create, if_neg hpresent]
    · exact List.forall_mem_singleton.2 ⟨Bool.eq_false_iff.2 hpresent, h⟩

theorem createAll {templates : List Cell} (h : ∀ template ∈ templates, Allowed template) :
    pages.Gains Allowed (pages.createAll templates) := by
  induction templates generalizing pages with
  | nil => exact .refl Allowed pages
  | cons template rest ih =>
    obtain ⟨htemplate, hrest⟩ := List.forall_mem_cons.1 h
    exact (create htemplate).trans (ih hrest)

end Gains

end PageSet

/-- A complex node writes references to templates of its children only. -/
theorem mem_of_classify {template : Value} {childTemplates : List Value} {templates : List Cell}
    (h : classify template childTemplates = some (.complex templates)) :
    ∀ name ∈ templates, .cell name ∈ childTemplates := by
  obtain ⟨names, rfl, rfl⟩ := classify_eq_complex h
  rw [distinct_eq_eraseDupsBy]
  exact fun name hname => List.mem_map_of_mem (mem_of_mem_eraseDupsBy hname)

namespace Flattening

/-- The templates of the children of the complex nodes in a forest. -/
def Referred (forest : Forest Vertex) (name : Cell) : Prop :=
  ∃ branch ∈ forest.branches,
    (∃ templates, classify branch.1.template (branch.2.roots.map (·.template)) =
      some (.complex templates)) ∧
    ∃ child ∈ branch.2.roots, child.template = .cell name

/-- The keys of the children of the groups in a forest. -/
def Grouped (forest : Forest Vertex) (key : Nat) : Prop :=
  ∃ branch ∈ forest.branches, isGroup branch = true ∧ ∃ child ∈ branch.2.roots, child.key = key

/-- What the nodes of a forest may add to a state: pages for the children of complex nodes, rows, and
labels for the children of groups. -/
structure Adds (forest : Forest Vertex) (state after : Flattening) : Prop where
  pages : state.pages.Gains (Referred forest) after.pages
  labels : ∀ key, ∃ more, after.labels.get key = state.labels.get key ++ more ∧
    (more ≠ [] → Grouped forest key)

variable {whole : Forest Vertex}

namespace Adds

variable {state mid after : Flattening}

theorem refl (forest : Forest Vertex) (state : Flattening) : Adds forest state state where
  pages := .refl _ _
  labels _ := ⟨[], (List.append_nil _).symm, absurd rfl⟩

theorem trans (h : Adds whole state mid) (h' : Adds whole mid after) : Adds whole state after := by
  refine ⟨h.pages.trans h'.pages, fun key => ?_⟩
  obtain ⟨more, hmid, hmore⟩ := h.labels key
  obtain ⟨further, hafter, hfurther⟩ := h'.labels key
  refine ⟨more ++ further, by rw [hafter, hmid, List.append_assoc], fun hne => ?_⟩
  by_cases hnil : more = []
  · exact hfurther fun hnone => hne (by rw [hnil, hnone, List.nil_append])
  · exact hmore hnil

/-- Handing labels to a child appends them to those of the child. -/
theorem entered {group : Option Vertex} {vertex : Vertex}
    (h : group.isSome → Grouped whole vertex.key) :
    Adds whole state (Flattening.entered group vertex state) := by
  refine ⟨by rw [pages_entered]; exact .refl _ _, fun key => ?_⟩
  cases group with
  | none => exact (refl whole state).labels key
  | some group =>
    by_cases hkey : key = vertex.key
    · subst hkey
      refine ⟨state.labels.get group.key ++ [(group.name, group.description)], ?_, fun _ => h rfl⟩
      simp [Flattening.entered, handDown, get_append]
    · exact ⟨[], by rw [get_entered_of_ne hkey, List.append_nil], absurd rfl⟩

end Adds

/-- A visit adds rows, and pages if the node is complex. -/
theorem Visit.adds (visit : Visit) (h : visit.branch ∈ whole.branches) :
    Adds whole visit.state visit.outcome.2 := by
  obtain ⟨hcomes, hlabels⟩ := visit.outcome_comes
  refine ⟨?_, fun key => ⟨[], by rw [hlabels, List.append_nil], absurd rfl⟩⟩
  generalize visit.outcome.1 = outcome at hcomes
  generalize visit.outcome.2.pages = pages at hcomes ⊢
  cases hcomes with
  | nameless | missing | group => exact .refl _ _
  | simple => exact .addRows _ _
  | complex kind =>
    refine (PageSet.Gains.addRows _ _).trans (.createAll fun name hname => ?_)
    obtain ⟨child, hchild, htemplate⟩ := List.mem_map.1 (mem_of_classify kind name hname)
    exact ⟨visit.branch, h, ⟨_, kind⟩, child, hchild, htemplate⟩

/-- A run adds what its visits add. It may be a part of a larger one, in which the nodes of the top
level are the children of the group that hands its labels to them. -/
theorem Walk.adds {group : Option Vertex} {forest : Forest Vertex} {state : Flattening}
    {visits : List Visit} {result : Except FlattenError Unit × Flattening}
    (h : Walk group forest state visits result) (hbranches : forest.branches ⊆ whole.branches)
    (hgroup : group.isSome → ∀ vertex ∈ forest.roots, Grouped whole vertex.key) :
    Adds whole state result.2 := by
  have hvisit {group : Option Vertex} {vertex : Vertex} {children rest : Forest Vertex}
      {state after : Flattening} {outcome : Except FlattenError Descent}
      (visit : (Visit.top group vertex children state).outcome = (outcome, after))
      (hbranches : (Forest.node vertex children rest).branches ⊆ whole.branches)
      (hgroup : group.isSome → ∀ root ∈ (Forest.node vertex children rest).roots,
        Grouped whole root.key) : Adds whole state after := by
    have hentered : Adds whole state (Flattening.entered group vertex state) :=
      .entered fun hsome => hgroup hsome vertex (List.mem_cons_self ..)
    have houtcome := (Visit.top group vertex children state).adds
      (hbranches (List.mem_cons_self ..))
    rw [visit] at houtcome
    exact hentered.trans houtcome
  have hbelow {group inner : Option Vertex} {vertex : Vertex} {children rest : Forest Vertex}
      {state after : Flattening}
      (visit : (Visit.top group vertex children state).outcome = (.ok (.enter inner), after))
      (hbranches : (Forest.node vertex children rest).branches ⊆ whole.branches) :
      inner.isSome → ∀ child ∈ children.roots, Grouped whole child.key := by
    intro hsome child hchild
    rcases Visit.outcome_enter visit with ⟨-, hkind⟩ | ⟨rfl, -⟩
    · exact ⟨(vertex, children), hbranches (List.mem_cons_self ..), hkind, child, hchild, rfl⟩
    · contradiction
  induction h with
  | nil group state => exact .refl whole state
  | refused visit => exact hvisit visit hbranches hgroup
  | stayed visit next ih =>
    obtain ⟨_, hrest⟩ := List.append_subset.1 (List.cons_subset.1 hbranches).2
    have hnext := ih hrest fun hsome root hroot => hgroup hsome root (List.mem_cons_of_mem _ hroot)
    exact (hvisit visit hbranches hgroup).trans hnext
  | broken visit below ih =>
    obtain ⟨hchildren, _⟩ := List.append_subset.1 (List.cons_subset.1 hbranches).2
    exact (hvisit visit hbranches hgroup).trans (ih hchildren (hbelow visit hbranches))
  | entered visit below next ihb ihn =>
    obtain ⟨hchildren, hrest⟩ := List.append_subset.1 (List.cons_subset.1 hbranches).2
    have hnext := ihn hrest fun hsome root hroot => hgroup hsome root (List.mem_cons_of_mem _ hroot)
    exact ((hvisit visit hbranches hgroup).trans (ihb hchildren (hbelow visit hbranches))).trans hnext

end Flattening

open Flattening

/-- Whatever becomes of a flattening, the pages that were there are in front with their rows first,
those behind them are named by the templates of children of complex nodes, the nodes are unchanged,
and further labels have come to children of groups only, behind those that were there. -/
theorem NodeStore.flatten_adds {store : NodeStore} {keys : List Nat} {forest : Forest Vertex}
    (h : store.Holds keys forest) (pages : PageSet) :
    let (_, after, later) := store.flatten keys pages
    pages.Gains (Referred forest) later ∧ after.nodes = store.nodes ∧
      ∀ key, ∃ more, after.labels.get key = store.labels.get key ++ more ∧
        (more ≠ [] → Grouped forest key) := by
  obtain ⟨visits, hwalk⟩ := exists_walk none forest { pages, labels := store.labels }
  obtain ⟨hpages, hlabels⟩ := hwalk.adds (List.Subset.refl _) nofun
  rw [(NodeStore.flatten_of_holds h pages).2]
  exact ⟨hpages, rfl, hlabels⟩

/-- A group over a field and a complex node, which is shared, and a field of a page that is missing. -/
def NodeStore.sharing : NodeStore where
  nodes := #[
    { node := { name := "A", template := "T" }, children := [1, 2] },
    { node := { name := "a", type := .leaf "int", template := "T" }, children := [] },
    { node := { name := "C", type := .reference "U", template := "T" }, children := [3] },
    { node := { name := "u", type := .leaf "int", template := "U" }, children := [] },
    { node := { name := "x", type := .leaf "int", template := "X" }, children := [] }]

/-- What was added stays when a later node fails. -/
theorem NodeStore.flatten_adds_sharing :
    ∃ forest after later,
      NodeStore.sharing.Holds [0, 2, 1, 4] forest ∧
      NodeStore.sharing.flatten [0, 2, 1, 4] (.ofNames [.str "T"]) =
        (.error (.missingPage (.str "X") "x"), after, later) ∧
      later.names = [.str "T", .str "U"] ∧
      (PageSet.ofNames [.str "T"]).Gains (Referred forest) later ∧
      after.nodes = NodeStore.sharing.nodes ∧
      ∀ key, ∃ more, after.labels.get key = NodeStore.sharing.labels.get key ++ more ∧
        (more ≠ [] → Grouped forest key) := by
  have hu : NodeStore.sharing.Holds [3] _ := .node rfl .nil .nil
  have hholds : NodeStore.sharing.Holds [0, 2, 1, 4] _ :=
    .node rfl (.node rfl .nil (.node rfl hu .nil))
      (.node rfl hu (.node rfl .nil (.node rfl .nil .nil)))
  have hrun : ∃ after later,
      NodeStore.sharing.flatten [0, 2, 1, 4] (.ofNames [.str "T"]) =
        (.error (.missingPage (.str "X") "x"), after, later) ∧
      later.names = [.str "T", .str "U"] := ⟨_, _, rfl, rfl⟩
  obtain ⟨after, later, hflatten, hnames⟩ := hrun
  have hadds := NodeStore.flatten_adds hholds (.ofNames [.str "T"])
  rw [hflatten] at hadds
  exact ⟨_, after, later, hholds, hflatten, hnames, hadds⟩

end SheetSchema
