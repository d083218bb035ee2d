import SheetSchema.Proofs.Pages.SkippedContent
import SheetSchema.Proofs.Pages.Visits

/-! Labels are the enclosing groups. In a forest whose nodes have keys of their own and no labels
yet, a visit finds the labels of its node complete, nothing changes them later, and what the visit
writes carries them. -/
namespace SheetSchema

namespace PageSet

variable {pages : PageSet} {name page : Cell}

theorem agrees_congr {other : Cell} (h : page.agrees name = true) :
    page.agrees other = name.agrees other := by
  rw [Cell.agrees, beq_iff_eq] at h
  rw [Cell.agrees, Cell.agrees, h]

theorem agrees_comm (page name : Cell) : page.agrees name = name.agrees page := by
  rw [Bool.eq_iff_iff, Cell.agrees, Cell.agrees, beq_iff_eq, beq_iff_eq, eq_comm]

/-- Rows stand on the page that they are written to, if it is there. -/
theorem rowsOf_addRows (rows : List Column) :
    (pages.addRows page rows).rowsOf name =
      pages.rowsOf name ++
        if page.agrees name = true ∧ pages.contains name = true then rows else [] := by
  have hget : (pages.addRows page rows).get? name = (pages.get? name).map fun found =>
      if found.name.agrees page then { found with rows := found.rows ++ rows } else found := by
    rw [get?, addRows, List.find?_map, get?]
    congr 2
    funext found
    rw [Function.comp_apply]
    split <;> rfl
  cases hfound : pages.get? name with
  | none =>
    have habsent : pages.contains name = false := by
      rw [get?, List.find?_eq_none] at hfound
      simpa [contains] using hfound
    rw [rowsOf, rowsOf, hget, hfound, habsent]
    simp
  | some found =>
    have hfind : pages.pages.find? (·.name.agrees name) = some found := hfound
    have hagrees : found.name.agrees name = true := by simpa using List.find?_some hfind
    have hpresent : pages.contains name = true :=
      List.any_eq_true.2 ⟨found, List.mem_of_find?_eq_some hfind, hagrees⟩
    have hpage : found.name.agrees page = page.agrees name := by
      rw [agrees_congr hagrees, agrees_comm]
    rw [rowsOf, rowsOf, hget, hfound, hpresent, Option.map_some, hpage]
    by_cases h : page.agrees name = true <;> simp [h]

theorem rowsOf_create (page : Cell) : (pages.create page).rowsOf name = pages.rowsOf name := by
  by_cases h : pages.contains page = true
  · rw [create, if_pos h]
  · rw [create, if_neg h, rowsOf, rowsOf, get?, get?, List.find?_append]
    cases pages.pages.find? (·.name.agrees name) with
    | some found => rfl
    | none =>
      by_cases hpage : page.agrees name = true <;> simp [hpage]

theorem rowsOf_createAll (templates : List Cell) :
    (pages.createAll templates).rowsOf name = pages.rowsOf name := by
  induction templates generalizing pages with
  | nil => rfl
  | cons template rest ih => exact ih.trans (rowsOf_create template)

end PageSet

namespace Flattening

/-- A node, what stands below it and what stands beside it have different keys. -/
theorem Fresh.disjoint {group : Option Vertex} {vertex : Vertex} {children rest : Forest Vertex}
    {labels : Labels} (h : Fresh group (.node vertex children rest) labels) :
    vertex.key ∉ keys children ∧ vertex.key ∉ keys rest ∧
      ∀ key ∈ keys children, key ∉ keys rest := by
  have hnodup := h.nodup
  simp only [keys, Forest.walk, List.map_cons, List.map_append, List.nodup_cons,
    List.nodup_append, List.mem_append, not_or] at hnodup
  obtain ⟨⟨hchildren, hrest⟩, _, _, hdisjoint⟩ := hnodup
  exact ⟨hchildren, hrest, fun key hkey hkey' => hdisjoint key hkey key hkey' rfl⟩

namespace Visit

/-- The types of the columns of the node: its own if nothing stands below it, none if it is a
group, and else the templates of its children, each where it first appears. -/
def types (visit : Visit) : List Value :=
  if visit.children = .nil then [visit.vertex.type.name]
  else if isGroup visit.branch then []
  else
    ((visit.childTemplates.filterMap Value.single?).eraseDupsBy
      fun template first => first.agrees template).map .cell

/-- The columns of the node on the page of a name, if the page is its own and is there. Each has
the name and the description of the node and the given labels, the name of each followed by its
description. -/
def columnsOn (visit : Visit) (name : Cell) (labels : List Label) : List Column :=
  match visit.vertex.template with
  | .cell page =>
    if page.agrees name = true ∧ visit.state.pages.contains name = true then
      visit.types.map fun dataType =>
        { tagName := visit.vertex.name
          dataType
          description := visit.vertex.description
          labels := .list (labels.flatMap fun (name, description) => [name, description]) }
    else []
  | _ => []

/-- The names and descriptions of the enclosing groups. -/
def labels (visit : Visit) : List Label :=
  visit.enclosing.map fun branch => (branch.1.name, branch.1.description)

variable {visit : Visit} {after : Flattening}

theorem types_of_childless (h : visit.children = .nil) :
    visit.types = [visit.vertex.type.name] := if_pos h

theorem types_of_isGroup (h : isGroup visit.branch = true) : visit.types = [] := by
  have hchildren : visit.children ≠ .nil := by
    intro hnil
    rw [isGroup, branch, hnil] at h
    cases h
  rw [types, if_neg hchildren, if_pos h]

theorem types_of_complex {templates : List Cell}
    (h : classify visit.vertex.template visit.childTemplates = some (.complex templates)) :
    visit.types = templates.map .cell := by
  have hchildren : visit.children ≠ .nil := by
    intro hnil
    rw [classify_eq_simple_iff.2 (visit.childTemplates_eq_nil_iff.2 hnil)] at h
    cases h
  have hgroup : ¬isGroup visit.branch = true := by
    intro hgroup
    have hkind : classify visit.vertex.template visit.childTemplates = some .group :=
      isGroup_iff.1 hgroup
    rw [hkind] at h
    cases h
  obtain ⟨names, hnames, rfl⟩ := classify_eq_complex h
  rw [types, if_neg hchildren, if_neg hgroup, hnames, distinct_eq_eraseDupsBy]
  congr 2
  rw [List.filterMap_map]
  exact List.filterMap_some

/-- A visit that does not fail writes the columns of its node. -/
theorem rowsOf_outcome {descent : Descent} (h : visit.outcome = (.ok descent, after))
    (name : Cell) :
    after.pages.rowsOf name =
      visit.state.pages.rowsOf name ++
        visit.columnsOn name (visit.state.labels.get visit.vertex.key) := by
  have hcomes := visit.outcome_comes.1
  rw [h] at hcomes
  dsimp only at hcomes
  generalize houtcome : Except.ok descent = outcome at hcomes
  generalize hpages : after.pages = pages at hcomes ⊢
  cases hcomes with
  | nameless | missing => cases houtcome
  | @simple page childless template present =>
    rw [PageSet.rowsOf_addRows, columnsOn, types_of_childless childless, template]
    rfl
  | group kind =>
    have hnone : visit.columnsOn name (visit.state.labels.get visit.vertex.key) = [] := by
      unfold columnsOn
      rw [types_of_isGroup kind]
      cases visit.vertex.template <;> simp
    rw [hnone, List.append_nil]
  | @complex page templates kind template =>
    rw [PageSet.rowsOf_createAll, PageSet.rowsOf_addRows, columnsOn, types_of_complex kind,
      template]
    dsimp only
    rw [List.map_map]
    rfl

section Top

variable {group inner : Option Vertex} {vertex : Vertex} {children rest : Forest Vertex}
  {state : Flattening} {outcome : Except FlattenError Descent}

/-- A visit leaves the labels as they are once the group has handed its own to the node. -/
theorem labels_top (h : (Visit.top group vertex children state).outcome = (outcome, after)) :
    after.labels = (Visit.top group vertex children state).state.labels := by
  have hlabels := (Visit.top group vertex children state).outcome_comes.2
  rwa [h] at hlabels

theorem get_top_of_ne (h : (Visit.top group vertex children state).outcome = (outcome, after))
    {key : Nat} (hkey : key ≠ vertex.key) : after.labels.get key = state.labels.get key := by
  rw [labels_top h]
  exact get_entered_of_ne hkey

/-- The labels of the node when it is visited, below the labels that are handed to the top level,
are those that it has in the end. -/
structure Labelled (visit : Visit) (handed : List Label) (final : Labels) : Prop where
  found : visit.state.labels.get visit.vertex.key =
    (if visit.above.all isGroup then handed else []) ++ visit.labels
  kept : final.get visit.vertex.key = visit.state.labels.get visit.vertex.key

namespace Labelled

variable {final : Labels}

theorem top (h : (Visit.top group vertex children state).outcome = (outcome, after))
    (hvertex : after.labels.get vertex.key = handed group state.labels)
    (hkept : final.get vertex.key = after.labels.get vertex.key) :
    (Visit.top group vertex children state).Labelled (handed group state.labels) final where
  found := by
    rw [← labels_top h]
    exact hvertex.trans (List.append_nil _).symm
  kept := by
    rw [← labels_top h]
    exact hkept

/-- Below a node that is entered, what is handed down is the node itself if it is a group, and
nothing if it is complex. -/
theorem under {visit : Visit} (h : visit.Labelled (handed inner after.labels) final)
    (hinner : inner = some vertex ∧ isGroup (vertex, children) = true ∨
      inner = none ∧ isGroup (vertex, children) = false)
    (hvertex : after.labels.get vertex.key = handed group state.labels) :
    (visit.under (vertex, children)).Labelled (handed group state.labels) final := by
  refine ⟨h.found.trans ?_, h.kept⟩
  by_cases hall : visit.above.all isGroup = true
  · rcases hinner with ⟨rfl, hkind⟩ | ⟨rfl, hkind⟩
    · have hunder : (visit.under (vertex, children)).above.all isGroup = true := by
        simp [Visit.under, hall, hkind]
      rw [labels, labels, enclosing_eq_above _ hall, enclosing_eq_above _ hunder, if_pos hall,
        if_pos hunder, Visit.under, List.map_cons, handed, hvertex, List.append_assoc]
      rfl
    · have hunder : (visit.under (vertex, children)).above.all isGroup = false := by
        simp [Visit.under, hkind]
      rw [labels, labels, enclosing_under hunder, if_neg (Bool.eq_false_iff.1 hunder)]
      simp [handed]
  · have hunder : (visit.under (vertex, children)).above.all isGroup = false := by
      simp [Visit.under, hall]
    rw [labels, labels, enclosing_under hunder, if_neg hall, if_neg (Bool.eq_false_iff.1 hunder)]

end Labelled

end Top

end Visit

namespace Walk

variable {group : Option Vertex} {forest : Forest Vertex} {state after : Flattening}
  {visits : List Visit} {result : Except FlattenError Unit × Flattening}

/-- A run changes the labels of visited nodes only. -/
theorem get_of_unvisited (h : Walk group forest state visits result) {key : Nat}
    (hkey : ∀ visit ∈ visits, visit.vertex.key ≠ key) :
    result.2.labels.get key = state.labels.get key := by
  induction h with
  | nil group state => rfl
  | refused visit => exact Visit.get_top_of_ne visit (hkey _ (List.mem_singleton_self _)).symm
  | stayed visit next ih =>
    obtain ⟨hvertex, hnext⟩ := List.forall_mem_cons.1 hkey
    rw [ih hnext, Visit.get_top_of_ne visit hvertex.symm]
  | broken visit below ih =>
    obtain ⟨hvertex, hbelow⟩ := List.forall_mem_cons.1 hkey
    rw [ih fun other hother =>
      hbelow (other.under _) (List.mem_map_of_mem hother), Visit.get_top_of_ne visit hvertex.symm]
  | entered visit below next ihb ihn =>
    obtain ⟨hvertex, hothers⟩ := List.forall_mem_cons.1 hkey
    obtain ⟨hbelow, hnext⟩ := List.forall_mem_append.1 hothers
    rw [ihn hnext, ihb fun other hother =>
      hbelow (other.under _) (List.mem_map_of_mem hother),
      Visit.get_top_of_ne visit hvertex.symm]

theorem key_mem_keys (h : Walk group forest state visits result) :
    ∀ visit ∈ visits, visit.vertex.key ∈ keys forest := by
  intro visit hvisit
  rw [keys, ← Forest.map_branches, List.map_map]
  exact List.mem_map_of_mem (h.mem_branches visit hvisit)

theorem get_of_notMem (h : Walk group forest state visits result) {key : Nat}
    (hkey : key ∉ keys forest) : result.2.labels.get key = state.labels.get key :=
  h.get_of_unvisited fun visit hvisit heq => hkey (heq ▸ h.key_mem_keys visit hvisit)

/-- Every visit finds the labels of its node as they are in the end. -/
theorem labelled (h : Walk group forest state visits result)
    (hfresh : Fresh group forest state.labels) :
    ∀ visit ∈ visits, visit.Labelled (handed group state.labels) result.2.labels := by
  have hvertex {group : Option Vertex} {vertex : Vertex} {children rest : Forest Vertex}
      {state after : Flattening} {outcome : Except FlattenError Descent}
      (visit : (Visit.top group vertex children state).outcome = (outcome, after))
      (hfresh : Fresh group (.node vertex children rest) state.labels) :
      after.labels.get vertex.key = handed group state.labels := by
    rw [Visit.labels_top visit]
    exact get_entered (hfresh.free _ (mem_keys_node.2 (.inl rfl)))
  induction h with
  | nil group state => exact nofun
  | refused visit => exact List.forall_mem_singleton.2 (.top visit (hvertex visit hfresh) rfl)
  | @stayed group vertex children rest state after visits result visit next ih =>
    obtain ⟨_, hrest, _⟩ := hfresh.disjoint
    obtain ⟨hbeside, hhanded⟩ := hfresh.beside fun key hkey _ => Visit.get_top_of_ne visit hkey
    refine List.forall_mem_cons.2 ⟨.top visit (hvertex visit hfresh) ?_, hhanded ▸ ih hbeside⟩
    exact next.get_of_notMem hrest
  | @broken group inner vertex children rest state mid after visits error visit below ih =>
    obtain ⟨hchildren, _, _⟩ := hfresh.disjoint
    have hinner := Visit.outcome_enter visit
    have hbelow := hfresh.below (hinner.symm.imp And.left And.left)
      fun key hkey => Visit.get_top_of_ne visit hkey
    refine List.forall_mem_cons.2 ⟨.top visit (hvertex visit hfresh) ?_, ?_⟩
    · exact below.get_of_notMem hchildren
    · refine List.forall_mem_map.2 fun other hother => ?_
      exact (ih hbelow other hother).under hinner (hvertex visit hfresh)
  | @entered group inner vertex children rest state mid after visits others result visit below next
      ihb ihn =>
    obtain ⟨hchildren, hrest, hdisjoint⟩ := hfresh.disjoint
    have hinner := Visit.outcome_enter visit
    have hbelow := hfresh.below (hinner.symm.imp And.left And.left)
      fun key hkey => Visit.get_top_of_ne visit hkey
    obtain ⟨hbeside, hhanded⟩ := hfresh.beside fun key hkey hout =>
      (below.get_of_notMem hout).trans (Visit.get_top_of_ne visit hkey)
    refine List.forall_mem_cons.2 ⟨.top visit (hvertex visit hfresh) ?_,
      List.forall_mem_append.2 ⟨List.forall_mem_map.2 fun other hother => ?_, ?_⟩⟩
    · exact (next.get_of_notMem hrest).trans (below.get_of_notMem hchildren)
    · have hother' := (ihb hbelow other hother).under hinner (hvertex visit hfresh)
      refine ⟨hother'.found, Eq.trans ?_ hother'.kept⟩
      exact next.get_of_notMem (hdisjoint _ (below.key_mem_keys other hother))
    · exact hhanded ▸ ihn hbeside

/-- A run has only one walk. -/
theorem visits_eq {others : List Visit} {result' : Except FlattenError Unit × Flattening}
    (h : Walk group forest state visits result) (h' : Walk group forest state others result') :
    others = visits := by
  induction h generalizing others result' with
  | nil group state =>
    cases h'
    rfl
  | refused visit =>
    cases h' with
    | refused => rfl
    | stayed visit' | broken visit' | entered visit' => cases visit.symm.trans visit'
  | stayed visit next ih =>
    cases h' with
    | stayed visit' next' =>
      cases visit.symm.trans visit'
      rw [ih next']
    | refused visit' | broken visit' | entered visit' => cases visit.symm.trans visit'
  | broken visit below ih =>
    cases h' with
    | broken visit' below' =>
      cases visit.symm.trans visit'
      rw [ih below']
    | entered visit' below' =>
      cases visit.symm.trans visit'
      cases below.run_eq.symm.trans below'.run_eq
    | refused visit' | stayed visit' => cases visit.symm.trans visit'
  | entered visit below next ihb ihn =>
    cases h' with
    | entered visit' below' next' =>
      cases visit.symm.trans visit'
      cases below.run_eq.symm.trans below'.run_eq
      rw [ihb below', ihn next']
    | broken visit' below' =>
      cases visit.symm.trans visit'
      cases below.run_eq.symm.trans below'.run_eq
    | refused visit' | stayed visit' => cases visit.symm.trans visit'

/-- A run that does not fail adds what its visits write. -/
theorem rowsOf_eq (h : Walk group forest state visits result) (hok : result.1 = .ok ())
    (name : Cell) :
    result.2.pages.rowsOf name =
      state.pages.rowsOf name ++ visits.flatMap fun visit =>
        visit.columnsOn name (visit.state.labels.get visit.vertex.key) := by
  induction h with
  | nil group state => exact (List.append_nil _).symm
  | refused | broken => cases hok
  | @stayed _ _ _ _ state _ _ _ visit next ih =>
    rw [ih hok, Visit.rowsOf_outcome visit, List.flatMap_cons, List.append_assoc]
    congr 2
    exact pages_entered
  | @entered _ _ _ _ _ state _ _ _ _ _ visit below next ihb ihn =>
    rw [ihn hok, ihb rfl, Visit.rowsOf_outcome visit, List.flatMap_cons, List.flatMap_append,
      List.flatMap_map]
    simp only [List.append_assoc]
    congr 2
    exact pages_entered

end Walk

end Flattening

open Flattening

/-- If every node has a key of its own and no labels, then after a flattening that does not fail the
labels of the visited nodes are the enclosing groups, no other node has labels, and the pages have
got the columns of the visited nodes, in their order, each with the labels of its node written out
as name, description, name, description. -/
theorem labels_of_flatten {forest : Forest Vertex} {state after : Flattening}
    (howned : (keys forest).Nodup) (hfree : ∀ key ∈ keys forest, state.labels.get key = [])
    (hflatten : flatten forest state = (.ok (), after)) :
    ∃ visits, Walk none forest state visits (.ok (), after) ∧
      (∀ visit ∈ visits, after.labels.get visit.vertex.key =
        visit.enclosing.map fun branch => (branch.1.name, branch.1.description)) ∧
      (∀ vertex ∈ forest.walk, (∀ visit ∈ visits, visit.vertex ≠ vertex) →
        after.labels.get vertex.key = []) ∧
      ∀ name, after.pages.rowsOf name =
        state.pages.rowsOf name ++ visits.flatMap fun visit =>
          visit.columnsOn name (after.labels.get visit.vertex.key) := by
  obtain ⟨visits, hwalk⟩ := exists_walk none forest state
  change Walk none forest state visits (flatten forest state) at hwalk
  rw [hflatten] at hwalk
  have hlabelled := hwalk.labelled ⟨howned, hfree, nofun⟩
  refine ⟨visits, hwalk, fun visit hvisit => ?_, fun vertex hvertex hunvisited => ?_,
    fun name => ?_⟩
  · rw [(hlabelled visit hvisit).kept, (hlabelled visit hvisit).found]
    simp [handed, Visit.labels]
  · have hkey : after.labels.get vertex.key = state.labels.get vertex.key := by
      refine hwalk.get_of_unvisited fun visit hvisit heq => hunvisited visit hvisit ?_
      have hwalked : visit.vertex ∈ forest.walk := by
        rw [← Forest.map_branches]
        exact List.mem_map_of_mem (hwalk.mem_branches visit hvisit)
      exact List.inj_on_of_nodup_map howned hwalked hvertex heq
    rw [hkey, hfree _ (List.mem_map_of_mem hvertex)]
  · refine (hwalk.rowsOf_eq rfl name).trans ?_
    congr 1
    refine List.flatMap_congr fun visit hvisit => ?_
    rw [(hlabelled visit hvisit).kept]

/-- A group with a group and with two complex nodes of one page, below each of which another group
stands. -/
def nestedGroups : Forest Vertex :=
  let inner (key : Nat) : Forest Vertex :=
    .tree { name := "B", template := "U", description := "inner", key }
      (.tree { name := "b", type := .leaf "int", template := "U", key := key + 1 } .nil)
  .tree { name := "A", template := "T", description := "outer", key := 0 }
    (.node { name := "M", template := "T", description := "middle", key := 1 }
      (.tree { name := "a", type := .leaf "int", template := "T", key := 2 } .nil)
      (.node { name := "C", type := .reference "U", template := "T", key := 3 } (inner 4)
        (.tree { name := "D", type := .reference "U", template := "T", key := 6 } (inner 7))))

/-- The labels of nested groups, of which the second inner one is not visited: they add up from
group to group and start anew below a complex node. -/
theorem labels_of_flatten_nestedGroups :
    ∃ after visits,
      flatten nestedGroups { pages := .ofNames [.str "T"] } = (.ok (), after) ∧
      Walk none nestedGroups { pages := .ofNames [.str "T"] } visits (.ok (), after) ∧
      visits.map (·.vertex.key) = [0, 1, 2, 3, 4, 5, 6] ∧
      visits.map (after.labels.get ·.vertex.key) =
        ([[], [("A", "outer")], [("A", "outer"), ("M", "middle")], [("A", "outer")], [],
          [("B", "inner")], [("A", "outer")]] : List (List Label)) ∧
      after.labels.get 7 = [] ∧ after.labels.get 8 = [] ∧
      after.pages.names = [.str "T", .str "U"] ∧
      after.pages.rowsOf (.str "T") =
        [{ tagName := "a", dataType := "int",
           labels := .list ["A", "outer", "M", "middle"] },
         { tagName := "C", dataType := "U", labels := .list ["A", "outer"] },
         { tagName := "D", dataType := "U", labels := .list ["A", "outer"] }] ∧
      after.pages.rowsOf (.str "U") =
        [{ tagName := "b", dataType := "int", labels := .list ["B", "inner"] }] := by
  have howned : (keys nestedGroups).Nodup := by decide
  have hfree : ∀ key ∈ keys nestedGroups,
      ({ pages := .ofNames [.str "T"] } : Flattening).labels.get key = [] :=
    fun key _ => Labels.get_empty key
  -- the walk enters `A`, `M`, `C` and `B`, and stays at `D`, whose page is there by then
  have hvisited : ∃ after visits,
      Walk none nestedGroups { pages := .ofNames [.str "T"] } visits (.ok (), after) ∧
        visits.map (·.vertex.key) = [0, 1, 2, 3, 4, 5, 6] ∧
        visits.map Visit.labels =
          ([[], [("A", "outer")], [("A", "outer"), ("M", "middle")], [("A", "outer")], [],
            [("B", "inner")], [("A", "outer")]] : List (List Label)) ∧
        after.pages.names = [.str "T", .str "U"] ∧
        visits.flatMap (fun visit => visit.columnsOn (.str "T") visit.labels) =
          [{ tagName := "a", dataType := "int",
             labels := .list ["A", "outer", "M", "middle"] },
           { tagName := "C", dataType := "U", labels := .list ["A", "outer"] },
           { tagName := "D", dataType := "U", labels := .list ["A", "outer"] }] ∧
        visits.flatMap (fun visit => visit.columnsOn (.str "U") visit.labels) =
          [{ tagName := "b", dataType := "int", labels := .list ["B", "inner"] }] :=
    ⟨_, _, .entered rfl
      (.entered rfl (.stayed rfl (.nil ..))
        (.entered rfl (.entered rfl (.stayed rfl (.nil ..)) (.nil ..)) (.stayed rfl (.nil ..))))
      (.nil ..), rfl, rfl, rfl, rfl, rfl⟩
  obtain ⟨after, visits, hwalk, hkeys, henclosing, hnames, hT, hU⟩ := hvisited
  obtain ⟨others, hothers, hlabels, hunvisited, hrows⟩ :=
    labels_of_flatten howned hfree hwalk.run_eq
  obtain rfl := hwalk.visits_eq hothers
  have hrow (name : Cell) : after.pages.rowsOf name =
      (PageSet.ofNames [.str "T"]).rowsOf name ++
        others.flatMap fun visit => visit.columnsOn name visit.labels := by
    rw [hrows name]
    congr 1
    exact List.flatMap_congr fun visit hvisit => by rw [hlabels visit hvisit, Visit.labels]
  have hunmet (vertex : Vertex) (hvertex : vertex ∈ nestedGroups.walk)
      (hkey : vertex.key ∉ others.map (·.vertex.key)) : after.labels.get vertex.key = [] :=
    hunvisited vertex hvertex fun visit hvisit heq =>
      hkey (List.mem_map.2 ⟨visit, hvisit, congrArg Vertex.key heq⟩)
  refine ⟨after, others, hwalk.run_eq, hwalk, hkeys, ?_, ?_, ?_, hnames, ?_, ?_⟩
  · exact (List.map_congr_left hlabels).trans henclosing
  · exact hunmet { name := "B", template := "U", description := "inner", key := 7 } (by decide)
      (by rw [hkeys]; decide)
  · exact hunmet { name := "b", type := .leaf "int", template := "U", key := 8 } (by decide)
      (by rw [hkeys]; decide)
  · rw [hrow, hT]
    rfl
  · rw [hrow, hU]
    rfl

end SheetSchema
