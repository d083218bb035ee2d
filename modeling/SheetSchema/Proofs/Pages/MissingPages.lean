import SheetSchema.Proofs.Pages.Visits

/-! Where a missing page comes from. Pages are only added, and a complex node that is entered has
created the pages of all its children; so the node at the upper end of a line of groups has a page
unless it stands at the top level, and the lower end of the line has that page too unless a
template changes in between. -/
namespace SheetSchema

namespace Flattening

namespace Visit

variable {visit : Visit}

/-- The visited node below the groups that enclose it. -/
def line (visit : Visit) : List Branch := visit.enclosing ++ [visit.branch]

theorem line_suffix (visit : Visit) : visit.line <:+ visit.trail :=
  ⟨visit.above.rdropWhile isGroup, by
    rw [line, enclosing, trail, ← List.append_assoc, List.rdropWhile_append_rtakeWhile]⟩

theorem line_eq_trail (h : visit.above.all isGroup = true) : visit.line = visit.trail := by
  rw [line, visit.enclosing_eq_above h, trail]

theorem line_under {branch : Branch} (h : (branch :: visit.above).all isGroup = false) :
    (visit.under branch).line = visit.line := by
  rw [line, line, enclosing_under h]
  rfl

/-- The children of a complex node that is entered have pages. -/
theorem has_of_entered {inner : Option Vertex} {pages : PageSet}
    (h : visit.Comes (.ok (.enter inner)) pages) (hkind : isGroup visit.branch = false) :
    ∀ child ∈ visit.children.roots, pages.Has child.template := by
  generalize houtcome : Except.ok (Descent.enter inner) = outcome at h
  cases h with
  | group kind => rw [kind] at hkind; contradiction
  | complex kind =>
    exact List.forall_mem_map.1 (has_of_classify _ kind)
  | _ => cases houtcome

end Visit

/-- Along a line of nodes with equal templates all have a page if the first one has. -/
theorem has_of_chain {pages : PageSet} {line : List Branch}
    (h : line.IsChain fun parent child => child.1.template.equals parent.1.template = true)
    (hfirst : ∀ first ∈ line.head?, pages.Has first.1.template) :
    ∀ branch ∈ line, pages.Has branch.1.template := by
  induction line with
  | nil => exact nofun
  | cons first rest ih =>
    obtain ⟨hnext, hrest⟩ := List.isChain_cons.1 h
    have htop := hfirst first rfl
    exact List.forall_mem_cons.2
      ⟨htop, ih hrest fun next hmem => htop.of_equals (hnext next hmem)⟩

/-- Below a complex node the upper end of a line has a page when the lower end is visited. -/
theorem Walk.has_first {group : Option Vertex} {forest : Forest Vertex} {state : Flattening}
    {visits : List Visit} {result : Except FlattenError Unit × Flattening}
    (h : Walk group forest state visits result) :
    ∀ visit ∈ visits, visit.above.all isGroup = false →
      ∀ first ∈ visit.line.head?, visit.state.pages.Has first.1.template := by
  -- what stands below a node that is entered
  have hbelow {group inner : Option Vertex} {vertex : Vertex} {children : Forest Vertex}
      {state mid : Flattening} {visits : List Visit}
      {result : Except FlattenError Unit × Flattening}
      (visit : (Visit.top group vertex children state).outcome = (.ok (.enter inner), mid))
      (below : Walk inner children mid visits result)
      (ih : ∀ visit ∈ visits, visit.above.all isGroup = false →
        ∀ first ∈ visit.line.head?, visit.state.pages.Has first.1.template) :
      ∀ other ∈ visits.map (·.under (vertex, children)), other.above.all isGroup = false →
        ∀ first ∈ other.line.head?, other.state.pages.Has first.1.template := by
    refine List.forall_mem_map.2 fun other hother hnot first hfirst => ?_
    rw [Visit.line_under hnot] at hfirst
    by_cases hall : other.above.all isGroup = true
    · -- the node itself is the complex one
      have hkind : isGroup (vertex, children) = false := by
        simpa [Visit.under, hall] using hnot
      have hcomes := (Visit.top group vertex children state).outcome_comes.1
      rw [visit] at hcomes
      rw [Visit.line_eq_trail hall] at hfirst
      have hroot := (below.trail other hother).first first hfirst
      exact (Visit.has_of_entered hcomes hkind _ hroot).of_grows (below.grows.1 other hother)
    · exact ih other hother (Bool.eq_false_iff.2 hall) first hfirst
  induction h with
  | nil group state => exact nofun
  | refused visit => exact List.forall_mem_singleton.2 nofun
  | stayed visit next ih => exact List.forall_mem_cons.2 ⟨nofun, ih⟩
  | broken visit below ih => exact List.forall_mem_cons.2 ⟨nofun, hbelow visit below ih⟩
  | entered visit below next ihb ihn =>
    exact List.forall_mem_cons.2 ⟨nofun, List.forall_mem_append.2 ⟨hbelow visit below ihb, ihn⟩⟩

/-- What is known of a visit at which a page is missing. -/
theorem Visit.missing_of_outcome {visit : Visit} {page : Cell} {tag : Value} {after : Flattening}
    (h : visit.outcome = (.error (.missingPage page tag), after)) :
    visit.children = .nil ∧ visit.vertex.template = .cell page ∧ visit.vertex.name = tag ∧
      after.pages = visit.state.pages ∧ after.pages.contains page = false := by
  have hcomes := visit.outcome_comes.1
  rw [h] at hcomes
  dsimp only at hcomes
  generalize hpages : after.pages = pages at hcomes ⊢
  cases hcomes with
  | missing childless template absent => exact ⟨childless, template, rfl, rfl, absent⟩

/-- The line of a visit at which a page is missing. -/
theorem Walk.exists_cause {forest : Forest Vertex} {state after : Flattening}
    {visits : List Visit} {result : Except FlattenError Unit × Flattening} {visit : Visit}
    {page : Cell} {tag : Value} (h : Walk none forest state visits result)
    (hvisit : visit ∈ visits)
    (houtcome : visit.outcome = (.error (.missingPage page tag), after)) :
    (∃ parent child, [parent, child] <:+: visit.line ∧
        child.1.template.equals parent.1.template = false) ∨
      visit.above.all isGroup = true ∧ ∃ first ∈ visit.line.head?,
        first.1 ∈ forest.roots ∧ ¬after.pages.Has first.1.template := by
  obtain ⟨_, htemplate, _, hpages, habsent⟩ := Visit.missing_of_outcome houtcome
  by_contra hno
  obtain ⟨hsame, htop⟩ := not_or.1 hno
  have hchain :
      visit.line.IsChain fun parent child => child.1.template.equals parent.1.template = true := by
    refine List.isChain_iff_forall_rel_of_append_cons_cons.2 ?_
    intro parent child before rest hline
    by_contra hdiffers
    refine hsame ⟨parent, child, ⟨before, rest, ?_⟩, Bool.eq_false_iff.2 hdiffers⟩
    rw [hline, List.append_assoc]
    rfl
  have hfirst : ∀ first ∈ visit.line.head?, after.pages.Has first.1.template := by
    intro first hfirst
    by_cases hall : visit.above.all isGroup = true
    · by_contra hnone
      refine htop ⟨hall, first, hfirst, ?_, hnone⟩
      rw [Visit.line_eq_trail hall] at hfirst
      exact (h.trail visit hvisit).first first hfirst
    · rw [hpages]
      exact h.has_first visit hvisit (Bool.eq_false_iff.2 hall) first hfirst
  obtain ⟨name, hname, hpresent⟩ := has_of_chain hchain hfirst visit.branch (by simp [Visit.line])
  cases htemplate.symm.trans hname
  rw [habsent] at hpresent
  contradiction

/-- Below a page that is missing templates do not change if the children of all groups have the
templates of the groups. -/
theorem Walk.equals_on_line {group : Option Vertex} {forest : Forest Vertex} {state : Flattening}
    {visits : List Visit} {result : Except FlattenError Unit × Flattening} {visit : Visit}
    (h : Walk group forest state visits result) (hvisit : visit ∈ visits)
    (hchildless : visit.children = .nil)
    (hgroups : ∀ branch ∈ forest.branches, isGroup branch = true →
      ∀ child ∈ branch.2.roots, child.template.equals branch.1.template = true)
    {parent child : Branch} (hpair : [parent, child] <:+: visit.line) :
    child.1.template.equals parent.1.template = true := by
  have htrail := h.trail visit hvisit
  have hparent : parent ∈ visit.line := hpair.subset (by simp)
  have hchild : child.1 ∈ parent.2.roots := by
    simpa using htrail.chain.infix (hpair.trans visit.line_suffix.isInfix)
  rcases List.mem_append.1 hparent with hgroup | hself
  · refine hgroups parent ?_ (List.mem_rtakeWhile_imp hgroup) child.1 hchild
    exact htrail.branches (visit.line_suffix.subset hparent)
  · cases List.mem_singleton.1 hself
    rw [Visit.branch, hchildless] at hchild
    contradiction

end Flattening

open Flattening

/-- If a page is missing, it is missing at a node without children, at which the walk ends. On the
line of that node a template changes, or the line begins at the top level and the page of its
first node is missing. So no page is missing, and flattening only fails at a collection in a
template's place, if the nodes of the top level have pages and all children of every group have
its template. -/
theorem missingPage_of_flatten (forest : Forest Vertex) (state : Flattening) :
    (∀ page tag after, flatten forest state = (.error (.missingPage page tag), after) →
      after.pages.contains page = false ∧
      ∃ visits visit,
        Walk none forest state visits (.error (.missingPage page tag), after) ∧
        visits.getLast? = some visit ∧
        visit.outcome = (.error (.missingPage page tag), after) ∧
        visit.children = .nil ∧ visit.vertex.template = .cell page ∧ visit.vertex.name = tag ∧
        ((∃ parent child, [parent, child] <:+: visit.line ∧
            child.1.template.equals parent.1.template = false) ∨
          visit.above.all isGroup = true ∧ ∃ first ∈ visit.line.head?,
            first.1 ∈ forest.roots ∧ ¬after.pages.Has first.1.template)) ∧
    ((∀ vertex ∈ forest.roots, state.pages.Has vertex.template) →
      (∀ branch ∈ forest.branches, isGroup branch = true →
        ∀ child ∈ branch.2.roots, child.template.equals branch.1.template = true) →
      (flatten forest state).1 = .ok () ∨
        (flatten forest state).1 = .error .namelessTemplate ∧
          ∃ vertex ∈ forest.walk, vertex.template.isSingle = false) := by
  obtain ⟨visits, hwalk⟩ := exists_walk none forest state
  change Walk none forest state visits (flatten forest state) at hwalk
  refine ⟨fun page tag after hflatten => ?_, fun hroots hgroups => ?_⟩
  · rw [hflatten] at hwalk
    obtain ⟨visit, hlast, houtcome⟩ := hwalk.exists_last
    obtain ⟨hchildless, htemplate, hname, _, habsent⟩ := Visit.missing_of_outcome houtcome
    refine ⟨habsent, visits, visit, hwalk, hlast, houtcome, hchildless, htemplate, hname, ?_⟩
    exact hwalk.exists_cause (List.mem_of_getLast? hlast) houtcome
  · rcases hflatten : flatten forest state with ⟨error | _, after⟩
    · refine .inr ?_
      rw [hflatten] at hwalk
      obtain ⟨visit, hlast, houtcome⟩ := hwalk.exists_last
      have hvisit := List.mem_of_getLast? hlast
      cases error with
      | missingPage page tag =>
        have hchildless := (Visit.missing_of_outcome houtcome).1
        exfalso
        rcases hwalk.exists_cause hvisit houtcome with
          ⟨parent, child, hpair, hdiffers⟩ | ⟨_, first, _, hfirst, hnone⟩
        · rw [hwalk.equals_on_line hvisit hchildless hgroups hpair] at hdiffers
          contradiction
        · exact hnone ((hroots first.1 hfirst).of_grows hwalk.grows.2)
      | namelessTemplate =>
        refine ⟨rfl, ?_⟩
        have hcomes := visit.outcome_comes.1
        rw [houtcome] at hcomes
        have hbranch := hwalk.mem_branches visit hvisit
        generalize hpages : after.pages = pages at hcomes
        cases hcomes with
        | nameless collection =>
          obtain ⟨template, hmem, hcollection⟩ := collection
          rcases List.mem_cons.1 hmem with rfl | hmem
          · refine ⟨visit.vertex, ?_, hcollection⟩
            rw [← Forest.map_branches]
            exact List.mem_map_of_mem hbranch
          · obtain ⟨child, hchild, rfl⟩ := List.mem_map.1 hmem
            exact ⟨child, Forest.roots_subset_of_mem_branches hbranch hchild, hcollection⟩
    · exact .inl rfl

/-- A group with a field of its own template and a field of some template. -/
def mixedGroup (template : String) : Forest Vertex :=
  .tree { name := "A", template := "T", key := 0 }
    (.node { name := "a", type := .leaf "int", template := "T", key := 1 } .nil
      (.tree { name := "b", type := .leaf "int", template, key := 2 } .nil))

/-- A second template in a group, and no second one. -/
theorem missingPage_of_flatten_mixedGroup :
    let state : Flattening := { pages := .ofNames [.str "T"] }
    (∃ after visits visit,
      Walk none (mixedGroup "U") state visits (.error (.missingPage (.str "U") "b"), after) ∧
      visits.getLast? = some visit ∧ visit.vertex.name = "b" ∧
      after.pages.contains (.str "U") = false ∧
      ∃ parent child, [parent, child] <:+: visit.line ∧
        child.1.template.equals parent.1.template = false) ∧
    (flatten (mixedGroup "T") state).1 = .ok () := by
  intro state
  have hroots (template : String) :
      ∀ vertex ∈ (mixedGroup template).roots, state.pages.Has vertex.template :=
    List.forall_mem_singleton.2 ⟨.str "T", rfl, by decide⟩
  constructor
  · have hflatten : ∃ after, flatten (mixedGroup "U") state =
        (.error (.missingPage (.str "U") "b"), after) := ⟨_, rfl⟩
    obtain ⟨after, hflatten⟩ := hflatten
    obtain ⟨habsent, visits, visit, hwalk, hlast, _, _, _, hname, hcause⟩ :=
      (missingPage_of_flatten (mixedGroup "U") state).1 _ _ _ hflatten
    refine ⟨after, visits, visit, hwalk, hlast, hname, habsent, hcause.resolve_right ?_⟩
    rintro ⟨_, first, _, hfirst, hnone⟩
    exact hnone ((hroots "U" first.1 hfirst).of_grows hwalk.grows.2)
  · refine ((missingPage_of_flatten (mixedGroup "T") state).2 (hroots "T") ?_).resolve_right ?_
    · decide
    · rintro ⟨_, hcollection⟩
      revert hcollection
      decide

end SheetSchema
