import Mathlib.Data.List.Chain
import Mathlib.Data.List.DropRight
import SheetSchema.Proofs.Pages.Contribution

/-! The visits of a flattening, told with the nodes that stand above each of them and with the
state that it finds. What a visit comes to is told once, and what a run does is told by its visits:
nothing is asked of the forest, in which templates are arbitrary and nodes may share keys. -/
namespace SheetSchema

namespace PageSet

/-- Whether a template has a page. -/
def Has (pages : PageSet) (template : Value) : Prop :=
  ∃ name, template = .cell name ∧ pages.contains name = true

/-- Whether the pages of a set are still there in a later one. -/
def Grows (pages later : PageSet) : Prop :=
  ∀ name, pages.contains name = true → later.contains name = true

variable {pages later last : PageSet} {name other : Cell}

theorem Grows.refl (pages : PageSet) : pages.Grows pages := fun _ => id

theorem Grows.trans (h : pages.Grows later) (h' : later.Grows last) : pages.Grows last :=
  fun name hname => h' name (h name hname)

theorem Has.of_grows {template : Value} (h : pages.Has template) (hgrows : pages.Grows later) :
    later.Has template := by
  obtain ⟨name, rfl, hname⟩ := h
  exact ⟨name, rfl, hgrows name hname⟩

/-- Rows for a page that is not there are not written. -/
theorem addRows_of_not_contains (rows : List Column) (h : pages.contains name = false) :
    pages.addRows name rows = pages := by
  have hnone : ∀ page ∈ pages.pages, ¬page.name.agrees name = true := by
    simpa [contains] using h
  refine congrArg PageSet.mk ((List.map_congr_left fun page hpage => ?_).trans (List.map_id _))
  exact if_neg (hnone page hpage)

/-- Whether there is a page of a name is seen from the names. -/
theorem contains_congr {pages' : PageSet} (h : pages.names = pages'.names) (name : Cell) :
    pages.contains name = pages'.contains name := by
  rw [Bool.eq_iff_iff, contains_iff, contains_iff, h]

theorem contains_of_agrees (hagrees : name.agrees other = true) (h : pages.contains name = true) :
    pages.contains other = true := by
  obtain ⟨found, hfound, hname⟩ := contains_iff.1 h
  refine contains_iff.2 ⟨found, hfound, ?_⟩
  rw [Cell.agrees, beq_iff_eq] at hname hagrees ⊢
  rw [hname, hagrees]

/-- Equal templates have the same page. -/
theorem Has.of_equals {template other : Value} (h : pages.Has template)
    (hequals : other.equals template = true) : pages.Has other := by
  obtain ⟨name, rfl, hname⟩ := h
  cases other with
  | cell found =>
    have hamount : found.amount = name.amount := by
      simp only [Value.equals, Cell.equals, Bool.and_eq_true, beq_iff_eq] at hequals
      exact hequals.1
    exact ⟨found, rfl, contains_of_agrees (beq_iff_eq.2 hamount.symm) hname⟩
  | _ => simp [Value.equals] at hequals

theorem grows_addRows (name : Cell) (rows : List Column) :
    pages.Grows (pages.addRows name rows) := fun other hother => by
  rwa [← contains_congr (names_addRows pages name rows).symm]

theorem grows_create (other : Cell) : pages.Grows (pages.create other) := by
  intro name h
  obtain ⟨found, hfound, hagrees⟩ := contains_iff.1 h
  refine contains_iff.2 ⟨found, ?_, hagrees⟩
  rw [names_create]
  split
  · exact hfound
  · exact List.mem_append_left _ hfound

theorem contains_create_self (name : Cell) : (pages.create name).contains name = true := by
  by_cases h : pages.contains name = true
  · rwa [create, if_pos h]
  · rw [contains_iff, names_create, if_neg h]
    exact ⟨name, List.mem_append_right _ (List.mem_singleton_self name), Cell.agrees_refl name⟩

theorem grows_createAll (templates : List Cell) : pages.Grows (pages.createAll templates) := by
  induction templates generalizing pages with
  | nil => exact .refl pages
  | cons template rest ih => exact (grows_create template).trans ih

theorem contains_createAll_of_mem {templates : List Cell} (h : name ∈ templates) :
    (pages.createAll templates).contains name = true := by
  induction templates generalizing pages with
  | nil => exact absurd h List.not_mem_nil
  | cons template rest ih =>
    rcases List.mem_cons.1 h with rfl | h
    · exact grows_createAll rest name (contains_create_self name)
    · exact ih h

end PageSet

namespace Flattening

/-- A node with what stands below it. -/
abbrev Branch := Vertex × Forest Vertex

/-- Whether a node is a group: one of its children has its template. -/
def isGroup (branch : Branch) : Bool :=
  branch.2.roots.any (·.template.equals branch.1.template)

/-- Nodes of a forest that stand one below the other, from the top level down. -/
structure Trail (forest : Forest Vertex) (trail : List Branch) : Prop where
  first : ∀ branch ∈ trail.head?, branch.1 ∈ forest.roots
  chain : trail.IsChain fun parent child => child.1 ∈ parent.2.roots
  branches : trail ⊆ forest.branches

namespace Trail

variable {vertex : Vertex} {children rest : Forest Vertex} {trail : List Branch}

theorem top (vertex : Vertex) (children rest : Forest Vertex) :
    Trail (.node vertex children rest) [(vertex, children)] where
  first := by simp [Forest.roots]
  chain := .singleton _
  branches := by simp [Forest.branches]

theorem beside (h : Trail rest trail) (vertex : Vertex) (children : Forest Vertex) :
    Trail (.node vertex children rest) trail where
  first branch hbranch := List.mem_cons_of_mem vertex (h.first branch hbranch)
  chain := h.chain
  branches _ hbranch :=
    List.mem_cons_of_mem _ (List.mem_append_right children.branches (h.branches hbranch))

theorem below (h : Trail children trail) (vertex : Vertex) (rest : Forest Vertex) :
    Trail (.node vertex children rest) ((vertex, children) :: trail) where
  first := by simp [Forest.roots]
  chain := List.isChain_cons.2 ⟨h.first, h.chain⟩
  branches := List.cons_subset_cons _ fun _ hbranch =>
    List.mem_append_left rest.branches (h.branches hbranch)

end Trail

/-- A visit of a node: what stands above it, from the top level down, the node with what stands
below it, and the state that the visit finds. -/
structure Visit where
  above : List Branch
  vertex : Vertex
  children : Forest Vertex
  state : Flattening

namespace Visit

def branch (visit : Visit) : Branch := (visit.vertex, visit.children)

def childTemplates (visit : Visit) : List Value := visit.children.roots.map (·.template)

/-- The nodes down to the one that is visited. -/
def trail (visit : Visit) : List Branch := visit.above ++ [visit.branch]

/-- The groups that stand above the node without a break, the outermost first. -/
def enclosing (visit : Visit) : List Branch := visit.above.rtakeWhile isGroup

/-- The visit as it is seen from above a node that it stands below. -/
def under (visit : Visit) (branch : Branch) : Visit := { visit with above := branch :: visit.above }

def outcome (visit : Visit) : Except FlattenError Descent × Flattening :=
  (Flattening.visit visit.vertex visit.childTemplates).run visit.state

/-- The column of the node with the labels that it has when it is visited. -/
def column (visit : Visit) (dataType : Value) : Column :=
  visit.vertex.toNode.column dataType (visit.state.labels.get visit.vertex.key)

/-- The visit of a node of the top level, after its group has handed its labels to it. -/
def top (group : Option Vertex) (vertex : Vertex) (children : Forest Vertex)
    (state : Flattening) : Visit where
  above := []
  vertex
  children
  state := Flattening.entered group vertex state

/-- What a visit may come to, and the pages that it leaves. -/
inductive Comes (visit : Visit) : Except FlattenError Descent → PageSet → Prop
  /-- A template that should name a page is a collection. -/
  | nameless (collection : ∃ template ∈ visit.vertex.template :: visit.childTemplates,
        template.isSingle = false) :
      Comes visit (.error .namelessTemplate) visit.state.pages
  | missing {page : Cell} (childless : visit.children = .nil)
      (template : visit.vertex.template = .cell page)
      (absent : visit.state.pages.contains page = false) :
      Comes visit (.error (.missingPage page visit.vertex.name)) visit.state.pages
  | simple {page : Cell} (childless : visit.children = .nil)
      (template : visit.vertex.template = .cell page)
      (present : visit.state.pages.contains page = true) :
      Comes visit (.ok .stay)
        (visit.state.pages.addRows page [visit.column visit.vertex.type.name])
  | group (kind : isGroup visit.branch = true) :
      Comes visit (.ok (.enter (some visit.vertex))) visit.state.pages
  | complex {page : Cell} {templates : List Cell}
      (kind : classify visit.vertex.template visit.childTemplates = some (.complex templates))
      (template : visit.vertex.template = .cell page) :
      Comes visit
        (.ok (if templates.all visit.state.pages.contains then .stay else .enter none))
        ((visit.state.pages.addRows page
          (templates.map fun template => visit.column (.cell template))).createAll templates)

end Visit

end Flattening

section Classify

variable {template : Value} {childTemplates : List Value}

theorem mapM_single?_eq_some_iff {names : List Cell} :
    childTemplates.mapM Value.single? = some names ↔ childTemplates = names.map .cell := by
  induction childTemplates generalizing names with
  | nil => cases names <;> simp
  | cons child rest ih =>
    rw [List.mapM_cons]
    cases child with
    | cell name =>
      cases names with
      | nil => cases rest.mapM Value.single? <;> simp [Value.single?]
      | cons first names =>
        rw [List.map_cons, List.cons.injEq, ← ih]
        cases rest.mapM Value.single? <;> simp [Value.single?]
    | _ => cases names <;> simp [Value.single?]

theorem classify_eq_simple_iff :
    classify template childTemplates = some .simple ↔ childTemplates = [] := by
  unfold classify
  by_cases hnil : childTemplates = []
  · simp [hnil]
  · by_cases hgroup : childTemplates.any (·.equals template) = true
    · simp [hgroup, hnil]
    · rw [if_neg hnil, if_neg hgroup]
      simp [hnil]

theorem classify_eq_group_iff :
    classify template childTemplates = some .group ↔
      childTemplates.any (·.equals template) = true := by
  unfold classify
  by_cases hnil : childTemplates = []
  · simp [hnil]
  · by_cases hgroup : childTemplates.any (·.equals template) = true
    · simp [hgroup, hnil]
    · rw [if_neg hnil, if_neg hgroup]
      simp [hgroup]

theorem classify_eq_complex {templates : List Cell}
    (h : classify template childTemplates = some (.complex templates)) :
    ∃ names : List Cell, childTemplates = names.map .cell ∧ templates = distinct names := by
  unfold classify at h
  split at h
  · cases h
  · split at h
    · cases h
    · obtain ⟨names, hnames, hkind⟩ := Option.map_eq_some_iff.1 h
      exact ⟨names, mapM_single?_eq_some_iff.1 hnames, (Kind.complex.inj hkind).symm⟩

/-- A node without a kind has a child whose template is a collection. -/
theorem exists_collection_of_classify (h : classify template childTemplates = none) :
    ∃ child ∈ childTemplates, child.isSingle = false := by
  by_contra hall
  push Not at hall
  have hnames : ∃ names : List Cell, childTemplates = names.map .cell := by
    have hcells : ∀ child ∈ childTemplates, ∃ name, child = Value.cell name := by
      intro child hchild
      cases child with
      | cell name => exact ⟨name, rfl⟩
      | _ => exact absurd rfl (hall _ hchild)
    obtain ⟨names, hnames⟩ := exists_forall₂_iff.2 hcells
    rw [← List.forall₂_map_right_iff, List.forall₂_eq_eq_eq] at hnames
    exact ⟨names, hnames⟩
  obtain ⟨names, hnames⟩ := hnames
  unfold classify at h
  rw [mapM_single?_eq_some_iff.2 hnames] at h
  split at h
  · contradiction
  · split at h <;> contradiction

/-- A complex node creates the pages of all its children. -/
theorem has_of_classify {templates : List Cell} (pages : PageSet)
    (h : classify template childTemplates = some (.complex templates)) :
    ∀ child ∈ childTemplates, (pages.createAll templates).Has child := by
  obtain ⟨names, rfl, rfl⟩ := classify_eq_complex h
  refine List.forall_mem_map.2 fun name hname => ⟨name, rfl, ?_⟩
  rw [distinct_eq_eraseDupsBy]
  obtain ⟨first, hfirst, hagrees⟩ :=
    exists_of_mem_eraseDupsBy (r := fun item first => first.agrees item) Cell.agrees_refl hname
  exact PageSet.contains_of_agrees hagrees (PageSet.contains_createAll_of_mem hfirst)

end Classify

namespace Flattening

theorem isGroup_iff {branch : Branch} :
    isGroup branch = true ↔
      classify branch.1.template (branch.2.roots.map (·.template)) = some .group := by
  rw [classify_eq_group_iff, isGroup, List.any_map]
  rfl

namespace Visit

theorem enclosing_eq_above (visit : Visit) (h : visit.above.all isGroup = true) :
    visit.enclosing = visit.above := List.rtakeWhile_eq_self_iff.2 (List.all_eq_true.1 h)

/-- From above a complex node, the groups below that node are the same. -/
theorem enclosing_under {visit : Visit} {branch : Branch}
    (h : (branch :: visit.above).all isGroup = false) :
    (visit.under branch).enclosing = visit.enclosing := by
  change (branch :: visit.above).rtakeWhile isGroup = visit.above.rtakeWhile isGroup
  rw [List.rtakeWhile, List.rtakeWhile, List.reverse_cons, List.takeWhile_append]
  split
  next hlength =>
    have hall : visit.above.reverse.takeWhile isGroup = visit.above.reverse :=
      (List.takeWhile_prefix isGroup).eq_of_length hlength
    have hgroups := List.takeWhile_eq_self_iff.1 hall
    have hbranch : isGroup branch = false := by
      rw [List.all_cons, Bool.and_eq_false_iff, List.all_eq_false] at h
      refine h.resolve_right fun ⟨other, hother, hnot⟩ => hnot (hgroups other ?_)
      exact List.mem_reverse.2 hother
    rw [hall, List.takeWhile_cons_of_neg (by simp [hbranch]), List.append_nil]
  next => rfl

/-- No visit removes a page. -/
theorem Comes.grows {visit : Visit} {outcome : Except FlattenError Descent} {pages : PageSet}
    (h : visit.Comes outcome pages) : visit.state.pages.Grows pages := by
  cases h with
  | nameless | missing | group => exact .refl _
  | simple => exact PageSet.grows_addRows _ _
  | complex => exact (PageSet.grows_addRows _ _).trans (PageSet.grows_createAll _)

variable (visit : Visit)

theorem childTemplates_eq_nil_iff : visit.childTemplates = [] ↔ visit.children = .nil := by
  cases hc : visit.children <;> simp [childTemplates, hc, Forest.roots]

/-- A node that is no group needs a page of its own. -/
theorem outcome_nameless
    (hkind : classify visit.vertex.template visit.childTemplates ≠ some .group)
    (ht : ∀ page, visit.vertex.template ≠ .cell page) :
    visit.outcome = (.error .namelessTemplate, visit.state) := by
  have hpage : pageName visit.vertex.template = throw .namelessTemplate := by
    cases hv : visit.vertex.template with
    | cell page => exact absurd hv (ht page)
    | _ => rfl
  unfold outcome Flattening.visit
  cases hk : classify visit.vertex.template visit.childTemplates with
  | none => rfl
  | some kind =>
    cases kind with
    | group => exact absurd hk hkind
    | simple => simp only [hpage]; rfl
    | complex templates => simp only [hpage]; rfl

theorem outcome_complex {page : Cell} {templates : List Cell}
    (hkind : classify visit.vertex.template visit.childTemplates = some (.complex templates))
    (ht : visit.vertex.template = .cell page) :
    visit.outcome.1 =
        .ok (if templates.all visit.state.pages.contains then .stay else .enter none) ∧
      visit.outcome.2.pages =
        (visit.state.pages.addRows page
          (templates.map fun template => visit.column (.cell template))).createAll templates ∧
      visit.outcome.2.labels = visit.state.labels := by
  have hrun := run_visit_complex visit.state hkind ht
  change visit.outcome = _ at hrun
  have hlabels := labels_writeComplex visit.vertex page templates visit.state
  have hpages := pages_writeComplex visit.vertex page templates visit.state
  have hwritten : (if visit.state.pages.contains page then
        visit.state.pages.addRows page (templates.map fun template =>
          visit.vertex.toNode.column (.cell template) (visit.state.labels.get visit.vertex.key))
      else visit.state.pages) =
      visit.state.pages.addRows page
        (templates.map fun template => visit.column (.cell template)) := by
    by_cases hpage : visit.state.pages.contains page = true
    · exact if_pos hpage
    · rw [if_neg hpage, PageSet.addRows_of_not_contains _ (Bool.eq_false_iff.2 hpage)]
  rw [hwritten] at hpages
  rw [hrun]
  by_cases hall : templates.all visit.state.pages.contains = true
  · rw [if_pos hall, if_pos hall]
    exact ⟨rfl, hpages, hlabels⟩
  · rw [if_neg hall, if_neg hall]
    exact ⟨rfl, hpages, hlabels⟩

/-- What a visit comes to, whatever the node and the state are. It leaves the labels alone. -/
theorem outcome_comes :
    visit.Comes visit.outcome.1 visit.outcome.2.pages ∧
      visit.outcome.2.labels = visit.state.labels := by
  by_cases hgroup : classify visit.vertex.template visit.childTemplates = some .group
  · have hrun : visit.outcome = (.ok (.enter (some visit.vertex)), visit.state) := by
      unfold outcome Flattening.visit
      rw [hgroup]
      rfl
    rw [hrun]
    exact ⟨.group (isGroup_iff.2 hgroup), rfl⟩
  · cases ht : visit.vertex.template with
    | cell page =>
      cases hkind : classify visit.vertex.template visit.childTemplates with
      | none =>
        have hrun : visit.outcome = (.error .namelessTemplate, visit.state) := by
          unfold outcome Flattening.visit
          rw [hkind]
          rfl
        obtain ⟨child, hchild, hsingle⟩ := exists_collection_of_classify hkind
        rw [hrun]
        exact ⟨.nameless ⟨child, List.mem_cons_of_mem _ hchild, hsingle⟩, rfl⟩
      | some kind =>
        cases kind with
        | group => exact absurd hkind hgroup
        | simple =>
          have hchildless := visit.childTemplates_eq_nil_iff.1 (classify_eq_simple_iff.1 hkind)
          have hrun := run_visit_simple visit.state hkind ht
          change visit.outcome = _ at hrun
          rw [hrun]
          by_cases hpage : visit.state.pages.contains page = true
          · rw [if_pos hpage]
            exact ⟨.simple hchildless ht hpage, rfl⟩
          · rw [if_neg hpage]
            exact ⟨.missing hchildless ht (Bool.eq_false_iff.2 hpage), rfl⟩
        | complex templates =>
          obtain ⟨houtcome, hpages, hlabels⟩ := visit.outcome_complex hkind ht
          rw [houtcome, hpages]
          exact ⟨.complex hkind ht, hlabels⟩
    | _ =>
      rw [visit.outcome_nameless hgroup (by simp [ht])]
      exact ⟨.nameless ⟨_, List.mem_cons_self .., by rw [ht]; rfl⟩, rfl⟩

/-- A node that is entered is a group, which hands its labels down, or a complex node. -/
theorem outcome_enter {visit : Visit} {inner : Option Vertex} {after : Flattening}
    (h : visit.outcome = (.ok (.enter inner), after)) :
    inner = some visit.vertex ∧ isGroup visit.branch = true ∨
      inner = none ∧ isGroup visit.branch = false := by
  have hcomes := visit.outcome_comes.1
  rw [h] at hcomes
  dsimp only at hcomes
  generalize houtcome : Except.ok (Descent.enter inner) = outcome at hcomes
  generalize after.pages = pages at hcomes
  cases hcomes with
  | nameless | missing | simple => cases houtcome
  | group kind => cases houtcome; exact .inl ⟨rfl, kind⟩
  | @complex _ templates kind =>
    have hcomplex : isGroup visit.branch = false := by
      refine Bool.eq_false_iff.2 fun hgroup => ?_
      have hkind := isGroup_iff.1 hgroup
      change classify visit.vertex.template visit.childTemplates = _ at hkind
      rw [kind] at hkind
      cases hkind
    split at houtcome
    · cases houtcome
    · cases houtcome; exact .inr ⟨rfl, hcomplex⟩

end Visit

/-- The visits of a run, in their order, and what the run comes to. A node is entered when its visit
says so, and the first visit that fails is the last one. -/
inductive Walk : Option Vertex → Forest Vertex → Flattening → List Visit →
    Except FlattenError Unit × Flattening → Prop
  | nil (group : Option Vertex) (state : Flattening) : Walk group .nil state [] (.ok (), state)
  | refused {group : Option Vertex} {vertex : Vertex} {children rest : Forest Vertex}
      {state after : Flattening} {error : FlattenError}
      (visit : (Visit.top group vertex children state).outcome = (.error error, after)) :
      Walk group (.node vertex children rest) state [.top group vertex children state]
        (.error error, after)
  | stayed {group : Option Vertex} {vertex : Vertex} {children rest : Forest Vertex}
      {state after : Flattening} {visits : List Visit}
      {result : Except FlattenError Unit × Flattening}
      (visit : (Visit.top group vertex children state).outcome = (.ok .stay, after))
      (next : Walk group rest after visits result) :
      Walk group (.node vertex children rest) state (.top group vertex children state :: visits)
        result
  | broken {group inner : Option Vertex} {vertex : Vertex} {children rest : Forest Vertex}
      {state mid after : Flattening} {visits : List Visit} {error : FlattenError}
      (visit : (Visit.top group vertex children state).outcome = (.ok (.enter inner), mid))
      (below : Walk inner children mid visits (.error error, after)) :
      Walk group (.node vertex children rest) state
        (.top group vertex children state :: visits.map (·.under (vertex, children)))
        (.error error, after)
  | entered {group inner : Option Vertex} {vertex : Vertex} {children rest : Forest Vertex}
      {state mid after : Flattening} {visits others : List Visit}
      {result : Except FlattenError Unit × Flattening}
      (visit : (Visit.top group vertex children state).outcome = (.ok (.enter inner), mid))
      (below : Walk inner children mid visits (.ok (), after))
      (next : Walk group rest after others result) :
      Walk group (.node vertex children rest) state
        (.top group vertex children state ::
          (visits.map (·.under (vertex, children)) ++ others)) result

/-- How a run goes on after a visit, given what it does with the children of the node and with the
nodes after it. -/
def proceed (outcome : Except FlattenError Descent × Flattening)
    (below : Option Vertex → Flattening → Except FlattenError Unit × Flattening)
    (next : Flattening → Except FlattenError Unit × Flattening) :
    Except FlattenError Unit × Flattening :=
  match outcome with
  | (.error error, after) => (.error error, after)
  | (.ok .stay, after) => next after
  | (.ok (.enter inner), mid) =>
    match below inner mid with
    | (.error error, after) => (.error error, after)
    | (.ok (), after) => next after

theorem run_node (group : Option Vertex) (vertex : Vertex) (children rest : Forest Vertex)
    (state : Flattening) :
    (run group (.node vertex children rest)).run state =
      proceed (Visit.top group vertex children state).outcome
        (fun inner => (run inner children).run) (run group rest).run := by
  have hvisit : (visitBelow group vertex (children.roots.map (·.template))).run state =
      (Visit.top group vertex children state).outcome := run_visitBelow _
  rw [run, run_bind, hvisit]
  unfold proceed
  rcases (Visit.top group vertex children state).outcome with ⟨error | _ | inner, mid⟩
  · rfl
  · rfl
  · dsimp only
    rw [run_bind]
    rcases (run inner children).run mid with ⟨error | _, after⟩ <;> rfl

/-- Every run is a walk. -/
theorem exists_walk (group : Option Vertex) (forest : Forest Vertex) (state : Flattening) :
    ∃ visits, Walk group forest state visits ((run group forest).run state) := by
  induction forest generalizing group state with
  | nil => exact ⟨[], .nil group state⟩
  | node vertex children rest ihc ihr =>
    rw [run_node]
    unfold proceed
    rcases hvisit : (Visit.top group vertex children state).outcome with ⟨error | _ | inner, mid⟩
    · exact ⟨_, .refused hvisit⟩
    · obtain ⟨visits, hnext⟩ := ihr group mid
      exact ⟨_, .stayed hvisit hnext⟩
    · obtain ⟨visits, hbelow⟩ := ihc inner mid
      dsimp only
      rcases hrun : (run inner children).run mid with ⟨error | _, after⟩
      · rw [hrun] at hbelow
        exact ⟨_, .broken hvisit hbelow⟩
      · rw [hrun] at hbelow
        obtain ⟨others, hnext⟩ := ihr group after
        exact ⟨_, .entered hvisit hbelow hnext⟩

variable {group : Option Vertex} {forest : Forest Vertex} {state : Flattening}
  {visits : List Visit} {result : Except FlattenError Unit × Flattening}

namespace Walk

/-- Every walk is that of a run. -/
theorem run_eq (h : Walk group forest state visits result) :
    (run group forest).run state = result := by
  induction h with
  | nil group state => rfl
  | refused visit => rw [run_node, visit, proceed]
  | stayed visit next ih => rw [run_node, visit, proceed, ih]
  | broken visit below ih => simp only [run_node, visit, proceed, ih]
  | entered visit below next ihb ihn => simp only [run_node, visit, proceed, ihb, ihn]

/-- The nodes down to a visit stand below each other. -/
theorem trail (h : Walk group forest state visits result) :
    ∀ visit ∈ visits, Trail forest visit.trail := by
  induction h with
  | nil group state => exact nofun
  | refused visit => exact List.forall_mem_singleton.2 (.top ..)
  | stayed visit next ih =>
    exact List.forall_mem_cons.2 ⟨.top .., fun other hother => (ih other hother).beside ..⟩
  | broken visit below ih =>
    refine List.forall_mem_cons.2 ⟨.top .., List.forall_mem_map.2 fun other hother => ?_⟩
    exact (ih other hother).below ..
  | entered visit below next ihb ihn =>
    refine List.forall_mem_cons.2 ⟨.top .., List.forall_mem_append.2 ⟨?_, ?_⟩⟩
    · exact List.forall_mem_map.2 fun other hother => (ihb other hother).below ..
    · exact fun other hother => (ihn other hother).beside ..

theorem mem_branches (h : Walk group forest state visits result) :
    ∀ visit ∈ visits, visit.branch ∈ forest.branches := fun visit hvisit =>
  (h.trail visit hvisit).branches
    (List.mem_append_right visit.above (List.mem_singleton_self visit.branch))

/-- The pages that are there are still there at each visit and after the walk. -/
theorem grows (h : Walk group forest state visits result) :
    (∀ visit ∈ visits, state.pages.Grows visit.state.pages) ∧
      state.pages.Grows result.2.pages := by
  -- what is there after a visit was there when it came, or has been created by it
  have hvisit {group : Option Vertex} {vertex : Vertex} {children : Forest Vertex}
      {state after : Flattening} {outcome : Except FlattenError Descent}
      (visit : (Visit.top group vertex children state).outcome = (outcome, after)) :
      state.pages.Grows (Visit.top group vertex children state).state.pages ∧
        state.pages.Grows after.pages := by
    have hcomes := (Visit.top group vertex children state).outcome_comes.1.grows
    have htop : (Visit.top group vertex children state).state.pages = state.pages :=
      pages_entered
    rw [visit, htop] at hcomes
    exact ⟨htop ▸ .refl _, hcomes⟩
  induction h with
  | nil group state => exact ⟨nofun, .refl _⟩
  | refused visit => exact ⟨List.forall_mem_singleton.2 (hvisit visit).1, (hvisit visit).2⟩
  | stayed visit next ih =>
    obtain ⟨htop, hafter⟩ := hvisit visit
    exact ⟨List.forall_mem_cons.2 ⟨htop, fun other hother => hafter.trans (ih.1 other hother)⟩,
      hafter.trans ih.2⟩
  | broken visit below ih =>
    obtain ⟨htop, hmid⟩ := hvisit visit
    refine ⟨List.forall_mem_cons.2 ⟨htop, List.forall_mem_map.2 fun other hother => ?_⟩,
      hmid.trans ih.2⟩
    exact hmid.trans (ih.1 other hother)
  | entered visit below next ihb ihn =>
    obtain ⟨htop, hmid⟩ := hvisit visit
    have hafter := hmid.trans ihb.2
    refine ⟨List.forall_mem_cons.2 ⟨htop, List.forall_mem_append.2 ⟨?_, ?_⟩⟩,
      hafter.trans ihn.2⟩
    · exact List.forall_mem_map.2 fun other hother => hmid.trans (ihb.1 other hother)
    · exact fun other hother => hafter.trans (ihn.1 other hother)

/-- A walk that fails does so in its last visit. -/
theorem exists_last {error : FlattenError} {after : Flattening}
    (h : Walk group forest state visits (.error error, after)) :
    ∃ visit, visits.getLast? = some visit ∧ visit.outcome = (.error error, after) := by
  generalize hresult : (Except.error error, after) = result at h
  induction h with
  | nil group state => cases hresult
  | refused visit =>
    cases hresult
    exact ⟨_, rfl, visit⟩
  | stayed visit next ih =>
    obtain ⟨last, hlast, houtcome⟩ := ih hresult
    exact ⟨last, by simp [List.getLast?_cons, hlast], houtcome⟩
  | @broken _ _ vertex children _ _ _ _ visits _ visit below ih =>
    obtain ⟨last, hlast, houtcome⟩ := ih hresult
    have hunder : (visits.map (·.under (vertex, children))).getLast? =
        some (last.under (vertex, children)) := by rw [List.getLast?_map, hlast, Option.map_some]
    exact ⟨last.under (vertex, children), by simp [List.getLast?_cons, hunder], houtcome⟩
  | entered visit below next ihb ihn =>
    obtain ⟨last, hlast, houtcome⟩ := ihn hresult
    exact ⟨last, by simp [List.getLast?_cons, List.getLast?_append, hlast], houtcome⟩

end Walk

end Flattening

end SheetSchema
