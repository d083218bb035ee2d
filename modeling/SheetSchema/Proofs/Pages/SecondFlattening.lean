import Mathlib.Data.List.Infix
import SheetSchema.Proofs.Pages.EnclosingGroups
import SheetSchema.Proofs.Pages.StoredNodes

/-! Flattening a second time. Labels stay with the nodes, so that a group hands its labels to nodes
that still have those of the first time. The second run visits the same nodes and writes the same
rows on the same pages; only the labels of what stands below a group are others. -/
namespace SheetSchema

/-- The labels of a node that is flattened again, given its labels of the first time. To those the
labels of its group are added, which has all of its own twice, and the group: every beginning of the
labels stands there, the longest first, and then the labels once more. -/
def relabelled {α : Type} (labels : List α) : List α := labels.inits.reverse.flatten ++ labels

section Relabelled

variable {α : Type}

theorem relabelled_nil : relabelled ([] : List α) = [] := rfl

theorem relabelled_concat (labels : List α) (label : α) :
    relabelled (labels ++ [label]) = labels ++ [label] ++ (relabelled labels ++ [label]) := by
  simp [relabelled, List.inits_append]

theorem relabelled_eq_self_iff {labels : List α} : relabelled labels = labels ↔ labels = [] := by
  rcases List.eq_nil_or_concat labels with rfl | ⟨before, label, rfl⟩
  · simp [relabelled_nil]
  · simp [relabelled_concat]

end Relabelled

theorem flatLabels_injective {α : Type} : Function.Injective (flatLabels : List (α × α) → List α) := by
  intro labels others h
  induction labels generalizing others with
  | nil =>
    cases others with
    | nil => rfl
    | cons => simp [flatLabels] at h
  | cons label labels ih =>
    cases others with
    | nil => simp [flatLabels] at h
    | cons other others =>
      simp only [flatLabels, List.flatMap_cons, List.cons_append, List.nil_append,
        List.cons.injEq] at h
      rw [ih h.2.2, Prod.ext h.1 h.2.1]

/-- A column and what it becomes when its node is flattened again. -/
def Column.Relabelled (column again : Column) : Prop :=
  ∃ labels : List Label, column.labels = .list (flatLabels labels) ∧
    again = { column with labels := .list (flatLabels (relabelled labels)) }

theorem Column.Relabelled.eq_iff {column again : Column} (h : column.Relabelled again) :
    again = column ↔ column.labels = .list [] := by
  obtain ⟨labels, hlabels, rfl⟩ := h
  have hsame : { column with labels := .list (flatLabels (relabelled labels)) } = column ↔
      flatLabels (relabelled labels) = flatLabels labels := by
    cases column
    simp_all
  have hnone : column.labels = .list [] ↔ flatLabels labels = flatLabels [] := by
    rw [hlabels, Value.list.injEq]
    rfl
  rw [hsame, hnone, flatLabels_injective.eq_iff, flatLabels_injective.eq_iff,
    relabelled_eq_self_iff]

/-- A page and what it becomes when its rows are written again. -/
structure Page.Relabelled (page again : Page) : Prop where
  name : again.name = page.name
  rows : List.Forall₂ Column.Relabelled page.rows again.rows

/-- Pages and what they become when a forest is flattened again: the same pages in the same order,
on which the same rows have other labels. -/
def PageSet.Relabelled (pages again : PageSet) : Prop :=
  List.Forall₂ Page.Relabelled pages.pages again.pages

theorem forall₂_eq_iff {α : Type} {R : α → α → Prop} {P : α → Prop} {items others : List α}
    (h : List.Forall₂ R items others) (heq : ∀ item other, R item other → (other = item ↔ P item)) :
    others = items ↔ ∀ item ∈ items, P item := by
  induction h with
  | nil => simp
  | cons hitem _ ih => rw [List.cons.injEq, List.forall_mem_cons, heq _ _ hitem, ih]

namespace PageSet.Relabelled

variable {pages again : PageSet}

/-- Pages are the same again if no column has labels. -/
theorem eq_iff (h : pages.Relabelled again) :
    again = pages ↔ ∀ page ∈ pages.pages, ∀ column ∈ page.rows, column.labels = .list [] := by
  have hpage (page other : Page) (hpage : page.Relabelled other) :
      other = page ↔ ∀ column ∈ page.rows, column.labels = .list [] := by
    rw [← forall₂_eq_iff hpage.rows fun _ _ => Column.Relabelled.eq_iff]
    obtain ⟨hname, -⟩ := hpage
    cases page
    cases other
    simp_all
  have hset : again = pages ↔ again.pages = pages.pages := by
    cases pages
    cases again
    simp
  rw [hset, forall₂_eq_iff h hpage]

theorem names (h : pages.Relabelled again) : again.names = pages.names := by
  have hnames : List.Forall₂ (· = ·) (again.pages.map (·.name)) (pages.pages.map (·.name)) :=
    List.rel_map (fun _ _ hpage => hpage.name) (List.Forall₂.flip h)
  rwa [List.forall₂_eq_eq_eq] at hnames

theorem contains (h : pages.Relabelled again) (name : Cell) :
    again.contains name = pages.contains name := contains_congr h.names name

theorem addRows (h : pages.Relabelled again) (name : Cell) {rows others : List Column}
    (hrows : List.Forall₂ Column.Relabelled rows others) :
    (pages.addRows name rows).Relabelled (again.addRows name others) := by
  refine List.rel_map (fun page other hpage => ?_) h
  rw [hpage.name]
  split
  · exact ⟨rfl, List.rel_append hpage.rows hrows⟩
  · exact hpage

theorem create (h : pages.Relabelled again) (name : Cell) :
    (pages.create name).Relabelled (again.create name) := by
  unfold PageSet.create
  rw [h.contains]
  split
  · exact h
  · exact List.rel_append h (.cons ⟨rfl, .nil⟩ .nil)

theorem createAll (h : pages.Relabelled again) (templates : List Cell) :
    (pages.createAll templates).Relabelled (again.createAll templates) := by
  induction templates generalizing pages again with
  | nil => exact h
  | cons template rest ih => exact ih (h.create template)

end PageSet.Relabelled

namespace Flattening

section Visit

variable {vertex : Vertex} {childTemplates : List Value} {state again : Flattening}

theorem column_relabelled (dataType : Value) {labels others : List Label}
    (h : others = relabelled labels) :
    (vertex.toNode.column dataType labels).Relabelled (vertex.toNode.column dataType others) :=
  ⟨labels, rfl, by rw [h]; rfl⟩

/-- A node that is visited again comes to the same and writes the same. -/
theorem visit_relabelled (hpages : state.pages.Relabelled again.pages)
    (hlabels : again.labels.get vertex.key = relabelled (state.labels.get vertex.key)) :
    ((visit vertex childTemplates).run again).1 = ((visit vertex childTemplates).run state).1 ∧
      ((visit vertex childTemplates).run state).2.pages.Relabelled
        ((visit vertex childTemplates).run again).2.pages := by
  cases hkind : classify vertex.template childTemplates with
  | none =>
    unfold visit
    rw [hkind]
    exact ⟨rfl, hpages⟩
  | some kind =>
    cases kind with
    | group =>
      unfold visit
      rw [hkind]
      exact ⟨rfl, hpages⟩
    | simple =>
      cases htemplate : vertex.template with
      | cell page =>
        rw [run_visit_simple state hkind htemplate, run_visit_simple again hkind htemplate,
          hpages.contains]
        split
        · exact ⟨rfl, hpages.addRows page (.cons (column_relabelled _ hlabels) .nil)⟩
        · exact ⟨rfl, hpages⟩
      | _ =>
        unfold visit
        rw [hkind, htemplate]
        exact ⟨rfl, hpages⟩
    | complex templates =>
      cases htemplate : vertex.template with
      | cell page =>
        have hcolumns : List.Forall₂ Column.Relabelled
            (templates.map fun template =>
              vertex.toNode.column (.cell template) (state.labels.get vertex.key))
            (templates.map fun template =>
              vertex.toNode.column (.cell template) (again.labels.get vertex.key)) :=
          List.forall₂_map_left_iff.2 <| List.forall₂_map_right_iff.2 <|
            List.forall₂_same.2 fun template _ => column_relabelled _ hlabels
        have hwritten : (writeComplex vertex page templates state).pages.Relabelled
            (writeComplex vertex page templates again).pages := by
          rw [pages_writeComplex, pages_writeComplex, hpages.contains]
          split
          · exact (hpages.addRows page hcolumns).createAll templates
          · exact hpages.createAll templates
        have hall : templates.all again.pages.contains = templates.all state.pages.contains :=
          congrArg templates.all (funext hpages.contains)
        rw [run_visit_complex state hkind htemplate, run_visit_complex again hkind htemplate, hall]
        split
        · exact ⟨rfl, hwritten⟩
        · exact ⟨rfl, hwritten⟩
      | _ =>
        unfold visit
        rw [hkind, htemplate]
        exact ⟨rfl, hpages⟩

end Visit

/-- A run over labels that an earlier run over the same fresh forest has left. -/
structure Again (group : Option Vertex) (forest : Forest Vertex) (state : Flattening)
    (left : Labels) (again : Flattening) : Prop where
  pages : state.pages.Relabelled again.pages
  kept : ∀ key ∈ keys forest, again.labels.get key = left.get key
  handed : relabelled (handed group state.labels) =
    handed group state.labels ++ handed group again.labels

variable {group inner : Option Vertex} {vertex : Vertex} {children rest forest : Forest Vertex}
  {state after again : Flattening} {left : Labels} {outcome : Except FlattenError Descent}

/-- A visit of a run over labels that were left comes to the same. -/
theorem Again.visit (h : Again group (.node vertex children rest) state left again)
    (hfree : state.labels.get vertex.key = [])
    (hleft : left.get vertex.key = Flattening.handed group state.labels)
    (hvisit : (Visit.top group vertex children state).outcome = (outcome, after)) :
    ∃ after', (Visit.top group vertex children again).outcome = (outcome, after') ∧
      after.pages.Relabelled after'.pages ∧
      after'.labels.get vertex.key = relabelled (after.labels.get vertex.key) := by
  have hfirst : (Visit.top group vertex children state).state.labels.get vertex.key =
      Flattening.handed group state.labels := get_entered hfree
  have hsecond : (Visit.top group vertex children again).state.labels.get vertex.key =
      relabelled (Flattening.handed group state.labels) := by
    have hkept := (h.kept _ (mem_keys_node.2 (.inl rfl))).trans hleft
    rw [h.handed]
    cases group with
    | none => exact hkept
    | some group => simp [Visit.top, entered, handDown, get_append, hkept, Flattening.handed]
  have hpages : (Visit.top group vertex children state).state.pages.Relabelled
      (Visit.top group vertex children again).state.pages := by
    simpa only [Visit.top, pages_entered] using h.pages
  have hagain : (Visit.top group vertex children again).outcome.1 =
        (Visit.top group vertex children state).outcome.1 ∧
      (Visit.top group vertex children state).outcome.2.pages.Relabelled
        (Visit.top group vertex children again).outcome.2.pages :=
    visit_relabelled hpages (hsecond.trans (congrArg relabelled hfirst.symm))
  rcases hvisit' : (Visit.top group vertex children again).outcome with ⟨outcome', after'⟩
  rw [hvisit, hvisit'] at hagain
  obtain ⟨rfl, hafter⟩ := hagain
  refine ⟨after', rfl, hafter, ?_⟩
  rw [Visit.labels_top hvisit', Visit.labels_top hvisit, hfirst, hsecond]

theorem Again.below {inner : Option Vertex} {mid mid' : Flattening} {left' : Labels}
    (h : Again group (.node vertex children rest) state left again)
    (hinner : inner = none ∨ inner = some vertex) (hpages : mid.pages.Relabelled mid'.pages)
    (hvertex : mid'.labels.get vertex.key = relabelled (mid.labels.get vertex.key))
    (hsame : ∀ key ∈ keys children, mid'.labels.get key = again.labels.get key)
    (hleft : ∀ key ∈ keys children, left.get key = left'.get key) :
    Again inner children mid left' mid' := by
  refine ⟨hpages, fun key hkey => ?_, ?_⟩
  · rw [hsame key hkey, h.kept key (mem_keys_node.2 (.inr (.inl hkey))), hleft key hkey]
  · rcases hinner with rfl | rfl
    · rfl
    · simp only [Flattening.handed, hvertex, relabelled_concat]

theorem Again.beside {after' : Flattening}
    (h : Again group (.node vertex children rest) state left again)
    (hpages : after.pages.Relabelled after'.pages)
    (hhanded : Flattening.handed group after.labels = Flattening.handed group state.labels)
    (hhanded' : Flattening.handed group after'.labels = Flattening.handed group again.labels)
    (hsame : ∀ key ∈ keys rest, after'.labels.get key = again.labels.get key) :
    Again group rest after left after' where
  pages := hpages
  kept key hkey := (hsame key hkey).trans (h.kept key (mem_keys_node.2 (.inr (.inr hkey))))
  handed := by rw [hhanded, hhanded', h.handed]

/-- A run over labels that an earlier run has left ends as that one and writes the same rows. -/
theorem Walk.relabelled {visits : List Visit} {result : Except FlattenError Unit × Flattening}
    (h : Walk group forest state visits result) (hfresh : Fresh group forest state.labels)
    (hagain : Again group forest state result.2.labels again) :
    ∃ after', (run group forest).run again = (result.1, after') ∧
      result.2.pages.Relabelled after'.pages := by
  have hhanded {group : Option Vertex} {vertex : Vertex} {children rest : Forest Vertex}
      {state after : Flattening} {outcome : Except FlattenError Descent}
      (visit : (Visit.top group vertex children state).outcome = (outcome, after))
      (hfresh : Fresh group (.node vertex children rest) state.labels) :
      after.labels.get vertex.key = handed group state.labels := by
    rw [Visit.labels_top visit]
    exact get_entered (hfresh.free _ (mem_keys_node.2 (.inl rfl)))
  induction h generalizing again with
  | nil group state => exact ⟨again, rfl, hagain.pages⟩
  | refused visit =>
    have hfree := hfresh.free _ (mem_keys_node.2 (.inl rfl))
    obtain ⟨mid', hvisit, hpages, -⟩ := hagain.visit hfree (hhanded visit hfresh) visit
    exact ⟨mid', by rw [run_node, hvisit, proceed], hpages⟩
  | stayed visit next ih =>
    have hfree := hfresh.free _ (mem_keys_node.2 (.inl rfl))
    obtain ⟨-, hrest, -⟩ := hfresh.disjoint
    obtain ⟨mid', hvisit, hpages, -⟩ := hagain.visit hfree
      ((next.get_of_notMem hrest).trans (hhanded visit hfresh)) visit
    obtain ⟨hbeside, hsame⟩ := hfresh.beside fun key hkey _ => Visit.get_top_of_ne visit hkey
    have hnext := hagain.beside hpages hsame
      (handed_congr fun g hg => Visit.get_top_of_ne hvisit (hfresh.around_node hg).1)
      fun key hkey => Visit.get_top_of_ne hvisit fun heq => hrest (heq ▸ hkey)
    obtain ⟨after', hrun, hafter⟩ := ih hbeside hnext
    exact ⟨after', by simp only [run_node, hvisit, proceed, hrun], hafter⟩
  | broken visit below ih =>
    have hfree := hfresh.free _ (mem_keys_node.2 (.inl rfl))
    obtain ⟨hchildren, -, -⟩ := hfresh.disjoint
    obtain ⟨mid', hvisit, hpages, hvertex⟩ := hagain.visit hfree
      ((below.get_of_notMem hchildren).trans (hhanded visit hfresh)) visit
    have hinner := (Visit.outcome_enter visit).symm.imp And.left And.left
    have hinside := hfresh.below hinner fun key hkey => Visit.get_top_of_ne visit hkey
    have hbelow := hagain.below hinner hpages hvertex
      (fun key hkey => Visit.get_top_of_ne hvisit fun heq => hchildren (heq ▸ hkey))
      fun _ _ => rfl
    obtain ⟨after', hrun, hafter⟩ := ih hinside hbelow
    exact ⟨after', by simp only [run_node, hvisit, proceed, hrun], hafter⟩
  | @entered group inner vertex children rest state mid after visits others result visit below next
      ihb ihn =>
    have hfree := hfresh.free _ (mem_keys_node.2 (.inl rfl))
    obtain ⟨hchildren, hrest, hdisjoint⟩ := hfresh.disjoint
    have hleft := (next.get_of_notMem hrest).trans (below.get_of_notMem hchildren)
    obtain ⟨mid', hvisit, hpages, hvertex⟩ := hagain.visit hfree
      (hleft.trans (hhanded visit hfresh)) visit
    have hinner := (Visit.outcome_enter visit).symm.imp And.left And.left
    have hinside := hfresh.below hinner fun key hkey => Visit.get_top_of_ne visit hkey
    have hbelow := hagain.below hinner hpages hvertex
      (fun key hkey => Visit.get_top_of_ne hvisit fun heq => hchildren (heq ▸ hkey))
      fun key hkey => next.get_of_notMem (hdisjoint key hkey)
    obtain ⟨after', hrun, hafter⟩ := ihb hinside hbelow
    -- the second run below the node leaves the labels beside it alone, too
    have hout (key : Nat) (hkey : key ≠ vertex.key) (hnot : key ∉ keys children) :
        after'.labels.get key = again.labels.get key := by
      obtain ⟨_, hwalk⟩ := exists_walk _ _ mid'
      rw [hrun] at hwalk
      exact (hwalk.get_of_notMem hnot).trans (Visit.get_top_of_ne hvisit hkey)
    obtain ⟨hbeside, hsame⟩ := hfresh.beside fun key hkey hnot =>
      (below.get_of_notMem hnot).trans (Visit.get_top_of_ne visit hkey)
    have hnext := hagain.beside hafter hsame
      (handed_congr fun g hg => hout _ (hfresh.around_node hg).1 (hfresh.around_node hg).2.1)
      fun key hkey => hout key (fun heq => hrest (heq ▸ hkey)) fun hin => hdisjoint key hin hkey
    obtain ⟨last', hlast, hend⟩ := ihn hbeside hnext
    exact ⟨last', by simp only [run_node, hvisit, proceed, hrun, hlast], hend⟩

end Flattening

open Flattening

/-- Below a root template the forest is flattened once the root's page is there. -/
theorem flattenFrom_cell (page : Cell) (forest : Forest Vertex) (state : Flattening) :
    let seeded := flatten forest { state with pages := state.pages.create page }
    let whole := flattenFrom (.cell page) forest state
    whole.1 = seeded.1 ∧ whole.2.pages = seeded.2.pages ∧ whole.2.labels = seeded.2.labels := by
  intro seeded whole
  have hrun : whole = (run none forest >>= fun _ => modify fun state =>
      { state with journal :=
          state.journal.push (.flattened page state.pages.size state.pages.rowCount) } :
      FlattenM Unit).run { state with pages := state.pages.create page } := rfl
  rw [hrun, run_bind]
  unfold seeded flatten
  rcases (run none forest).run { state with pages := state.pages.create page } with ⟨_ | _, after⟩
  · exact ⟨rfl, rfl, rfl⟩
  · exact ⟨rfl, rfl, rfl⟩

/-- The root template names a page. -/
theorem exists_cell_of_flattenFrom {root : Value} {forest : Forest Vertex}
    {state after : Flattening} (h : flattenFrom root forest state = (.ok (), after)) :
    ∃ page, root = .cell page := by
  cases root with
  | cell page => exact ⟨page, rfl⟩
  | _ => cases congrArg Prod.fst h

/-- A forest that is flattened onto new pages a second time, when the first time has left its labels,
gives the same pages with other labels. -/
theorem flattenFrom_relabelled {forest : Forest Vertex} {labels : Labels} {root : Value}
    {after : Flattening} (howned : (keys forest).Nodup)
    (hfree : ∀ key ∈ keys forest, labels.get key = [])
    (hfirst : flattenFrom root forest { pages := {}, labels } = (.ok (), after)) :
    ∃ again, flattenFrom root forest { pages := {}, labels := after.labels } = (.ok (), again) ∧
      after.pages.Relabelled again.pages := by
  obtain ⟨page, rfl⟩ := exists_cell_of_flattenFrom hfirst
  obtain ⟨houtcome, hpages, hlabels⟩ := flattenFrom_cell page forest { pages := {}, labels }
  rw [hfirst] at houtcome hpages hlabels
  obtain ⟨visits, hwalk⟩ := exists_walk none forest { pages := PageSet.create {} page, labels }
  have hagain : Again none forest { pages := PageSet.create {} page, labels }
      (flatten forest { pages := PageSet.create {} page, labels }).2.labels
      { pages := PageSet.create {} page, labels := after.labels } :=
    ⟨.cons ⟨rfl, .nil⟩ .nil, fun key _ => congrArg (·.get key) hlabels, rfl⟩
  obtain ⟨again, hsecond, hrelabelled⟩ := hwalk.relabelled ⟨howned, hfree, nofun⟩ hagain
  obtain ⟨houtcome', hpages', -⟩ :=
    flattenFrom_cell page forest { pages := {}, labels := after.labels }
  rw [flatten, hsecond] at houtcome' hpages'
  refine ⟨(flattenFrom (.cell page) forest { pages := {}, labels := after.labels }).2,
    Prod.ext (houtcome'.trans houtcome.symm) rfl, ?_⟩
  rw [hpages, hpages']
  exact hrelabelled

namespace NodeStore

variable {store : NodeStore} {keys : List Nat} {forest : Forest Vertex}

/-- What hangs below keys does not depend on labels. -/
theorem Holds.relabel (h : store.Holds keys forest) (labels : Labels) :
    ({ store with labels } : NodeStore).Holds keys forest := by
  induction h with
  | nil => exact .nil
  | node found _ _ ihb ihr => exact .node found ihb ihr

/-- The first time, labels are those that the groups above hand down. -/
theorem flattenFrom_eq_project (h : store.Holds keys forest)
    (howned : (Flattening.keys forest).Nodup)
    (hfree : ∀ key ∈ Flattening.keys forest, store.labels.get key = []) (page : Cell) :
    let projected := project [] (forest.map (·.toNode)) (.ofNames [page])
    ∃ first, store.flattenFrom (.cell page) keys {} = (projected.1, first, projected.2) := by
  intro projected
  have hproject := (run_eq_project forest none
    { pages := PageSet.ofNames [page], labels := store.labels } ⟨howned, hfree, nofun⟩).1
  obtain ⟨hrun, hpages⟩ := Prod.mk.inj hproject
  obtain ⟨houtcome, hwritten, -⟩ :=
    flattenFrom_cell page forest { pages := {}, labels := store.labels }
  have hstore := flattenFrom_of_holds h (.cell page) {}
  dsimp only at hstore
  rw [houtcome, hwritten] at hstore
  exact ⟨_, hstore.trans (congrArg₂ (fun outcome pages => (outcome, _, pages)) hrun hpages)⟩

/-- A store that keeps the labels of a first flattening gives the same pages with other labels. -/
theorem flattenFrom_relabelled (h : store.Holds keys forest)
    (howned : (Flattening.keys forest).Nodup)
    (hfree : ∀ key ∈ Flattening.keys forest, store.labels.get key = []) {root : Value}
    {first : NodeStore} {pages : PageSet}
    (hfirst : store.flattenFrom root keys {} = (.ok (), first, pages)) :
    ∃ second again, first.flattenFrom root keys {} = (.ok (), second, again) ∧
      pages.Relabelled again := by
  have hrun := flattenFrom_of_holds h root {}
  rcases hforest : SheetSchema.flattenFrom root forest { pages := {}, labels := store.labels } with
    ⟨outcome, after⟩
  rw [hforest, hfirst] at hrun
  cases hrun
  obtain ⟨again, hagain, hrelabelled⟩ := SheetSchema.flattenFrom_relabelled howned hfree hforest
  have hrun' := flattenFrom_of_holds (h.relabel after.labels) root {}
  rw [hagain] at hrun'
  exact ⟨_, again.pages, hrun', hrelabelled⟩

/-- A tree that is flattened onto new pages a second time gives the same pages in the same order, with
the same rows but for their labels. They differ from those of the first time wherever there are any,
so that the pages are the same if no column has labels. -/
theorem flattenFrom_again (h : store.Holds keys forest) (howned : (Flattening.keys forest).Nodup)
    (hfree : ∀ key ∈ Flattening.keys forest, store.labels.get key = []) {root : Value}
    {first : NodeStore} {pages : PageSet}
    (hfirst : store.flattenFrom root keys {} = (.ok (), first, pages)) :
    ∃ second again, first.flattenFrom root keys {} = (.ok (), second, again) ∧
      pages.Relabelled again ∧
      (again = pages ↔ ∀ page ∈ pages.pages, ∀ column ∈ page.rows, column.labels = .list []) := by
  obtain ⟨second, again, hsecond, hrelabelled⟩ := flattenFrom_relabelled h howned hfree hfirst
  exact ⟨second, again, hsecond, hrelabelled, hrelabelled.eq_iff⟩

/-- Two complex nodes of one page, of which the second one is not entered. -/
def references : NodeStore where
  nodes := #[
    { node := { name := "C", type := .reference "U", template := "T" }, children := [1] },
    { node := { name := "u", type := .leaf "int", template := "U" }, children := [] },
    { node := { name := "D", type := .reference "U", template := "T" }, children := [3] },
    { node := { name := "u", type := .leaf "int", template := "U" }, children := [] }]

/-- Without groups the pages are the same. -/
theorem flattenFrom_again_references :
    ∃ first second pages, references.flattenFrom "T" [0, 2] {} = (.ok (), first, pages) ∧
      pages.names = [.str "T", .str "U"] ∧
      first.flattenFrom "T" [0, 2] {} = (.ok (), second, pages) := by
  have hholds : references.Holds [0, 2] _ :=
    .node rfl (.node rfl .nil .nil) (.node rfl (.node rfl .nil .nil) .nil)
  obtain ⟨first, hfirst⟩ := flattenFrom_eq_project hholds (by decide)
    (fun key _ => Labels.get_empty key) (.str "T")
  obtain ⟨second, again, hsecond, -, hsame⟩ := flattenFrom_again hholds (by decide)
    (fun key _ => Labels.get_empty key) hfirst
  refine ⟨first, second, _, hfirst, rfl, ?_⟩
  rwa [hsame.2 (by decide)] at hsecond

/-- A group over a field. -/
def grouped : NodeStore where
  nodes := #[
    { node := { name := "A", template := "T" }, children := [1] },
    { node := { name := "a", type := .leaf "int", template := "T" }, children := [] }]

/-- Below a group the labels are handed down twice. -/
theorem flattenFrom_again_grouped :
    ∃ forest first second pages again,
      grouped.Holds [0] forest ∧ (Flattening.keys forest).Nodup ∧
      (∀ key ∈ Flattening.keys forest, grouped.labels.get key = []) ∧
      grouped.flattenFrom "T" [0] {} = (.ok (), first, pages) ∧
      first.flattenFrom "T" [0] {} = (.ok (), second, again) ∧ again ≠ pages := by
  have hholds : grouped.Holds [0] _ := .node rfl (.node rfl .nil .nil) .nil
  have hfree (forest : Forest Vertex) : ∀ key ∈ Flattening.keys forest,
      grouped.labels.get key = [] := fun key _ => Labels.get_empty key
  obtain ⟨first, hfirst⟩ := flattenFrom_eq_project hholds (by decide) (hfree _) (.str "T")
  obtain ⟨second, again, hsecond, hrelabelled⟩ :=
    flattenFrom_relabelled hholds (by decide) (hfree _) hfirst
  refine ⟨_, first, second, _, again, hholds, by decide, hfree _, hfirst, hsecond, fun hsame => ?_⟩
  exact absurd (hrelabelled.eq_iff.1 hsame) (by decide)

end NodeStore

end SheetSchema
