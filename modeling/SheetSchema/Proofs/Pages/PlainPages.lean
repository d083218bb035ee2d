import SheetSchema.Proofs.Building.WorkbookOutcome
import SheetSchema.Proofs.Pages.Contribution
import SheetSchema.Proofs.Pages.Expansion
import SheetSchema.Proofs.References.TextGrid
import SheetSchema.Proofs.Trees.Reoccurrence
import SheetSchema.Proofs.Trees.WellTyped

/-! Flattening skips what stands below a reference whose page is there. Nothing is lost by this in
a well-typed forest in which references to one sheet hold references to the same sheets: the
pages are those of the whole forest. -/
namespace SheetSchema

open Forest PageSet

/-- References to one sheet hold references to the same sheets, in the same order. -/
def Agreeing (expansions : List (String × Forest Node)) : Prop :=
  ∀ expansion ∈ expansions, ∀ other ∈ expansions, expansion.1 = other.1 →
    expansion.2.expansions.map (·.1) = other.2.expansions.map (·.1)

/-- Every page off the chain has been filled from a content whose references all have pages. -/
def PageSet.Closed (all : List (String × Forest Node)) (chain : List String) (pages : PageSet) :
    Prop :=
  ∀ expansion ∈ all, expansion.1 ∉ chain → pages.contains (.str expansion.1) = true →
    ∀ name ∈ expansion.2.expansions.map (·.1), pages.contains (.str name) = true

namespace PageSet.Closed

variable {all : List (String × Forest Node)} {chain : List String} {pages : PageSet}

theorem addRows (h : pages.Closed all chain) (other : Cell) (rows : List Column) :
    (pages.addRows other rows).Closed all chain := by
  intro expansion hmem hchain hp name hname
  rw [contains_addRows] at hp ⊢
  exact h expansion hmem hchain hp name hname

/-- A sheet joins the chain while its page is filled. -/
theorem create (h : pages.Closed all chain) (sheet : String) :
    (pages.create (.str sheet)).Closed all (chain ++ [sheet]) := by
  intro expansion hmem hchain hp name hname
  rw [List.mem_append, List.mem_singleton, not_or] at hchain
  rw [contains_create] at hp ⊢
  have hold : pages.contains (.str expansion.1) = true := hp.resolve_right hchain.2
  exact .inl (h expansion hmem hchain.1 hold name hname)

theorem fill (hagree : Agreeing all) (h : pages.Closed all chain) {forest : Forest Node}
    (hsub : forest.expansions ⊆ all) (sheet : String) (labels : List Label) :
    (pages.fill sheet labels forest).Closed all chain := by
  intro other hmem hchain hp name hname
  rw [PageSet.fill, contains_expandAll, contains_addRows] at hp ⊢
  rcases hp with hold | hnew
  · exact .inl (h other hmem hchain hold name hname)
  · obtain ⟨expansion, hexpansion, heq⟩ := List.mem_map.1 hnew
    rw [← hagree expansion (hsub hexpansion) other hmem heq] at hname
    obtain ⟨inner, hinner, rfl⟩ := List.mem_map.1 hname
    exact .inr (List.mem_map_of_mem (expansions_subset hexpansion hinner))

/-- If there is a page for a reference off the chain, there is one for each reference below it. -/
theorem contains_of_reference (h : pages.Closed all chain) {value : Node} {children : Forest Node}
    {name : String} (ht : value.type = .reference (.str name)) (hne : children ≠ .nil)
    (hsub : (tree value children).expansions ⊆ all) (hchain : name ∉ chain)
    (hp : pages.contains (.str name) = true) :
    ∀ expansion ∈ (tree value children).expansions,
      pages.contains (.str expansion.1) = true := by
  rw [expansions_reference ht hne] at hsub ⊢
  intro expansion hexpansion
  rcases List.mem_cons.1 hexpansion with rfl | hinner
  · exact hp
  · exact h _ (hsub (List.mem_cons_self ..)) hchain hp _ (List.mem_map_of_mem hinner)

end PageSet.Closed

/-- Flattening a well-typed forest writes its columns on the page of its sheet and expands its
references, those below skipped ones included. -/
theorem project_wellTyped {all : List (String × Forest Node)} (hagree : Agreeing all)
    {sheets : List String} {dataTypes : List Cell} (forest : Forest Node) {chain : List String}
    {sheet : String} {labels : List Label} {pages : PageSet}
    (htyped : forest.WellTyped sheets dataTypes chain sheet) (hsheet : sheet ∈ chain)
    (hpage : pages.contains (.str sheet) = true) (hsub : forest.expansions ⊆ all)
    (hclosed : pages.Closed all chain) :
    project labels forest pages = (.ok (), pages.fill sheet labels forest) := by
  induction forest generalizing chain sheet labels pages with
  | nil => rw [project, fill_nil]
  | node value children rest ihc ihr =>
    obtain ⟨htemplate, htype, hrest⟩ := htyped
    rw [expansions_node] at hsub
    have hsubr : rest.expansions ⊆ all := List.Subset.trans (List.subset_append_right ..) hsub
    have hsubt : (tree value children).expansions ⊆ all :=
      List.Subset.trans (List.subset_append_left ..) hsub
    have hsubc : children.expansions ⊆ all := fun e he => hsubt (by simp [expansions, tree, he])
    have hstep : project labels (.node value children rest) pages =
        project labels rest (pages.fill sheet labels (tree value children)) := by
      by_cases hne : children = .nil
      · subst hne
        rw [project_simple htemplate hpage, fill_simple]
      · cases ht : value.type with
        | leaf dataType =>
          rw [ht] at htype
          exact absurd htype.2 hne
        | structural =>
          rw [ht] at htype
          refine project_group htemplate hne (fun child hchild => htype.2.template_eq hchild) ?_
          rw [ihc htype.2 hsheet hpage hsubc hclosed, fill_group ht hne]
        | reference target =>
          rw [ht] at htype
          obtain ⟨name, rfl, hname, _, _, _, hchildren⟩ := htype
          have hall (child : Node) (h : child ∈ children.roots) := hchildren.template_eq h
          have hother : name ≠ sheet := by
            rintro rfl
            exact hname hsheet
          -- A skipped reference loses nothing: the pages of all that it holds are there.
          by_cases hskip : pages.contains (.str name) = true
          · rw [project_skipped htemplate hne hall hother hpage hskip,
              fill_skipped ht (hclosed.contains_of_reference ht hne hsubt hname hskip)]
          · have hpage' : ((pages.addRows (.str sheet) [value.column (.str name) labels]).create
                (.str name)).contains (.str name) = true := contains_create.2 (.inr rfl)
            apply project_entered htemplate hne hall hother hpage hskip
            rw [ihc hchildren (by simp) hpage' hsubc ((hclosed.addRows _ _).create name),
              fill_entered ht hne hskip]
    have hfilled : (pages.fill sheet labels (tree value children)).contains (.str sheet) =
        true := by
      rw [fill, contains_expandAll, contains_addRows]
      exact .inl hpage
    rw [hstep, ihr hrest hsheet hfilled hsubr (hclosed.fill hagree hsubt sheet labels),
      fill_node hpage]

/-- The pages of a forest: first that of the root sheet, then one for every sheet that a reference
with children names, in the order of the first such references, filled from their children. -/
def PageSet.plain (root : String) (forest : Forest Node) : PageSet :=
  ⟨.ofForest root forest ::
    (firsts forest.expansions).map fun expansion => .ofForest expansion.1 expansion.2⟩

/-- A page below a chain of sheets is filled with the plain content of its forest. -/
theorem project_page {sheets : List String} {dataTypes : List Cell} {chain : List String}
    {sheet : String} {forest : Forest Node}
    (htyped : forest.WellTyped sheets dataTypes chain sheet) (hsheet : sheet ∈ chain)
    (hagree : Agreeing forest.expansions) :
    project [] forest (ofNames [.str sheet]) =
      (.ok (), expandAll ⟨[.ofForest sheet forest]⟩ forest.expansions) := by
  have hpage : (ofNames [.str sheet]).contains (.str sheet) = true := by
    simp [ofNames, createAll, create, contains]
  have hclosed : (ofNames [.str sheet]).Closed forest.expansions chain := by
    intro expansion hmem hchain hp
    have hname : sheet = expansion.1 := by simpa [ofNames, createAll, create, contains] using hp
    exact absurd (hname ▸ hsheet) hchain
  rw [project_wellTyped hagree forest htyped hsheet hpage (List.Subset.refl _) hclosed, fill]
  congr 2
  simp [ofNames, createAll, create, contains, addRows, Page.ofForest]

theorem notMem_of_mem_expansions {sheets : List String} {dataTypes : List Cell}
    {chain : List String} {sheet : String} {forest : Forest Node}
    (htyped : forest.WellTyped sheets dataTypes chain sheet)
    {expansion : String × Forest Node} (hmem : expansion ∈ forest.expansions) :
    expansion.1 ∉ chain := by
  obtain ⟨_, node, ht, hbranch⟩ := mem_expansions.1 hmem
  obtain ⟨name, chain', hname, hpre, hchain, _⟩ := htyped.of_reference hbranch ht
  cases hname
  exact fun hin => hchain (hpre.subset hin)

theorem expandAll_eq_plain {sheets : List String} {dataTypes : List Cell} {chain : List String}
    {sheet root : String} {forest : Forest Node}
    (htyped : forest.WellTyped sheets dataTypes chain sheet) (hroot : root ∈ chain) :
    expandAll ⟨[.ofForest root forest]⟩ forest.expansions = PageSet.plain root forest := by
  have hpages := pages_expandAll ⟨[.ofForest root forest]⟩ forest.expansions
  rw [List.filter_eq_self.2] at hpages
  · exact congrArg PageSet.mk hpages
  · intro expansion hmem
    have hchain := notMem_of_mem_expansions htyped (mem_of_mem_firsts hmem)
    have hne : expansion.1 ≠ root := fun heq => hchain (heq ▸ hroot)
    rw [Bool.not_eq_true', ← Bool.not_eq_true, contains_str]
    simpa [names, Page.ofForest] using hne

theorem names_plain (root : String) (forest : Forest Node) :
    (PageSet.plain root forest).names =
      (root :: (firsts forest.expansions).map (·.1)).map Cell.str := by
  rw [List.map_cons, List.map_map]
  change _ :: List.map _ (List.map _ _) = _
  rw [List.map_map]
  rfl

theorem mem_names_plain {root : String} {forest : Forest Node} {name : Cell} :
    name ∈ (PageSet.plain root forest).names ↔ ∃ sheet, name = .str sheet ∧
      (sheet = root ∨ sheet ∈ forest.expansions.map (·.1)) := by
  rw [names_plain, List.mem_map]
  constructor
  · rintro ⟨sheet, hsheet, rfl⟩
    rw [List.mem_cons, mem_firsts_names] at hsheet
    exact ⟨sheet, rfl, hsheet⟩
  · rintro ⟨sheet, rfl, hsheet⟩
    refine ⟨sheet, ?_, rfl⟩
    rwa [List.mem_cons, mem_firsts_names]

theorem nodup_names_plain {sheets : List String} {dataTypes : List Cell} {chain : List String}
    {sheet root : String} {forest : Forest Node}
    (htyped : forest.WellTyped sheets dataTypes chain sheet) (hroot : root ∈ chain) :
    (PageSet.plain root forest).names.Nodup := by
  have hinj : Function.Injective Cell.str := fun _ _ h => by simpa using h
  rw [names_plain]
  refine List.Nodup.map hinj (List.nodup_cons.2 ⟨fun hmem => ?_, nodup_firsts_names _⟩)
  obtain ⟨expansion, hexpansion, heq⟩ := List.mem_map.1 (mem_firsts_names.1 hmem)
  exact notMem_of_mem_expansions htyped hexpansion (heq ▸ hroot)

theorem map_plain_eq_nil {forest : Forest Node} : forest.map Node.plain = .nil ↔ forest = .nil := by
  cases forest <;> simp [Forest.map]

theorem expansions_map_plain (forest : Forest Node) :
    (forest.map Node.plain).expansions =
      forest.expansions.map fun expansion => (expansion.1, expansion.2.map Node.plain) := by
  induction forest with
  | nil => rfl
  | node value children rest ihc ihr =>
    rw [Forest.map, expansions, expansions, ihc, ihr, List.map_append, List.map_append]
    congr 2
    have ht : value.plain.type = value.type := rfl
    rw [ht]
    split
    · by_cases hc : children = .nil <;> simp [map_plain_eq_nil, hc]
    · rfl

namespace Grid

variable {grid : Grid} {vocabulary : Vocabulary} {chain : List String} {scope : Scope}
  {forest : Forest Node}

theorem agreeing_expansions
    (h : grid.forest vocabulary (grid.content vocabulary chain) scope = .ok forest) :
    Agreeing forest.expansions := by
  rintro ⟨sheet, children⟩ hmem ⟨other, children'⟩ hmem' heq
  obtain ⟨_, node, ht, hbranch⟩ := mem_expansions.1 hmem
  obtain ⟨_, node', ht', hbranch'⟩ := mem_expansions.1 hmem'
  obtain ⟨chain₁, request, hsheet, hcontent⟩ := exists_content_of_reference h hbranch ht
  obtain ⟨chain₂, request', hsheet', hcontent'⟩ := exists_content_of_reference h hbranch' ht'
  have hsame : request.sheet = request'.sheet := by
    cases hsheet
    cases hsheet'
    exact heq
  have hplain := congrArg expansions (plain_content_eq hsame hcontent hcontent')
  rw [expansions_map_plain, expansions_map_plain] at hplain
  simpa [Function.comp_def] using congrArg (List.map (·.1)) hplain

/-- What is built for a sheet is flattened onto its plain pages. -/
theorem project_forest
    (h : grid.forest vocabulary (grid.content vocabulary chain) scope = .ok forest)
    (hchain : scope.sheet ∈ chain) :
    project [] forest (ofNames [.str scope.sheet]) =
      (.ok (), PageSet.plain scope.sheet forest) := by
  have htyped := wellTyped_forest h
  rw [project_page htyped hchain (agreeing_expansions h), expandAll_eq_plain htyped hchain]

/-- What is built for a root sheet is flattened onto its plain pages. -/
theorem project_schema {root : String} {schema : Schema}
    (h : grid.schema vocabulary root = .ok schema) :
    project [] schema.forest (ofNames [.str root]) = (.ok (), PageSet.plain root schema.forest) :=
  project_forest (schema_eq_ok_iff.1 h).2.2.1 (List.mem_singleton_self root)

end Grid

/-- Flattening what has been built for a root sheet gives the plain pages of the whole forest,
although it skips what stands below all but the first reference to a sheet. This needs a source
whose cells show the same all through the build, and a forest that is flattened for the first
time. -/
theorem flattenFrom_built {vocabulary : Vocabulary} {root : String} {schema : Schema}
    (h : Built vocabulary root schema) (journal : Journal) :
    ∃ state,
      flattenFrom (.str root) schema.forest.vertices { pages := {}, journal } = (.ok (), state) ∧
      state.pages = PageSet.plain root schema.forest := by
  obtain ⟨grid, hschema⟩ := h.exists_grid
  have hflat := flattenFrom_vertices root schema.forest journal
  rw [Grid.project_schema hschema, Prod.mk.injEq] at hflat
  exact ⟨_, Prod.ext hflat.1 rfl, hflat.2⟩

theorem Twice.built : Built Twice.vocabulary "R" Twice.schema :=
  .grid Twice.grid.toGrid () #[] ((build_grid ..).trans Twice.schema_eq)

/-- The second reference to `T` is skipped, and its page is filled once. -/
theorem flattenFrom_twice :
    ∃ state,
      flattenFrom (.str "R") Twice.schema.forest.vertices { pages := {} } = (.ok (), state) ∧
      state.pages = ⟨[
        { name := .str "R"
          rows := [{ tagName := "a", dataType := "T" }, { tagName := "b", dataType := "T" }] },
        { name := .str "T"
          rows := [{ tagName := "x", dataType := "int", labels := .list ["g", ""] }] }]⟩ := by
  have hplain : PageSet.plain "R" Twice.schema.forest = ⟨[
      { name := .str "R"
        rows := [{ tagName := "a", dataType := "T" }, { tagName := "b", dataType := "T" }] },
      { name := .str "T"
        rows := [{ tagName := "x", dataType := "int", labels := .list ["g", ""] }] }]⟩ := by decide
  rw [← hplain]
  exact flattenFrom_built Twice.built #[]

namespace Turning

/-- A root sheet `R` with two rows that refer to `T`. Once the type of the field in `T` has been
looked at, it turns from a basic type to a reference to `U`. -/
def source : Source Bool where
  sheets := ["R", "T", "U"]
  rowExtent sheet _ := .ok (if sheet = "R" then 5 else 2)
  shown sheet row col turned :=
    match sheet, col with
    | "R", 2 => (.ok (if row = 4 then "a" else "b"), turned)
    | "R", 3 => (.ok "T", turned)
    | "T", 2 => (.ok "x", turned)
    | "T", 3 => (.ok (if turned then "U" else "int"), true)
    | "U", 2 => (.ok "y", turned)
    | "U", 3 => (.ok "int", turned)
    | _, _ => (.ok "", turned)
  recalculate _ turned := turned

/-- What is built for `U`. -/
def inner : Forest Node := .tree { name := "y", type := .leaf "int", template := "U" } .nil

/-- What is built for `T` the first time. -/
def content : Forest Node := .tree { name := "x", type := .leaf "int", template := "T" } .nil

/-- What is built for `T` the second time. -/
def turned : Forest Node := .tree { name := "x", type := .reference "U", template := "T" } inner

def schema : Schema where
  description := "b"
  version := "b"
  forest :=
    .node { name := "a", type := .reference "T", template := "R" } content
      (.tree { name := "b", type := .reference "T", template := "R" } turned)

def request (sheet referrer : String) (row : Int) : Request :=
  { sheet, referrer, row, subProcess := .null, pattern := "" }

open Build

theorem resolve_content (journal : Journal) : ∃ journal',
    (resolve source Twice.vocabulary ["R"] (request "T" "R" 4)).run
        { source := false, recalculated := ["R"], journal } =
      (.ok content, { source := true, recalculated := ["R", "T"], journal := journal' }) := by
  rw [resolve]
  exact ⟨_, rfl⟩

theorem resolve_inner (journal : Journal) : ∃ after,
    (resolve source Twice.vocabulary ["R", "T"] (request "U" "T" 2)).run
        { source := true, recalculated := ["R", "T"], journal } =
      (.ok inner, after) := by
  rw [resolve]
  exact ⟨_, rfl⟩

theorem resolve_turned (journal : Journal) : ∃ after,
    (resolve source Twice.vocabulary ["R"] (request "T" "R" 5)).run
        { source := true, recalculated := ["R", "T"], journal } =
      (.ok turned, after) := by
  obtain ⟨after, hinner⟩ := resolve_inner (journal.push (.resolving "T" "R" 5 .null))
  rw [resolve, dif_neg (by decide), dif_pos (by decide)]
  let entry := readEntry source Twice.vocabulary (resolve source Twice.vocabulary ["R", "T"])
    (request "T" "R" 5).scope
  have hentry : (entry 2).run { source := true, recalculated := ["R", "T"], journal := _ } = _ :=
    run_readEntry Twice.vocabulary
      { number := 2, path := [], name := "x", type := "U", notes := "" }
      (request "U" "T" 2) rfl (by decide) (by decide) rfl hinner
  exact ⟨_, run_bind_eq_ok_iff.2 ⟨2, _, rfl, run_bind_eq_ok_iff.2 ⟨(), _, rfl,
    run_bind_eq_ok_iff.2 ⟨_, after, run_mapM_cons hentry rfl, rfl⟩⟩⟩⟩

theorem build_eq : (build source Twice.vocabulary "R" false).1 = .ok schema := by
  obtain ⟨journal, hcontent⟩ := resolve_content #[]
  obtain ⟨after, hturned⟩ := resolve_turned journal
  let entry := readEntry source Twice.vocabulary (resolve source Twice.vocabulary ["R"])
    (rootScope "R")
  have hfirst : (entry 4).run { source := false, recalculated := ["R"] } = _ :=
    run_readEntry Twice.vocabulary
      { number := 4, path := [], name := "a", type := "T", notes := "" }
      (request "T" "R" 4) rfl (by decide) (by decide) rfl hcontent
  have hsecond : (entry 5).run { source := true, recalculated := ["R", "T"], journal } = _ :=
    run_readEntry Twice.vocabulary
      { number := 5, path := [], name := "b", type := "T", notes := "" }
      (request "T" "R" 5) rfl (by decide) (by decide) rfl hturned
  have hentries : ([4, 5].mapM entry).run { source := false, recalculated := ["R"] } = _ :=
    run_mapM_cons hfirst (run_mapM_cons hsecond rfl)
  have hrun : ∃ progress, build source Twice.vocabulary "R" false = (.ok schema, progress) :=
    ⟨_, run_bind_eq_ok_iff.2 ⟨5, _, rfl, run_bind_eq_ok_iff.2 ⟨"b", _, rfl,
      run_bind_eq_ok_iff.2 ⟨"b", _, rfl, run_bind_eq_ok_iff.2 ⟨schema.forest, _,
        run_bind_eq_ok_iff.2 ⟨_, after, hentries, rfl⟩, rfl⟩⟩⟩⟩⟩
  obtain ⟨progress, hrun⟩ := hrun
  rw [hrun]

end Turning

/-- If a sheet changes between two references to it, a new reference below the second one gets no
page; and a forest that is flattened again hands its labels down twice. -/
theorem flattenFrom_turning :
    (∃ state,
      (build Turning.source Twice.vocabulary "R" false).1 = .ok Turning.schema ∧
      flattenFrom (.str "R") Turning.schema.forest.vertices { pages := {} } = (.ok (), state) ∧
      state.pages.names = [.str "R", .str "T"] ∧
      (PageSet.plain "R" Turning.schema.forest).names = [.str "R", .str "T", .str "U"]) ∧
    ∃ first second,
      Built Twice.vocabulary "R" Twice.schema ∧
      flattenFrom (.str "R") Twice.schema.forest.vertices { pages := {} } = (.ok (), first) ∧
      flattenFrom (.str "R") Twice.schema.forest.vertices
        { pages := {}, labels := first.labels } = (.ok (), second) ∧
      (second.pages.get? (.str "T")).map (·.rows) =
        some [{ tagName := "x", dataType := "int", labels := .list ["g", "", "g", ""] }] ∧
      ((PageSet.plain "R" Twice.schema.forest).get? (.str "T")).map (·.rows) =
        some [{ tagName := "x", dataType := "int", labels := .list ["g", ""] }] := by
  -- what the group of `T` hands to its field, which keeps it from one flattening to the next
  let hand (labels : Labels) : Labels := labels.append 2 (labels.get 1 ++ [(("g", "") : Label)])
  have hlabels : (hand (hand {})).get 2 = [(("g", "") : Label), ("g", "")] := by
    simp [hand, Flattening.get_append, Labels.get_empty]
  let row (labels : List Label) : Column :=
    { tagName := "x", dataType := "int", labels := .list (flatLabels labels) }
  have hrows : some [row ((hand (hand {})).get 2)] =
      some [{ tagName := "x", dataType := "int", labels := .list ["g", "", "g", ""] }] := by
    rw [hlabels]
    rfl
  exact ⟨⟨_, Turning.build_eq, rfl, rfl, rfl⟩, _, _, Twice.built, rfl, rfl, hrows, rfl⟩

end SheetSchema
