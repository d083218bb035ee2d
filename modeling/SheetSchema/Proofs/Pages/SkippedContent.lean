import SheetSchema.Proofs.Pages.CompiledPages

/-! Flattening fills the page of a sheet from one reference to it and skips what stands below the
others. Any of them would have put the same tags, types and labels on the page. -/
namespace SheetSchema

open Forest PageSet

/-- The rows of the page of a name, none if there is no such page. -/
def PageSet.rowsOf (pages : PageSet) (name : Cell) : List Column :=
  ((pages.get? name).map (·.rows)).getD []

theorem rowsOf_plain_self (sheet : String) (forest : Forest Node) :
    (PageSet.plain sheet forest).rowsOf (.str sheet) = forest.columns [] := by
  simp [rowsOf, get?, PageSet.plain, Page.ofForest]

theorem rowsOf_of_mem {pages : PageSet} (hnodup : pages.names.Nodup) {page : Page}
    (hpage : page ∈ pages.pages) {sheet : String} (hname : page.name = .str sheet) :
    pages.rowsOf (.str sheet) = page.rows := by
  have hfound : (pages.pages.find? (·.name.agrees (.str sheet))).isSome := by
    rw [List.find?_isSome]
    exact ⟨page, hpage, by simp [hname]⟩
  obtain ⟨other, hother⟩ := Option.isSome_iff_exists.1 hfound
  have hagrees : other.name = .str sheet := by simpa using List.find?_some hother
  have heq : other = page :=
    List.inj_on_of_nodup_map hnodup (List.mem_of_find?_eq_some hother) hpage
      (by rw [hagrees, hname])
  rw [rowsOf, get?, hother, heq]
  rfl

theorem rowsOf_of_notMem {pages : PageSet} {sheet : String} (h : .str sheet ∉ pages.names) :
    pages.rowsOf (.str sheet) = [] := by
  have hnone : pages.get? (.str sheet) = none := by
    rw [get?, List.find?_eq_none]
    intro page hpage hagrees
    exact h (Cell.agrees_str.1 hagrees ▸ List.mem_map_of_mem hpage)
  rw [rowsOf, hnone]
  rfl

/-- Descriptions of fields do not reach the tags, types and labels of a well-typed forest. -/
theorem signatures_map_plain {sheets : List String} {dataTypes : List Cell} {forest : Forest Node}
    {chain : List String} {sheet : String} (htyped : forest.WellTyped sheets dataTypes chain sheet)
    (above : List Label) :
    ((forest.map Node.plain).columns above).map Column.signature =
      (forest.columns above).map Column.signature := by
  induction forest generalizing chain sheet above with
  | nil => rfl
  | node value children rest ihc ihr =>
    obtain ⟨_, htype, hrest⟩ := htyped
    rw [Forest.map, columns_node, columns_node above value, List.map_append, List.map_append,
      ihr hrest]
    congr 1
    by_cases hgroup : value.type = .structural ∧ children ≠ .nil
    · obtain ⟨ht, hne⟩ := hgroup
      rw [ht] at htype
      have hdescription := htype.1.resolve_left hne
      have hplain : value.plain.type = .structural ∧ children.map Node.plain ≠ .nil :=
        ⟨ht, mt map_plain_eq_nil.1 hne⟩
      have hlabel : (value.plain.name, value.plain.description) = (value.name, value.description) :=
        congrArg (Prod.mk value.name) hdescription.symm
      simp only [tree, columns, if_pos hplain, if_pos (And.intro ht hne), List.append_nil, hlabel]
      exact ihc htype.2 _
    · have hplain : ¬(value.plain.type = .structural ∧ children.map Node.plain ≠ .nil) :=
        fun h => hgroup ⟨h.1, fun hnil => h.2 (map_plain_eq_nil.2 hnil)⟩
      rw [columns_tree_of_ne hplain, columns_tree_of_ne hgroup]
      rfl

theorem signatures_congr {sheets : List String} {dataTypes : List Cell} {chain chain' : List String}
    {sheet : String} {forest other : Forest Node}
    (htyped : forest.WellTyped sheets dataTypes chain sheet)
    (htyped' : other.WellTyped sheets dataTypes chain' sheet)
    (h : forest.map Node.plain = other.map Node.plain) :
    (forest.columns []).map Column.signature = (other.columns []).map Column.signature := by
  rw [← signatures_map_plain htyped, h, signatures_map_plain htyped']

namespace Grid

variable {grid : Grid} {vocabulary : Vocabulary} {root : String} {schema : Schema}

/-- References to one sheet agree in all that stands below them but for descriptions. -/
theorem plain_children_eq (h : grid.schema vocabulary root = .ok schema)
    {branch other : Node × Forest Node} (hbranch : branch ∈ schema.forest.branches)
    (hother : other ∈ schema.forest.branches) {target : Value}
    (ht : branch.1.type = .reference target) (ht' : other.1.type = .reference target) :
    branch.2.map Node.plain = other.2.map Node.plain := by
  have hforest := (schema_eq_ok_iff.1 h).2.2.1
  obtain ⟨_, request, hsheet, hcontent⟩ := exists_content_of_reference hforest hbranch ht
  obtain ⟨_, request', hsheet', hcontent'⟩ := exists_content_of_reference hforest hother ht'
  have hsame : request.sheet = request'.sheet := by
    rw [hsheet] at hsheet'
    simpa using hsheet'
  exact plain_content_eq hsame hcontent hcontent'

variable {branch : Node × Forest Node} {sheet : String}

/-- What stands below a reference is flattened onto the plain pages of its sheet. -/
theorem project_reference (h : grid.schema vocabulary root = .ok schema)
    (hbranch : branch ∈ schema.forest.branches)
    (ht : branch.1.type = .reference (.str sheet)) :
    project [] branch.2 (ofNames [.str sheet]) = (.ok (), PageSet.plain sheet branch.2) := by
  have hforest := (schema_eq_ok_iff.1 h).2.2.1
  obtain ⟨chain, request, hsheet, hcontent⟩ := exists_content_of_reference hforest hbranch ht
  cases hsheet
  exact project_forest (content_eq_ok_iff.1 hcontent).2.2.2 (by simp [Request.scope])

/-- The sheet of a reference has a page if anything stands below the reference. -/
theorem mem_names_plain_iff (h : grid.schema vocabulary root = .ok schema)
    (hbranch : branch ∈ schema.forest.branches)
    (ht : branch.1.type = .reference (.str sheet)) :
    .str sheet ∈ (PageSet.plain root schema.forest).names ↔ branch.2 ≠ .nil := by
  have htyped := wellTyped_forest (schema_eq_ok_iff.1 h).2.2.1
  obtain ⟨name, chain, hname, hpre, hchain, _⟩ := htyped.of_reference hbranch ht
  cases hname
  rw [mem_names_plain]
  constructor
  · rintro ⟨other, hother, hcases⟩ hnil
    cases hother
    rcases hcases with rfl | hmem
    · exact hchain (hpre.subset (List.mem_singleton_self sheet))
    · obtain ⟨⟨_, children⟩, hexpansion, rfl⟩ := List.mem_map.1 hmem
      obtain ⟨hne, node, ht', hother⟩ := mem_expansions.1 hexpansion
      have hplain := plain_children_eq h hbranch hother ht ht'
      rw [hnil] at hplain
      exact hne (map_plain_eq_nil.1 hplain.symm)
  · intro hne
    exact ⟨sheet, rfl, .inr (List.mem_map.2 ⟨_, mem_expansions.2 ⟨hne, _, ht, hbranch⟩, rfl⟩)⟩

/-- The page of a sheet tells the tags, types and labels below any reference to it. -/
theorem signatures_rowsOf (h : grid.schema vocabulary root = .ok schema)
    (hbranch : branch ∈ schema.forest.branches)
    (ht : branch.1.type = .reference (.str sheet)) :
    ((PageSet.plain root schema.forest).rowsOf (.str sheet)).map Column.signature =
      (branch.2.columns []).map Column.signature := by
  have htyped := wellTyped_forest (schema_eq_ok_iff.1 h).2.2.1
  have hroot : root ∈ [root] := List.mem_singleton_self root
  -- Without content there is no page, and with it the page is that of the first reference.
  by_cases hnil : branch.2 = .nil
  · have hout : Cell.str sheet ∉ (PageSet.plain root schema.forest).names :=
      fun hmem => (mem_names_plain_iff h hbranch ht).1 hmem hnil
    rw [rowsOf_of_notMem hout, hnil]
    rfl
  · have hmem : sheet ∈ (firsts schema.forest.expansions).map (·.1) :=
      mem_firsts_names.2 (List.mem_map.2 ⟨_, mem_expansions.2 ⟨hnil, _, ht, hbranch⟩, rfl⟩)
    obtain ⟨⟨_, children⟩, hfirst, rfl⟩ := List.mem_map.1 hmem
    obtain ⟨_, node, ht', hother⟩ := mem_expansions.1 (mem_of_mem_firsts hfirst)
    obtain ⟨_, _, hname, _, _, _, hchildren⟩ := htyped.of_reference hbranch ht
    obtain ⟨_, _, hname', _, _, _, hchildren'⟩ := htyped.of_reference hother ht'
    cases hname
    cases hname'
    have hpage : Page.ofForest _ children ∈ (PageSet.plain root schema.forest).pages :=
      List.mem_cons_of_mem _ (List.mem_map_of_mem hfirst)
    rw [rowsOf_of_mem (nodup_names_plain htyped hroot) hpage rfl]
    exact signatures_congr hchildren' hchildren (plain_children_eq h hother hbranch ht' ht)

end Grid

/-- What stands below a reference is the same, but for descriptions, below every reference to its
sheet. The page that a compilation gives the sheet holds what flattening any of them on its own
would write on it, and it is there unless this is nothing. -/
theorem references_agree {vocabulary : Vocabulary} {root : String} {schema : Schema}
    (h : Built vocabulary root schema) {branch : Node × Forest Node}
    (hbranch : branch ∈ schema.forest.branches) {target : Value}
    (ht : branch.1.type = .reference target) :
    (∀ other ∈ schema.forest.branches, other.1.type = .reference target →
      other.2.map Node.plain = branch.2.map Node.plain) ∧
    ∃ sheet, target = .str sheet ∧ ∀ journal journal' : Journal, ∃ compiled state,
      (Compile.pagesOf root schema journal).1 = .ok compiled ∧
      flatten branch.2.vertices
        { pages := PageSet.ofNames [.str sheet], journal := journal' } = (.ok (), state) ∧
      (compiled.pages.rowsOf (.str sheet)).map Column.signature =
        (state.pages.rowsOf (.str sheet)).map Column.signature ∧
      (.str sheet ∈ compiled.pages.names ↔ branch.2 ≠ .nil) := by
  obtain ⟨grid, hschema⟩ := h.exists_grid
  refine ⟨fun other hother ht' => Grid.plain_children_eq hschema hother hbranch ht' ht, ?_⟩
  have htyped := Grid.wellTyped_forest (Grid.schema_eq_ok_iff.1 hschema).2.2.1
  obtain ⟨sheet, _, rfl, _⟩ := htyped.of_reference hbranch ht
  refine ⟨sheet, rfl, fun journal journal' => ?_⟩
  obtain ⟨labels, hcompiled⟩ :=
    Compile.exists_labels_of_pagesOf (Grid.project_schema hschema) journal
  have hflat := flatten_vertices branch.2 (PageSet.ofNames [.str sheet]) journal'
  rw [Grid.project_reference hschema hbranch ht, Prod.mk.injEq] at hflat
  refine ⟨_, _, hcompiled, Prod.ext hflat.1 rfl, ?_, Grid.mem_names_plain_iff hschema hbranch ht⟩
  rw [hflat.2, Grid.signatures_rowsOf hschema hbranch ht, rowsOf_plain_self]

/-- The page of `T` holds the column of the field `x` in its group `g`, which is what stands below the
second reference to it, too. This one is skipped. -/
theorem references_agree_twice :
    ∃ compiled state,
      (Compile.pagesOf "R" Twice.schema #[]).1 = .ok compiled ∧
      flatten Twice.second.2.vertices { pages := PageSet.ofNames [.str "T"] } = (.ok (), state) ∧
      (compiled.pages.rowsOf (.str "T")).map Column.signature =
        [(.str "x", .str "int", .list ["g", ""])] ∧
      (state.pages.rowsOf (.str "T")).map Column.signature =
        [(.str "x", .str "int", .list ["g", ""])] ∧
      .str "T" ∈ compiled.pages.names := by
  have hsecond : Twice.second ∈ Twice.schema.forest.branches := by decide
  obtain ⟨_, sheet, hsheet, hpages⟩ := references_agree Twice.built hsecond rfl
  rw [Value.cell.injEq, Cell.str.injEq] at hsheet
  subst hsheet
  obtain ⟨compiled, state, hcompiled, hflat, hrows, hpage⟩ := hpages #[] #[]
  have hstate : (state.pages.rowsOf (.str "T")).map Column.signature =
      [(.str "x", .str "int", .list ["g", ""])] := by
    have hproject := flatten_vertices Twice.second.2 (PageSet.ofNames [.str "T"]) #[]
    rw [hflat] at hproject
    have hpages : state.pages = (project [] Twice.second.2 (PageSet.ofNames [.str "T"])).2 :=
      congrArg Prod.snd hproject
    rw [hpages]
    decide
  exact ⟨compiled, state, hcompiled, hflat, hrows.trans hstate, hstate, hpage.2 (by decide)⟩

end SheetSchema
