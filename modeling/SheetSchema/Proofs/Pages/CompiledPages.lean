import SheetSchema.Compile
import SheetSchema.Proofs.Pages.PlainPages
import SheetSchema.Proofs.Pages.SheetColumns
import SheetSchema.Proofs.References.Reachability

/-! The pages that are compiled from a grid of texts, told by its rows: which pages there are, and
which columns each of them has. -/
namespace SheetSchema

open Relation

namespace Compile

variable {σ : Type} {source : Source σ} {settings : Settings} {asked : Value} {state : σ}
  {journal : Journal} {compiled : CompiledPages}

/-- A compilation that succeeds has built a schema of the root sheet. -/
theorem exists_build_of_tree {root : String} {schema : Schema}
    (h : (tree source settings asked state journal).1 = .ok (root, schema)) :
    ∃ vocabulary before, Compile.vocabulary settings = .ok vocabulary ∧
      rootOf settings asked = .str root ∧
        (build source vocabulary root state before).1 = .ok schema := by
  unfold tree at h
  cases hv : Compile.vocabulary settings with
  | error error => simp [hv] at h
  | ok vocabulary =>
    simp only [hv] at h
    split at h
    next root' hroot =>
      rcases hbuild : build source vocabulary root' state
        (journal.push (.compiling (rootOf settings asked).display)) with ⟨outcome, progress⟩
      simp only [hbuild] at h
      split at h
      next found =>
        cases h
        exact ⟨vocabulary, _, rfl, hroot, congrArg (·.1) hbuild⟩
      all_goals contradiction
    · contradiction

/-- The pages of a compilation are those of a schema that it has built. -/
theorem exists_schema_of_pages
    (h : (pages source settings asked state journal).1 = .ok compiled) :
    ∃ vocabulary root schema before after,
      Compile.vocabulary settings = .ok vocabulary ∧ rootOf settings asked = .str root ∧
        (build source vocabulary root state before).1 = .ok schema ∧
        (pagesOf root schema after).1 = .ok compiled := by
  unfold pages at h
  rcases htree : tree source settings asked state journal with ⟨_ | ⟨root, schema⟩, compilation⟩
  · simp [htree] at h
  · simp only [htree] at h
    obtain ⟨vocabulary, before, hv, hroot, hbuild⟩ := exists_build_of_tree (congrArg (·.1) htree)
    refine ⟨vocabulary, root, schema, before, compilation.journal, hv, hroot, hbuild, ?_⟩
    rcases hpages : (pagesOf root schema compilation.journal).1 with error | flat
    · simp [hpages, Except.mapError] at h
    · simpa [hpages, Except.mapError] using h

/-- Flattening gives the pages of the forest below the page of the root sheet. -/
theorem exists_labels_of_pagesOf {root : String} {schema : Schema} {flat : PageSet}
    (h : project [] schema.forest (PageSet.ofNames [.str root]) = (.ok (), flat))
    (journal : Journal) :
    ∃ labels, (pagesOf root schema journal).1 = .ok { schema, pages := flat, labels } := by
  have hflat := flattenFrom_vertices root schema.forest journal
  rw [h, Prod.mk.injEq] at hflat
  refine ⟨(flattenFrom (.str root) schema.forest.vertices { pages := {}, journal }).2.labels, ?_⟩
  unfold pagesOf
  simp only [hflat.1, hflat.2, Except.map]

/-- Over a grid, the schema that the grid has is compiled, or its failure reported together with the
root sheet. -/
theorem tree_grid (grid : Grid) {vocabulary : Vocabulary} {root : String}
    (hvocabulary : Compile.vocabulary settings = .ok vocabulary)
    (hroot : rootOf settings asked = .str root) (state : σ) (journal : Journal) :
    (tree grid.source settings asked state journal).1 =
      match grid.schema vocabulary root with
      | .ok schema => .ok (root, schema)
      | .error (.schema cause) => .error (.schema root cause)
      | .error (.access error) => .error (.access error)
      | .error (.meaninglessRow sheet row) => .error (.meaninglessRow sheet row) := by
  have hbuild := build_grid grid vocabulary root state
    (journal.push (.compiling (rootOf settings asked).display))
  unfold tree
  simp only [hvocabulary]
  rw [hroot] at hbuild ⊢
  rcases houtcome : grid.schema vocabulary root with (cause | error | ⟨sheet, row⟩) | schema
  all_goals
    rw [houtcome] at hbuild
    simp only [hbuild]

/-- Over a grid, a schema that the grid has is compiled, together with its plain pages. -/
theorem exists_labels_of_schema {grid : Grid} {vocabulary : Vocabulary} {root : String}
    {schema : Schema} (hvocabulary : Compile.vocabulary settings = .ok vocabulary)
    (hroot : rootOf settings asked = .str root) (h : grid.schema vocabulary root = .ok schema)
    (state : σ) (journal : Journal) :
    ∃ labels, (pages grid.source settings asked state journal).1 =
      .ok { schema, pages := PageSet.plain root schema.forest, labels } := by
  have htree := tree_grid grid hvocabulary hroot state journal
  rw [h] at htree
  obtain ⟨labels, hlabels⟩ := exists_labels_of_pagesOf (Grid.project_schema h)
    (tree grid.source settings asked state journal).2.journal
  refine ⟨labels, ?_⟩
  unfold pages
  simp only [htree, hlabels, Except.mapError]

end Compile

namespace TextGrid

variable {grid : TextGrid} {vocabulary : Vocabulary} {root : String}

theorem exists_records {content : Request → Except BuildError (Forest Node)} {scope : Scope}
    {forest : Forest Node} (h : grid.toGrid.forest vocabulary content scope = .ok forest) :
    ∃ entries,
      List.Forall₂ (TextRow.Records vocabulary.dataTypes scope.isRoot)
        (grid.dataRows vocabulary.layout scope.isRoot scope.sheet) entries ∧
      forest = Sketch.assemble scope.sheet entries := by
  obtain ⟨entries, hentries, hforest⟩ := Grid.forest_eq_ok_iff.1 h
  refine ⟨entries, ?_, hforest⟩
  rw [dataRows_toGrid, List.forall₂_map_left_iff] at hentries
  rw [dataRows, List.forall₂_map_left_iff]
  exact hentries.imp fun _ _ => TextRow.records_of_entered

/-- Whether a sheet that is referred to has anything to stand on a page: a row with a hierarchy
text or a name. -/
def HasContent (grid : TextGrid) (layout : Layout) (sheet : String) : Prop :=
  ∃ number, (layout.referenceFirstRow ≤ number ∧ number ≤ grid.rowExtent sheet) ∧
    ((grid.row layout sheet number).path ≠ [] ∨ (grid.row layout sheet number).name ≠ "")

theorem content_ne_nil_iff {chain : List String} {request : Request} {children : Forest Node}
    (h : grid.toGrid.content vocabulary chain request = .ok children) :
    children ≠ .nil ↔ grid.HasContent vocabulary.layout request.sheet := by
  obtain ⟨entries, hentries, hforest⟩ := exists_records (Grid.content_eq_ok_iff.1 h).2.2.2
  have hempty (row : TextRow) :
      ¬(row.path = [] ∧ ¬row.IsField request.scope.isRoot) ↔ row.path ≠ [] ∨ row.name ≠ "" := by
    by_cases hpath : row.path = [] <;> simp [hpath, TextRow.IsField, Request.scope]
  rw [hforest, ne_eq, TextRow.assemble_eq_nil_iff hentries, HasContent]
  simp only [not_forall, exists_prop, hempty, mem_dataRows]
  constructor
  · rintro ⟨_, ⟨number, hnumber, rfl⟩, hrow⟩
    exact ⟨number, hnumber, hrow⟩
  · rintro ⟨number, hnumber, hrow⟩
    exact ⟨_, ⟨number, hnumber, rfl⟩, hrow⟩

/-- The columns of what is built for a sheet are those that its rows tell. -/
theorem columns_forest {content : Request → Except BuildError (Forest Node)} {scope : Scope}
    {forest : Forest Node} (h : grid.toGrid.forest vocabulary content scope = .ok forest) :
    ((forest.columns []).map Column.signature).Perm
      (TextRow.columns vocabulary.dataTypes scope.isRoot
        (grid.dataRows vocabulary.layout scope.isRoot scope.sheet)) := by
  obtain ⟨entries, hentries, rfl⟩ := exists_records h
  exact TextRow.columns_perm hentries scope.sheet

section Schema

variable {schema : Schema} (h : grid.toGrid.schema vocabulary root = .ok schema)
include h

theorem names_schema_iff {sheet : String} :
    Names schema.forest sheet ↔ TransGen (grid.Refers vocabulary root) root sheet :=
  names_iff_reachable (Grid.schema_eq_ok_iff.1 h).2.2.1 (List.mem_singleton_self root)
    (by simp [rootScope])

/-- The references with content name the sheets that can be reached and have content. -/
theorem mem_expansions_iff {sheet : String} :
    sheet ∈ schema.forest.expansions.map (·.1) ↔
      TransGen (grid.Refers vocabulary root) root sheet ∧
        grid.HasContent vocabulary.layout sheet := by
  have hforest := (Grid.schema_eq_ok_iff.1 h).2.2.1
  rw [← names_schema_iff h]
  constructor
  · intro hmem
    obtain ⟨⟨_, children⟩, hexpansion, rfl⟩ := List.mem_map.1 hmem
    obtain ⟨hne, node, ht, hbranch⟩ := Forest.mem_expansions.1 hexpansion
    obtain ⟨chain, request, hsheet, hcontent⟩ :=
      Grid.exists_content_of_reference hforest hbranch ht
    cases hsheet
    exact ⟨⟨_, hbranch, ht⟩, (content_ne_nil_iff hcontent).1 hne⟩
  · rintro ⟨⟨⟨node, children⟩, hbranch, ht⟩, hcontent⟩
    obtain ⟨chain, request, hsheet, hchildren⟩ :=
      Grid.exists_content_of_reference hforest hbranch ht
    cases hsheet
    have hne := (content_ne_nil_iff hchildren).2 hcontent
    exact List.mem_map.2 ⟨_, Forest.mem_expansions.2 ⟨hne, node, ht, hbranch⟩, rfl⟩

theorem columns_plain {page : Page} (hpage : page ∈ (PageSet.plain root schema.forest).pages) :
    ∃ sheet, page.name = .str sheet ∧ (page.rows.map Column.signature).Perm
      (TextRow.columns vocabulary.dataTypes (decide (sheet = root))
        (grid.dataRows vocabulary.layout (decide (sheet = root)) sheet)) := by
  have hforest := (Grid.schema_eq_ok_iff.1 h).2.2.1
  rcases List.mem_cons.1 hpage with rfl | hpage
  · refine ⟨root, rfl, ?_⟩
    rw [decide_eq_true rfl]
    exact columns_forest hforest
  · obtain ⟨⟨sheet, children⟩, hmem, rfl⟩ := List.mem_map.1 hpage
    obtain ⟨_, node, ht, hbranch⟩ := Forest.mem_expansions.1 (mem_of_mem_firsts hmem)
    obtain ⟨_, request, hsheet, hcontent⟩ := Grid.exists_content_of_reference hforest hbranch ht
    have hne : sheet ≠ root := by
      rintro rfl
      exact notMem_of_mem_expansions (Grid.wellTyped_forest hforest) (mem_of_mem_firsts hmem)
        (List.mem_singleton_self _)
    cases hsheet
    refine ⟨request.sheet, rfl, ?_⟩
    rw [decide_eq_false hne]
    exact columns_forest (Grid.content_eq_ok_iff.1 hcontent).2.2.2

end Schema

end TextGrid

/-- A compilation over a grid of texts loses no field and repeats none. There is one page for the
root sheet and for every sheet that can be reached from it and has content, and the columns of a
page are, but for order and descriptions, those that the rows of its sheet tell. -/
theorem compiled_columns {σ : Type} (grid : TextGrid) (settings : Settings) (asked : Value)
    (state : σ) (journal : Journal) (compiled : CompiledPages)
    (h : (Compile.pages grid.toGrid.source settings asked state journal).1 = .ok compiled) :
    ∃ vocabulary root, Compile.vocabulary settings = .ok vocabulary ∧
      Compile.rootOf settings asked = .str root ∧ compiled.pages.names.Nodup ∧
      (∀ name, name ∈ compiled.pages.names ↔ ∃ sheet, name = .str sheet ∧
        (sheet = root ∨ TransGen (grid.Refers vocabulary root) root sheet ∧
          grid.HasContent vocabulary.layout sheet)) ∧
      ∀ page ∈ compiled.pages.pages, ∀ sheet, page.name = .str sheet →
        (page.rows.map Column.signature).Perm
          (TextRow.columns vocabulary.dataTypes (decide (sheet = root))
            (grid.dataRows vocabulary.layout (decide (sheet = root)) sheet)) := by
  obtain ⟨vocabulary, root, schema, before, after, hv, hroot, hbuild, hpages⟩ :=
    Compile.exists_schema_of_pages h
  rw [build_grid] at hbuild
  obtain ⟨labels, hlabels⟩ :=
    Compile.exists_labels_of_pagesOf (Grid.project_schema hbuild) after
  rw [hlabels, Except.ok.injEq] at hpages
  subst hpages
  refine ⟨vocabulary, root, hv, hroot, ?_, fun name => ?_, ?_⟩
  · have htyped := Grid.wellTyped_forest (Grid.schema_eq_ok_iff.1 hbuild).2.2.1
    exact nodup_names_plain htyped (List.mem_singleton_self root)
  · rw [mem_names_plain]
    simp only [TextGrid.mem_expansions_iff hbuild]
  · intro page hpage sheet hsheet
    obtain ⟨other, hother, hperm⟩ := TextGrid.columns_plain hbuild hpage
    rw [hsheet] at hother
    cases hother
    exact hperm

namespace Twice

def settings : Settings :=
  Settings.defaults.merge (Settings.named [
    ("root_sheet", .str "R"),
    ("data_types", Settings.texts ["int"]),
    ("hierarchy_columns", .cell (.int 1)),
    ("name_column", .cell (.int 2)),
    ("type_column", .cell (.int 3)),
    ("notes_column", .cell (.int 4))])

theorem vocabulary_settings : Compile.vocabulary settings = .ok vocabulary := rfl

theorem rootOf_settings : Compile.rootOf settings .null = .str "R" := rfl

end Twice

/-- `T` has a page with the one column that its row tells, although two rows refer to it. -/
theorem compiled_columns_twice :
    ∃ compiled,
      (Compile.pages Twice.grid.toGrid.source Twice.settings .null () #[]).1 = .ok compiled ∧
      .str "T" ∈ compiled.pages.names ∧
      ∀ page ∈ compiled.pages.pages, page.name = .str "T" →
        page.rows.map Column.signature =
          [(Value.str "x", Value.str "int", Value.list ["g", ""])] := by
  obtain ⟨labels, h⟩ := Compile.exists_labels_of_schema Twice.vocabulary_settings
    Twice.rootOf_settings Twice.schema_eq () #[]
  obtain ⟨vocabulary, root, hvocabulary, hroot, _, hnames, hcolumns⟩ :=
    compiled_columns Twice.grid Twice.settings .null () #[] _ h
  rw [Twice.vocabulary_settings, Except.ok.injEq] at hvocabulary
  rw [Twice.rootOf_settings, Value.cell.injEq, Cell.str.injEq] at hroot
  subst hvocabulary hroot
  refine ⟨_, h, ?_, ?_⟩
  · refine (hnames _).2 ⟨"T", rfl, .inr ⟨.single ⟨4, ?_⟩, 2, ?_⟩⟩
    · unfold TextGrid.RefersAt
      decide
    · decide
  · intro page hpage hname
    have hperm := hcolumns page hpage "T" hname
    have hrows : TextRow.columns Twice.vocabulary.dataTypes (decide ("T" = "R"))
        (Twice.grid.dataRows Twice.vocabulary.layout (decide ("T" = "R")) "T") =
          [(Value.str "x", Value.str "int", Value.list ["g", ""])] := by decide
    rw [hrows] at hperm
    exact List.perm_singleton.1 hperm

end SheetSchema
