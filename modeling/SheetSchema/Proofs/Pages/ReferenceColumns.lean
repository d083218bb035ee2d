import SheetSchema.Proofs.Pages.CompiledPages
import SheetSchema.Proofs.Pages.Completion

/-! What the columns of compiled pages refer to. The type of a column is empty, basic or the name
of a page, unless it is the sheet of a reference that nothing stands below: such a reference has a
column, but no page is made for its sheet. Over a grid of texts there are such columns exactly if
a sheet that can be reached has no content. -/
namespace SheetSchema

open Relation

/-- A type that stands for itself: there is none, or it is basic. -/
def Vocabulary.Basic (vocabulary : Vocabulary) (dataType : Value) : Prop :=
  dataType = "" ∨ dataType.isAmong vocabulary.dataTypes = true

/-- Some reference to the sheet has nothing standing below it. -/
def Forest.RefersBare (forest : Forest Node) (sheet : String) : Prop :=
  ∃ node, node.type = .reference (.str sheet) ∧ (node, .nil) ∈ forest.branches

/-- A node without children has a type that stands for itself, or it is a bare reference. -/
theorem Forest.WellTyped.type_of_childless {sheets chain : List String} {vocabulary : Vocabulary}
    {sheet : String} {forest : Forest Node}
    (h : forest.WellTyped sheets vocabulary.dataTypes chain sheet) (hsheet : sheet ∈ chain)
    {node : Node} (hbranch : (node, .nil) ∈ forest.branches) :
    vocabulary.Basic node.type.name ∨
      ∃ name ∈ sheets, node.type.name = .str name ∧ forest.RefersBare name := by
  obtain ⟨chain', sheet', _, hmem, hnode⟩ := h.of_branch hbranch
  cases ht : node.type with
  | structural => exact .inl (.inl rfl)
  | leaf dataType => exact .inl (.inr (hnode.leaf ht).1)
  | reference target =>
    obtain ⟨name, rfl, _, _, hname, _⟩ := hnode.reference (hmem hsheet) ht
    exact .inr ⟨name, hname, rfl, node, ht, hbranch⟩

/-- What a type may be on the pages of a tree, if it names none of them. -/
def Vocabulary.Foreseen (vocabulary : Vocabulary) (sheets : List String) (forest : Forest Node)
    (dataType : Value) : Prop :=
  vocabulary.Basic dataType ∨ ∃ sheet ∈ sheets, dataType = .str sheet ∧ forest.RefersBare sheet

theorem resolved_of_build {σ : Type} {source : Source σ} {vocabulary : Vocabulary} {root : String}
    {state : σ} {before after : Journal} {schema : Schema} {compiled : CompiledPages}
    (hbuild : (build source vocabulary root state before).1 = .ok schema)
    (hpages : (Compile.pagesOf root schema after).1 = .ok compiled) :
    compiled.schema = schema ∧
      compiled.pages.Resolved (vocabulary.Foreseen source.sheets schema.forest) := by
  have htyped := wellTyped_build hbuild
  have hknown : ∀ branch ∈ schema.forest.branches, branch.2 = .nil →
      vocabulary.Foreseen source.sheets schema.forest branch.1.type.name := by
    rintro ⟨node, _⟩ hbranch rfl
    exact htyped.type_of_childless (List.mem_singleton_self root) hbranch
  obtain ⟨other, hother, hresolved⟩ := pagesOf_wellTyped _ htyped hknown after
  rw [hpages, Except.ok.injEq] at hother
  rwa [hother]

/-- Over any source, the type of every column is empty, basic or the name of a page, or it is a
sheet that some reference of the tree names without anything standing below it. -/
theorem dataType_of_pages {σ : Type} {source : Source σ} {settings : Settings} {asked : Value}
    {state : σ} {journal : Journal} {compiled : CompiledPages}
    (h : (Compile.pages source settings asked state journal).1 = .ok compiled) :
    ∃ vocabulary, Compile.vocabulary settings = .ok vocabulary ∧
      ∀ page ∈ compiled.pages.pages, ∀ column ∈ page.rows,
        column.dataType = "" ∨ column.dataType.isAmong vocabulary.dataTypes = true ∨
          (∃ name ∈ compiled.pages.names, column.dataType = .cell name) ∨
          ∃ sheet ∈ source.sheets, column.dataType = .str sheet ∧
            compiled.schema.forest.RefersBare sheet := by
  obtain ⟨vocabulary, root, schema, before, after, hvocabulary, _, hbuild, hpages⟩ :=
    Compile.exists_schema_of_pages h
  obtain ⟨rfl, hresolved⟩ := resolved_of_build hbuild hpages
  refine ⟨vocabulary, hvocabulary, fun page hpage column hcolumn => ?_⟩
  rcases hresolved page hpage column hcolumn with ((hempty | hbasic) | hbare) | hnamed
  · exact .inl hempty
  · exact .inr (.inl hbasic)
  · exact .inr (.inr (.inr hbare))
  · exact .inr (.inr (.inl hnamed))

namespace Hollow

/-- A root sheet `R` that refers to a sheet `T`, which has a data row that describes nothing. -/
def grid : TextGrid where
  sheets := ["R", "T"]
  rowExtent sheet := if sheet = "R" then 4 else 2
  text sheet _ col :=
    if sheet = "R" then if col = 2 then "a" else if col = 3 then "T" else ""
    else if col = 3 then "int" else ""

def schema : Schema where
  description := "a"
  version := "a"
  forest := .tree { name := "a", type := .reference "T", template := "R" } .nil

theorem schema_eq : grid.toGrid.schema Twice.vocabulary "R" = .ok schema := by
  have hcontent : grid.toGrid.content Twice.vocabulary ["R"]
      { sheet := "T", referrer := "R", row := 4, subProcess := .null, pattern := "" } =
        .ok .nil := by
    refine Grid.content_eq_ok_iff.2 ⟨?_, ?_, ?_, ?_⟩
    · change "T" ∉ ["R"]
      decide
    · change "T" ∈ ["R", "T"]
      decide
    · change (2 : Int) ≤ 2
      decide
    · exact Grid.forest_eq_ok_iff.2
        ⟨[([], .nil)], .cons (.bare (by decide) (by decide)) .nil, by decide⟩
  refine Grid.schema_eq_ok_iff.2 ⟨by decide, by decide, ?_, by decide, by decide⟩
  refine Grid.forest_eq_ok_iff.2 ⟨[([], schema.forest)], ?_, by decide⟩
  exact .cons (.reference (by decide) (by decide) (by decide) hcontent) .nil

end Hollow

/-- The column of `R` has the type `T`, which is neither basic nor a page: there is a reference to
`T` that nothing stands below. -/
theorem dataType_of_pages_hollow :
    ∃ compiled,
      (Compile.pages Hollow.grid.toGrid.source Twice.settings .null () #[]).1 = .ok compiled ∧
      compiled.pages.names = [.str "R"] ∧
      (compiled.pages.pages.flatMap (·.rows)).map (·.dataType) = ["T"] ∧
      (Value.str "T").isAmong Twice.vocabulary.dataTypes = false ∧
      compiled.schema.forest.RefersBare "T" := by
  obtain ⟨labels, h⟩ := Compile.exists_labels_of_schema Twice.vocabulary_settings
    Twice.rootOf_settings Hollow.schema_eq () #[]
  have hnames : (PageSet.plain "R" Hollow.schema.forest).names = [.str "R"] := by decide
  have htypes : ((PageSet.plain "R" Hollow.schema.forest).pages.flatMap (·.rows)).map
      (·.dataType) = ["T"] := by decide
  refine ⟨_, h, hnames, htypes, by decide, ?_⟩
  obtain ⟨vocabulary, hvocabulary, hcolumns⟩ := dataType_of_pages h
  rw [Twice.vocabulary_settings, Except.ok.injEq] at hvocabulary
  subst hvocabulary
  obtain ⟨page, hpage, column, hcolumn, htype⟩ :
      ∃ page ∈ (PageSet.plain "R" Hollow.schema.forest).pages, ∃ column ∈ page.rows,
        column.dataType = "T" := by decide
  rcases hcolumns page hpage column hcolumn with hempty | hbasic | ⟨name, hname, hnamed⟩ | hbare
  · exact absurd (htype.symm.trans hempty) (by decide)
  · exact absurd (htype ▸ hbasic) (by decide)
  · rw [hnames, List.mem_singleton] at hname
    exact absurd (htype.symm.trans (hname ▸ hnamed)) (by decide)
  · obtain ⟨sheet, _, hsheet, hbare⟩ := hbare
    rw [htype] at hsheet
    cases hsheet
    exact hbare

namespace TextRow

variable {dataTypes : List Cell} {isRoot : Bool} {row : TextRow} {target : String}

/-- A row that refers to a sheet describes a field, whose column has the sheet as its type. -/
theorem column_of_target? (h : row.target? dataTypes isRoot = some target) :
    row.IsField isRoot ∧ (row.column dataTypes isRoot).2.1 = .str target ∧
      target ≠ "" ∧ .str target ∉ dataTypes := by
  unfold target? at h
  unfold column
  by_cases hnotes : row.RefersByNotes dataTypes isRoot
  · rw [if_pos hnotes, Option.some.injEq] at h
    subst h
    rw [if_pos hnotes]
    exact ⟨isField_of_refersByNotes hnotes, rfl, hnotes.2.2.2.1, hnotes.2.2.2.2⟩
  · rw [if_neg hnotes] at h
    rw [if_neg hnotes]
    split at h
    next htype =>
      obtain ⟨hne, hbasic, hfield⟩ := htype
      rw [Option.some.injEq] at h
      subst h
      exact ⟨hfield.imp_right fun ⟨hroot, hpath⟩ => ⟨hroot, hpath, hne⟩, rfl, hne, hbasic⟩
    · contradiction

end TextRow

namespace TextGrid

variable {grid : TextGrid} {vocabulary : Vocabulary} {root : String} {schema : Schema}

section Schema

variable (h : grid.toGrid.schema vocabulary root = .ok schema)
include h

/-- No way leads back to the root sheet. -/
theorem ne_root_of_reachable {sheet : String}
    (hreach : TransGen (grid.Refers vocabulary root) root sheet) : sheet ≠ root := by
  obtain ⟨⟨node, children⟩, hbranch, ht⟩ := (names_schema_iff h).2 hreach
  obtain ⟨name, chain, hname, hpre, hchain, _⟩ :=
    (Grid.wellTyped_forest (Grid.schema_eq_ok_iff.1 h).2.2.1).of_reference hbranch ht
  cases hname
  rintro rfl
  exact hchain (hpre.subset (List.mem_singleton_self _))

/-- A bare reference names a sheet that can be reached and has no content. -/
theorem not_hasContent_of_refersBare {sheet : String} (hbare : schema.forest.RefersBare sheet) :
    TransGen (grid.Refers vocabulary root) root sheet ∧
      ¬grid.HasContent vocabulary.layout sheet := by
  obtain ⟨node, ht, hbranch⟩ := hbare
  refine ⟨(names_schema_iff h).1 ⟨_, hbranch, ht⟩, fun hcontent => ?_⟩
  obtain ⟨chain, request, hsheet, hchildren⟩ :=
    Grid.exists_content_of_reference (Grid.schema_eq_ok_iff.1 h).2.2.1 hbranch ht
  cases hsheet
  exact (content_ne_nil_iff hchildren).2 hcontent rfl

/-- A sheet that refers to another has a page, with a column that names the other sheet. -/
theorem exists_column_of_refers {sheet target : String}
    (hsheet : sheet = root ∨ TransGen (grid.Refers vocabulary root) root sheet)
    (hrefers : grid.Refers vocabulary root sheet target) :
    ¬vocabulary.Basic (.str target) ∧ ∃ page ∈ (PageSet.plain root schema.forest).pages,
      ∃ column ∈ page.rows, column.dataType = .str target := by
  obtain ⟨number, hnumber, htarget⟩ := hrefers
  have hrow := grid.mem_dataRows.2 ⟨number, hnumber, rfl⟩
  obtain ⟨hfield, htype, hne, hbasic⟩ := TextRow.column_of_target? htarget
  have hname : Cell.str sheet ∈ (PageSet.plain root schema.forest).names := by
    refine mem_names_plain.2 ⟨sheet, rfl, ?_⟩
    refine hsheet.imp_right fun hreach => (mem_expansions_iff h).2 ⟨hreach, number, ?_, .inr ?_⟩
    · rwa [decide_eq_false (ne_root_of_reachable h hreach)] at hnumber
    · rw [decide_eq_false (ne_root_of_reachable h hreach)] at hfield
      simpa [TextRow.IsField] using hfield
  obtain ⟨page, hpage, hpagename⟩ := List.mem_map.1 hname
  obtain ⟨other, hother, hperm⟩ := columns_plain h hpage
  rw [hpagename] at hother
  cases hother
  have hcolumn : (grid.row vocabulary.layout sheet number).column vocabulary.dataTypes
      (decide (sheet = root)) ∈ page.rows.map Column.signature := by
    refine hperm.mem_iff.2 (List.mem_append_left _ (List.mem_map_of_mem ?_))
    exact List.mem_filter.2 ⟨hrow, decide_eq_true hfield⟩
  obtain ⟨column, hmem, hsignature⟩ := List.mem_map.1 hcolumn
  refine ⟨?_, page, hpage, column, hmem, ?_⟩
  · rintro (hempty | hamong)
    · exact hne (by simpa using hempty)
    · exact hbasic (Value.isAmong_str.1 hamong)
  · rw [← htype, ← hsignature]
    rfl

/-- If a sheet that can be reached has no content, the column of a reference to it names no page. -/
theorem hasContent_of_resolved
    (hresolved : (PageSet.plain root schema.forest).Resolved vocabulary.Basic) {sheet : String}
    (hreach : TransGen (grid.Refers vocabulary root) root sheet) :
    grid.HasContent vocabulary.layout sheet := by
  obtain ⟨last, hlast, hrefers⟩ := TransGen.tail'_iff.1 hreach
  obtain ⟨hbasic, page, hpage, column, hcolumn, htype⟩ :=
    exists_column_of_refers h ((reflTransGen_iff_eq_or_transGen.1 hlast)) hrefers
  rcases hresolved page hpage column hcolumn with hknown | ⟨name, hname, hnamed⟩
  · exact absurd (htype ▸ hknown) hbasic
  · obtain ⟨other, rfl, hpages⟩ := mem_names_plain.1 hname
    rw [htype] at hnamed
    cases hnamed
    rcases hpages with rfl | hpages
    · exact absurd rfl (ne_root_of_reachable h hreach)
    · exact ((mem_expansions_iff h).1 hpages).2

end Schema

end TextGrid

/-- Over a grid of texts, every type is empty, basic or the name of a page if and only if every
sheet that can be reached from the root sheet has content. -/
theorem resolved_iff_hasContent {σ : Type} {grid : TextGrid} {settings : Settings} {asked : Value}
    {state : σ} {journal : Journal} {compiled : CompiledPages}
    (h : (Compile.pages grid.toGrid.source settings asked state journal).1 = .ok compiled) :
    ∃ vocabulary root, Compile.vocabulary settings = .ok vocabulary ∧
      Compile.rootOf settings asked = .str root ∧
      (compiled.pages.Resolved vocabulary.Basic ↔
        ∀ sheet, TransGen (grid.Refers vocabulary root) root sheet →
          grid.HasContent vocabulary.layout sheet) := by
  obtain ⟨vocabulary, root, schema, before, after, hvocabulary, hroot, hbuild, hpages⟩ :=
    Compile.exists_schema_of_pages h
  obtain ⟨_, hresolved⟩ := resolved_of_build hbuild hpages
  rw [build_grid] at hbuild
  obtain ⟨labels, hlabels⟩ :=
    Compile.exists_labels_of_pagesOf (Grid.project_schema hbuild) after
  rw [hlabels, Except.ok.injEq] at hpages
  subst hpages
  refine ⟨vocabulary, root, hvocabulary, hroot, fun hbasic sheet => ?_, fun hcontent => ?_⟩
  · exact TextGrid.hasContent_of_resolved hbuild hbasic
  · refine hresolved.mono fun dataType => Or.imp_left ?_
    rintro (hbasic | ⟨sheet, _, _, hbare⟩)
    · exact hbasic
    · obtain ⟨hreach, hempty⟩ := TextGrid.not_hasContent_of_refersBare hbuild hbare
      exact absurd (hcontent sheet hreach) hempty

end SheetSchema
