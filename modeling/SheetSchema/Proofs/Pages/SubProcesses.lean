import SheetSchema.Proofs.Building.Agreement
import SheetSchema.Proofs.Pages.SkippedContent
import SheetSchema.Proofs.Trees.Descriptions

/-! How far sub-processes reach. Two compilations that know different ones fail with the same error,
or their trees differ in descriptions alone, and only in those that are made by a pattern; these
reach no name, type or label on the pages. -/
namespace SheetSchema

/-- The names of the pages, with the tags, types and labels of their columns. -/
def PageSet.signatures (pages : PageSet) : List (Cell × List (Value × Value × Value)) :=
  pages.pages.map fun page => (page.name, page.rows.map Column.signature)

section Pages

variable {sheets : List String} {dataTypes : List Cell} {chain chain' : List String}
  {sheet root : String} {forest other : Forest Node}

/-- Descriptions of fields do not reach the plain pages of a well-typed forest, but for the
columns. -/
theorem signatures_plain_map (htyped : forest.WellTyped sheets dataTypes chain sheet)
    (root : String) :
    (PageSet.plain root (forest.map Node.plain)).signatures =
      (PageSet.plain root forest).signatures := by
  simp only [PageSet.plain, PageSet.signatures, List.map_cons, List.map_map, expansions_map_plain,
    firsts_map, Page.ofForest, signatures_map_plain htyped]
  congr 1
  refine List.map_congr_left fun expansion hmem => ?_
  obtain ⟨_, node, ht, hbranch⟩ := Forest.mem_expansions.1 (mem_of_mem_firsts hmem)
  obtain ⟨_, _, _, _, _, _, hchildren⟩ := htyped.of_reference hbranch ht
  simp only [Function.comp_apply, signatures_map_plain hchildren]

theorem signatures_plain_congr (htyped : forest.WellTyped sheets dataTypes chain sheet)
    (htyped' : other.WellTyped sheets dataTypes chain' sheet) (h : forest.Alike other) :
    (PageSet.plain root forest).signatures = (PageSet.plain root other).signatures := by
  rw [← signatures_plain_map htyped, h, signatures_plain_map htyped']

end Pages

/-- The tree of a grid depends on what a vocabulary knows of types and places alone. -/
theorem TextGrid.tree_congr {vocabulary other : Vocabulary} (hv : vocabulary.Alike other)
    (grid : TextGrid) (describe : List TextRow → TextRow → String) (chain : List String)
    (isRoot : Bool) (above : List TextRow) (sheet : String) :
    grid.tree vocabulary describe chain isRoot above sheet =
      grid.tree other describe chain isRoot above sheet := by
  rw [tree, tree, ← hv.layout, ← hv.dataTypes]
  congr 2
  funext row
  congr 1
  funext above target
  by_cases hc : target ∈ chain
  · rw [dif_pos hc, dif_pos hc]
  · by_cases hs : target ∈ grid.sheets
    · rw [dif_neg hc, dif_neg hc, dif_pos hs, dif_pos hs]
      exact tree_congr hv grid describe (chain ++ [target]) false above target
    · rw [dif_neg hc, dif_neg hc, dif_neg hs, dif_neg hs]
termination_by (Build.unopened (grid.toGrid.source : Source Unit) chain).length
decreasing_by exact Build.length_unopened_lt (grid.toGrid.source : Source Unit) hs hc

/-- Without a pattern the sub-processes are not asked for. -/
theorem TextRow.describe_congr {vocabulary other : Vocabulary} (hv : vocabulary.Alike other)
    {above : List TextRow} (habove : patternOf above = "") (row : TextRow) :
    describe vocabulary above row = describe other above row := by
  rw [describe, describe, habove, hv.dataTypes]
  rfl

/-- The sources with fixed texts: a grid of texts in any state, and a workbook, which shows its
texts whatever has been looked at before. -/
inductive Shows : {σ : Type} → Source σ → σ → TextGrid → Prop
  | grid {σ : Type} (grid : TextGrid) (state : σ) : Shows grid.toGrid.source state grid
  | workbook (sheets : List String) (book : OpenWorkbook) :
      Shows (OpenWorkbook.source sheets) book (book.snapshot sheets)

namespace Shows

variable {σ : Type} {source : Source σ} {state : σ} {grid : TextGrid} (h : Shows source state grid)
include h

theorem showsTexts : source.ShowsTexts := by
  cases h with
  | grid grid state => exact grid.showsTexts
  | workbook sheets book => exact OpenWorkbook.showsTexts sheets

theorem builtOver {vocabulary : Vocabulary} {root : String} {journal : Journal} {schema : Schema}
    (success : (build source vocabulary root state journal).1 = .ok schema) :
    BuiltOver vocabulary root schema grid := by
  cases h with
  | grid grid state => exact .grid grid state journal success
  | workbook sheets book => exact .workbook sheets book journal success

end Shows

/-- Two schemas that are built with different sub-processes are compiled to pages with the same
names and columns, in the same order, but for the descriptions. -/
theorem exists_compiled_alike {vocabulary other : Vocabulary} (hv : vocabulary.Alike other)
    {root : String} {schema schema' : Schema} {grid : TextGrid}
    (h : BuiltOver vocabulary root schema grid) (h' : BuiltOver other root schema' grid)
    (halike : schema.Alike schema') (before after : Journal) :
    ∃ compiled compiled', (Compile.pagesOf root schema before).1 = .ok compiled ∧
      (Compile.pagesOf root schema' after).1 = .ok compiled' ∧
      compiled.pages.signatures = compiled'.pages.signatures := by
  obtain ⟨labels, hpages⟩ :=
    Compile.exists_labels_of_pagesOf (Grid.project_schema h.schema_eq) before
  obtain ⟨labels', hpages'⟩ :=
    Compile.exists_labels_of_pagesOf (Grid.project_schema h'.schema_eq) after
  have htyped := Grid.wellTyped_forest (Grid.schema_eq_ok_iff.1 h.schema_eq).2.2.1
  have htyped' := Grid.wellTyped_forest (Grid.schema_eq_ok_iff.1 h'.schema_eq).2.2.1
  rw [← hv.dataTypes] at htyped'
  exact ⟨_, _, hpages, hpages', signatures_plain_congr htyped htyped' halike.forest⟩

/-- Sub-processes reach descriptions only. Over a source with fixed texts, two builds that know
different ones fail with the same error or both succeed, with the same description and version and
with trees that agree in all but descriptions. A description may only differ where the last of the
rows whose types lead to its sheet has a pattern in its notes. And the pages that the trees are
flattened onto agree in their names and order and in the tag, type and labels of every column. -/
theorem build_agrees {σ : Type} {source : Source σ} {state : σ} {grid : TextGrid}
    (h : Shows source state grid) {vocabulary other : Vocabulary} (hv : vocabulary.Alike other)
    (root : String) (journal journal' : Journal) :
    SameOutcome
      (fun schema schema' => schema.Alike schema' ∧
        (schema.forest = grid.tree vocabulary (TextRow.describe vocabulary) [root] true [] root ∧
          schema'.forest = grid.tree vocabulary (TextRow.describe other) [root] true [] root ∧
          ∀ above row, TextRow.patternOf above = "" →
            TextRow.describe vocabulary above row = TextRow.describe other above row) ∧
        ∀ before after, ∃ compiled compiled',
          (Compile.pagesOf root schema before).1 = .ok compiled ∧
          (Compile.pagesOf root schema' after).1 = .ok compiled' ∧
          compiled.pages.signatures = compiled'.pages.signatures)
      (build source vocabulary root state journal).1
      (build source other root state journal').1 := by
  have hlevel : Build.Level { source := state, journal } { source := state, journal := journal' } :=
    ⟨rfl, rfl⟩
  refine (Build.schema_agree h.showsTexts hv root _ _ hlevel).1.imp
    fun schema schema' hbuild hbuild' halike => ?_
  have hbuilt := h.builtOver hbuild
  have hbuilt' := h.builtOver hbuild'
  have hforest := TextGrid.eq_tree_of_forest
    (Grid.schema_eq_ok_iff.1 hbuilt.schema_eq).2.2.1 (inherits_rootScope vocabulary root)
  have hforest' := TextGrid.eq_tree_of_forest
    (Grid.schema_eq_ok_iff.1 hbuilt'.schema_eq).2.2.1 (inherits_rootScope other root)
  rw [← TextGrid.tree_congr hv] at hforest'
  exact ⟨halike, ⟨hforest, hforest', fun _ row habove => TextRow.describe_congr hv habove row⟩,
    exists_compiled_alike hv hbuilt hbuilt' halike⟩

/-- Where nothing is a sub-process, the row of `R` hands over a pattern that is made without any. -/
theorem build_agrees_pattern :
    Shows (Pattern.grid.toGrid.source : Source Unit) () Pattern.grid ∧
      Pattern.vocabulary.Alike Twice.vocabulary ∧
      (∃ schema', (build Pattern.grid.toGrid.source Twice.vocabulary "R" ()).1 = .ok schema' ∧
        Pattern.schema.Alike schema' ∧
        schema'.forest = Pattern.grid.tree Pattern.vocabulary (TextRow.describe Twice.vocabulary)
          ["R"] true [] "R") ∧
      TextRow.describe Pattern.vocabulary [Pattern.first] Pattern.second = "PD:WC1:12n5$" ∧
      TextRow.describe Twice.vocabulary [Pattern.first] Pattern.second = "PD::12n5$" := by
  have hshows : Shows (Pattern.grid.toGrid.source : Source Unit) () Pattern.grid :=
    .grid Pattern.grid ()
  have hv : Pattern.vocabulary.Alike Twice.vocabulary := ⟨rfl, rfl⟩
  have hbuilt : (build (Pattern.grid.toGrid.source : Source Unit) Pattern.vocabulary "R" ()).1 =
      .ok Pattern.schema := (build_grid _ _ _ _ _).trans Pattern.schema_eq
  have houtcome := build_agrees hshows hv "R" #[] #[]
  rw [hbuilt] at houtcome
  obtain ⟨schema', hother, halike, ⟨_, htree, _⟩, _⟩ := houtcome.exists_ok
  exact ⟨hshows, hv, ⟨schema', hother, halike, htree⟩, by decide, by decide⟩

end SheetSchema
