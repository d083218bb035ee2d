import Mathlib.Logic.Equiv.Basic
import SheetSchema.Proofs.Building.RecalculatedSheets
import SheetSchema.Proofs.Pages.SkippedContent
import SheetSchema.Proofs.References.RowOrder

/-! Row order matters only for order. Whichever row comes first creates a group, refers to a sheet
first and so decides which content fills the page of the sheet; but what is built differs in the
order of siblings only, and the pages in their order and that of their rows. -/
namespace SheetSchema

open Forest PageSet

/-- Page sets with pages of the same names, on which the same tags, types and labels stand equally
often. -/
structure PageSet.Shuffled (pages other : PageSet) : Prop where
  names : pages.names.Perm other.names
  rows : ∀ page ∈ pages.pages, ∀ page' ∈ other.pages, page.name = page'.name →
    (page.rows.map Column.signature).Perm (page'.rows.map Column.signature)

namespace Forest.Shuffled

variable {forest other : Forest Node} {sheet : String}

theorem columns (h : forest.Shuffled other) (above : List Label) :
    (forest.columns above).Perm (other.columns above) := by
  refine h.perm (f := fun above forest => forest.columns above) columns_node ?_ above
  intro value children children' hshuffled hchildren above
  by_cases hgroup : value.type = .structural ∧ children ≠ .nil
  · have hgroup' : value.type = .structural ∧ children' ≠ .nil :=
      ⟨hgroup.1, mt hshuffled.eq_nil_iff.2 hgroup.2⟩
    simp only [tree, Forest.columns, if_pos hgroup, if_pos hgroup', List.append_nil]
    exact hchildren _
  · have hgroup' : ¬(value.type = .structural ∧ children' ≠ .nil) :=
      fun h => hgroup ⟨h.1, mt hshuffled.eq_nil_iff.1 h.2⟩
    rw [columns_tree_of_ne hgroup, columns_tree_of_ne hgroup']

theorem names (h : forest.Shuffled other) (hn : TextGrid.Names forest sheet) :
    TextGrid.Names other sheet := by
  obtain ⟨branch, hbranch, ht⟩ := hn
  obtain ⟨children, hmem, _⟩ := h.exists_branch hbranch
  exact ⟨(branch.1, children), hmem, ht⟩

theorem mem_expansions_names (h : forest.Shuffled other)
    (hmem : sheet ∈ forest.expansions.map (·.1)) : sheet ∈ other.expansions.map (·.1) := by
  obtain ⟨⟨_, children⟩, hexpansion, rfl⟩ := List.mem_map.1 hmem
  obtain ⟨hne, node, ht, hbranch⟩ := mem_expansions.1 hexpansion
  obtain ⟨children', hbranch', hshuffled⟩ := h.exists_branch hbranch
  exact List.mem_map.2
    ⟨_, mem_expansions.2 ⟨mt hshuffled.eq_nil_iff.2 hne, node, ht, hbranch'⟩, rfl⟩

end Forest.Shuffled

/-- The plain pages of shuffled forests that are built for a root sheet. -/
theorem Grid.plain_shuffled {grid grid' : Grid} {vocabulary : Vocabulary} {root : String}
    {schema schema' : Schema} (h : grid.schema vocabulary root = .ok schema)
    (h' : grid'.schema vocabulary root = .ok schema')
    (hshuffled : schema.forest.Shuffled schema'.forest) :
    (PageSet.plain root schema.forest).Shuffled (PageSet.plain root schema'.forest) := by
  have hroot : root ∈ [root] := List.mem_singleton_self root
  have hnodup := nodup_names_plain (wellTyped_forest (schema_eq_ok_iff.1 h).2.2.1) hroot
  have hnodup' := nodup_names_plain (wellTyped_forest (schema_eq_ok_iff.1 h').2.2.1) hroot
  constructor
  · refine (List.perm_ext_iff_of_nodup hnodup hnodup').2 fun name => ?_
    rw [mem_names_plain, mem_names_plain]
    have hnames (sheet : String) : sheet ∈ schema.forest.expansions.map (·.1) ↔
        sheet ∈ schema'.forest.expansions.map (·.1) :=
      ⟨hshuffled.mem_expansions_names, hshuffled.symm.mem_expansions_names⟩
    simp only [hnames]
  · intro page hpage page' hpage' hname
    obtain ⟨sheet, hsheet, hcases⟩ := mem_names_plain.1 (List.mem_map_of_mem hpage)
    rw [← rowsOf_of_mem hnodup hpage hsheet, ← rowsOf_of_mem hnodup' hpage' (hname ▸ hsheet)]
    rcases hcases with rfl | hmem
    · rw [rowsOf_plain_self, rowsOf_plain_self]
      exact (hshuffled.columns []).map Column.signature
    · -- both pages tell what stands below a reference, in whichever place it comes first
      obtain ⟨⟨_, children⟩, hexpansion, rfl⟩ := List.mem_map.1 hmem
      obtain ⟨_, node, ht, hbranch⟩ := mem_expansions.1 hexpansion
      obtain ⟨children', hbranch', hchildren⟩ := hshuffled.exists_branch hbranch
      rw [signatures_rowsOf h hbranch ht, signatures_rowsOf h' hbranch' ht]
      exact (hchildren.columns []).map Column.signature

/-- Row order matters only for order. If the data rows of a sheet are rearranged, below both
metadata cells where it is the root sheet, building succeeds or fails as before. Where it succeeds,
the schemas differ at most in the order of siblings, the same sheets are recalculated, and the
pages that are compiled have the same names and, each of them, the same tags, types and labels. -/
theorem build_rearrange {σ : Type} (grid : TextGrid) (vocabulary : Vocabulary)
    (root sheet : String) (order : Equiv.Perm Int)
    (hmoved : ∀ number, order number ≠ number →
      vocabulary.layout.firstRow (sheet = root) ≤ number ∧ number ≤ grid.rowExtent sheet)
    (hcells : sheet = root →
      vocabulary.layout.descriptionCell.1 < vocabulary.layout.rootFirstRow ∧
        vocabulary.layout.versionCell.1 < vocabulary.layout.rootFirstRow)
    (state : σ) (journal : Journal) :
    let built := build grid.toGrid.source vocabulary root state journal
    let rebuilt := build (grid.rearrange sheet order).toGrid.source vocabulary root state journal
    ((∃ schema, built.1 = .ok schema) ↔ ∃ schema, rebuilt.1 = .ok schema) ∧
    ∀ schema schema', built.1 = .ok schema → rebuilt.1 = .ok schema' →
      schema.Shuffled schema' ∧
      (∀ name, name ∈ built.2.recalculated ↔ name ∈ rebuilt.2.recalculated) ∧
      ∀ journal journal' : Journal, ∃ compiled compiled',
        (Compile.pagesOf root schema journal).1 = .ok compiled ∧
        (Compile.pagesOf root schema' journal').1 = .ok compiled' ∧
        compiled.pages.Shuffled compiled'.pages := by
  intro built rebuilt
  have hrows := grid.sameRows_rearrange hmoved hcells
  have hbuilt : built.1 = grid.toGrid.schema vocabulary root := build_grid ..
  have hrebuilt : rebuilt.1 = (grid.rearrange sheet order).toGrid.schema vocabulary root :=
    build_grid ..
  constructor
  · rw [hbuilt, hrebuilt]
    constructor
    · rintro ⟨schema, hschema⟩
      exact (hrows.exists_schema hschema).imp fun _ h => h.1
    · rintro ⟨schema, hschema⟩
      exact (hrows.symm.exists_schema hschema).imp fun _ h => h.1
  · intro schema schema' hok hok'
    have hschema := hbuilt.symm.trans hok
    have hschema' := hrebuilt.symm.trans hok'
    obtain ⟨other, hother, hshuffled⟩ := hrows.exists_schema hschema
    rw [hschema', Except.ok.injEq] at hother
    subst hother
    refine ⟨hshuffled, fun name => ?_, fun journal journal' => ?_⟩
    · rw [mem_recalculated_of_build (Prod.ext hok rfl),
        mem_recalculated_of_build (Prod.ext hok' rfl)]
      exact or_congr_right ⟨hshuffled.forest.names, hshuffled.forest.symm.names⟩
    · obtain ⟨_, hcompiled⟩ :=
        Compile.exists_labels_of_pagesOf (Grid.project_schema hschema) journal
      obtain ⟨_, hcompiled'⟩ :=
        Compile.exists_labels_of_pagesOf (Grid.project_schema hschema') journal'
      exact ⟨_, _, hcompiled, hcompiled', Grid.plain_shuffled hschema hschema' hshuffled.forest⟩

/-- The two references of `R` to `T` trade places. -/
theorem build_rearrange_twice :
    ∃ schema,
      (build (Twice.grid.rearrange "R" (Equiv.swap 4 5)).toGrid.source Twice.vocabulary "R" ()).1 =
        .ok schema ∧
      Twice.schema.Shuffled schema ∧
      ∃ compiled compiled',
        (Compile.pagesOf "R" Twice.schema #[]).1 = .ok compiled ∧
        (Compile.pagesOf "R" schema #[]).1 = .ok compiled' ∧
        compiled.pages.Shuffled compiled'.pages := by
  have hmoved (number : Int) (hmoves : Equiv.swap 4 5 number ≠ number) :
      Twice.vocabulary.layout.firstRow (("R" : String) = "R") ≤ number ∧
        number ≤ Twice.grid.rowExtent "R" := by
    have hcases : number = 4 ∨ number = 5 := by
      by_contra hout
      rw [not_or] at hout
      exact hmoves (Equiv.swap_apply_of_ne_of_ne hout.1 hout.2)
    rcases hcases with rfl | rfl <;> decide
  obtain ⟨hiff, hall⟩ := build_rearrange Twice.grid Twice.vocabulary "R" "R" (Equiv.swap 4 5)
    hmoved (by decide) () #[]
  have hok : (build Twice.grid.toGrid.source Twice.vocabulary "R" () #[]).1 = .ok Twice.schema :=
    (build_grid ..).trans Twice.schema_eq
  obtain ⟨schema, hschema⟩ := hiff.1 ⟨_, hok⟩
  obtain ⟨hshuffled, _, hpages⟩ := hall _ _ hok hschema
  exact ⟨schema, hschema, hshuffled, hpages #[] #[]⟩

end SheetSchema
