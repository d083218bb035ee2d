import Mathlib.Logic.Relation
import SheetSchema.Proofs.References.TextGrid

/-! When building over a grid of texts succeeds: exactly if every sheet that can be reached by
references exists and reaches its first data row, and no reachable sheet refers back to itself.
The builder never looks at the graph of references; it follows them with the chain of sheets that
are being read, and `Clear` says what such a chain has to stand for. -/
namespace SheetSchema

open Relation

section Graph

variable {α : Type} (refers : α → α → Prop) (sound : α → Prop)

/-- All vertices that can be reached are sound and off the chain, and none is on a cycle. -/
def Clear (chain : List α) (a : α) : Prop :=
  (∀ b, ReflTransGen refers a b → b ∉ chain ∧ sound b) ∧
    ∀ b, ReflTransGen refers a b → ¬TransGen refers b b

variable {refers sound} {chain : List α} {a : α}

/-- What it means that all successors are clear of the chain and of the vertex itself. -/
theorem forall_clear_iff :
    (∀ b, refers a b → Clear refers sound (chain ++ [a]) b) ↔
      (∀ b, TransGen refers a b → b ∉ chain ∧ sound b) ∧
        ∀ b, ReflTransGen refers a b → ¬TransGen refers b b := by
  constructor
  · intro h
    constructor
    · intro b hab
      obtain ⟨c, hac, hcb⟩ := TransGen.head'_iff.1 hab
      obtain ⟨hb, hsound⟩ := (h c hac).1 b hcb
      exact ⟨fun hmem => hb (by simp [hmem]), hsound⟩
    · intro b hab hcycle
      rcases ReflTransGen.cases_head hab with rfl | ⟨c, hac, hcb⟩
      · obtain ⟨c, hac, hca⟩ := TransGen.head'_iff.1 hcycle
        exact ((h c hac).1 a hca).1 (by simp)
      · exact (h c hac).2 b hcb hcycle
  · rintro ⟨hsound, hacyclic⟩ b hab
    constructor
    · intro c hbc
      have hac : TransGen refers a c := TransGen.head' hab hbc
      obtain ⟨hc, hs⟩ := hsound c hac
      have hca : c ≠ a := by
        rintro rfl
        exact hacyclic c .refl hac
      exact ⟨by simp [hc, hca], hs⟩
    · intro c hbc
      exact hacyclic c (hbc.head hab)

/-- One step of a walk that keeps the chain of its vertices. -/
theorem clear_iff :
    Clear refers sound chain a ↔
      a ∉ chain ∧ sound a ∧ ∀ b, refers a b → Clear refers sound (chain ++ [a]) b := by
  rw [forall_clear_iff, Clear]
  constructor
  · rintro ⟨hsound, hacyclic⟩
    exact ⟨(hsound a .refl).1, (hsound a .refl).2, fun b hb => hsound b hb.to_reflTransGen,
      hacyclic⟩
  · rintro ⟨ha, hs, hsound, hacyclic⟩
    refine ⟨fun b hb => ?_, hacyclic⟩
    rcases reflTransGen_iff_eq_or_transGen.1 hb with rfl | hb
    · exact ⟨ha, hs⟩
    · exact hsound b hb

end Graph

theorem Row.exists_entered_iff {vocabulary : Vocabulary} {scope : Scope}
    {built : Request → Forest Node → Prop} {row : Row} :
    (∃ entry, row.Entered vocabulary scope built entry) ↔
      row.hasMeaning vocabulary scope = true ∧
        ∀ request, row.request? vocabulary scope = some request →
          ∃ children, built request children := by
  constructor
  · rintro ⟨entry, h⟩
    cases h with
    | bare meaning bare =>
      exact ⟨meaning, fun request hr => by simp [request?_of_node?_eq_none bare] at hr⟩
    | field meaning field closed => exact ⟨meaning, fun request hr => by simp [closed] at hr⟩
    | @reference node request children meaning field requested content =>
      refine ⟨meaning, fun other hr => ?_⟩
      rw [requested] at hr
      cases hr
      exact ⟨children, content⟩
  · rintro ⟨meaning, h⟩
    cases hn : row.node? vocabulary scope with
    | none => exact ⟨_, .bare meaning hn⟩
    | some node =>
      cases hr : row.request? vocabulary scope with
      | none => exact ⟨_, .field meaning hn hr⟩
      | some request =>
        obtain ⟨children, hc⟩ := h request hr
        exact ⟨_, .reference meaning hn hr hc⟩

namespace TextGrid

variable {grid : TextGrid} {vocabulary : Vocabulary} {root : String}

/-- A sheet that a reference can open. -/
def Opens (grid : TextGrid) (vocabulary : Vocabulary) (sheet : String) : Prop :=
  sheet ∈ grid.sheets ∧ vocabulary.layout.referenceFirstRow ≤ grid.rowExtent sheet

/-- What the rows of a sheet request are the sheets that it refers to. -/
theorem refers_iff_exists_request {scope : Scope}
    (hroot : scope.isRoot = decide (scope.sheet = root)) {target : String} :
    grid.Refers vocabulary root scope.sheet target ↔
      ∃ row ∈ grid.toGrid.dataRows vocabulary scope.isRoot scope.sheet, ∃ request,
        row.request? vocabulary scope = some request ∧ request.sheet = target := by
  have htarget (row : TextRow) (number : Int) :
      row.target? vocabulary.dataTypes (decide (scope.sheet = root)) = some target ↔
        ∃ request, (row.toRow number).request? vocabulary scope = some request ∧
          request.sheet = target := by
    rw [← hroot, ← row.request?_toRow vocabulary scope number, Option.map_eq_some_iff]
  rw [dataRows_toGrid, hroot]
  simp only [Refers, RefersAt, List.mem_map, Int.mem_range_iff, Int.lt_add_one_iff]
  constructor
  · rintro ⟨number, hnumber, ht⟩
    exact ⟨_, ⟨number, hnumber, rfl⟩, (htarget _ number).1 ht⟩
  · rintro ⟨_, ⟨number, hnumber, rfl⟩, ht⟩
    exact ⟨number, hnumber, (htarget _ number).2 ht⟩

/-- All rows of a sheet have a meaning and hand texts over, in a scope that does. -/
theorem meaning_of_mem_dataRows {scope : Scope} (htext : scope.HandsText) {row : Row}
    (h : row ∈ grid.toGrid.dataRows vocabulary scope.isRoot scope.sheet) :
    row.hasMeaning vocabulary scope = true ∧
      ∀ request, row.request? vocabulary scope = some request → request.scope.HandsText := by
  rw [dataRows_toGrid] at h
  obtain ⟨number, _, rfl⟩ := List.mem_map.1 h
  exact ⟨TextRow.hasMeaning_toRow _ number htext,
    fun request hr => TextRow.handsText_request _ number htext hr⟩

/-- The forest of a sheet is built if that of every sheet that it refers to is. -/
theorem exists_forest_iff {content : Request → Except BuildError (Forest Node)} {scope : Scope}
    {built : String → Prop} (htext : scope.HandsText)
    (hroot : scope.isRoot = decide (scope.sheet = root))
    (h : ∀ request, request.scope.HandsText →
      ((∃ children, content request = .ok children) ↔ built request.sheet)) :
    (∃ forest, grid.toGrid.forest vocabulary content scope = .ok forest) ↔
      ∀ target, grid.Refers vocabulary root scope.sheet target → built target := by
  have hentries : (∃ forest, grid.toGrid.forest vocabulary content scope = .ok forest) ↔
      ∀ row ∈ grid.toGrid.dataRows vocabulary scope.isRoot scope.sheet, ∃ entry,
        row.Entered vocabulary scope (fun request children => content request = .ok children)
          entry := by
    rw [← exists_forall₂_iff]
    constructor
    · rintro ⟨forest, hf⟩
      obtain ⟨entries, hentries, _⟩ := Grid.forest_eq_ok_iff.1 hf
      exact ⟨entries, hentries⟩
    · rintro ⟨entries, hentries⟩
      exact ⟨_, Grid.forest_eq_ok_iff.2 ⟨entries, hentries, rfl⟩⟩
  rw [hentries]
  constructor
  · intro hall target ht
    obtain ⟨row, hrow, request, hr, rfl⟩ := (refers_iff_exists_request hroot).1 ht
    have hchildren := (Row.exists_entered_iff.1 (hall row hrow)).2 request hr
    exact (h request ((meaning_of_mem_dataRows htext hrow).2 request hr)).1 hchildren
  · intro hall row hrow
    obtain ⟨hmeaning, hhands⟩ := meaning_of_mem_dataRows htext hrow
    refine Row.exists_entered_iff.2 ⟨hmeaning, fun request hr => ?_⟩
    exact (h request (hhands request hr)).2
      (hall _ ((refers_iff_exists_request hroot).2 ⟨row, hrow, request, hr, rfl⟩))

/-- The content of a request is built if its sheet is clear of the chain. -/
theorem exists_content_iff {chain : List String} {request : Request}
    (htext : request.scope.HandsText) (hroot : root ∈ chain) :
    (∃ forest, grid.toGrid.content vocabulary chain request = .ok forest) ↔
      Clear (grid.Refers vocabulary root) (grid.Opens vocabulary) chain request.sheet := by
  rw [clear_iff]
  simp only [Grid.content_eq_ok_iff, exists_and_left]
  refine and_congr_right fun hc => ?_
  rw [Opens, and_assoc]
  refine and_congr_right fun hs => and_congr_right fun _ => ?_
  have hne : request.sheet ≠ root := by
    rintro rfl
    exact hc hroot
  refine exists_forest_iff htext (by simp [Request.scope, hne]) fun inner hinner => ?_
  exact exists_content_iff hinner (List.mem_append_left _ hroot)
termination_by (Build.unopened (grid.toGrid.source : Source Unit) chain).length
decreasing_by exact Build.length_unopened_lt _ hs hc

end TextGrid

/-- Building over a grid of texts succeeds if and only if the root sheet exists and reaches its
first data row, so does every sheet that references lead to from there, and none of these sheets
is led back to itself. -/
theorem build_succeeds_iff {σ : Type} (grid : TextGrid) (vocabulary : Vocabulary) (root : String)
    (state : σ) (journal : Journal) :
    (∃ schema, (build grid.toGrid.source vocabulary root state journal).1 = .ok schema) ↔
      (root ∈ grid.sheets ∧ vocabulary.layout.rootFirstRow ≤ grid.rowExtent root) ∧
      (∀ sheet, TransGen (grid.Refers vocabulary root) root sheet →
        sheet ∈ grid.sheets ∧ vocabulary.layout.referenceFirstRow ≤ grid.rowExtent sheet) ∧
      ∀ sheet, ReflTransGen (grid.Refers vocabulary root) root sheet →
        ¬TransGen (grid.Refers vocabulary root) sheet sheet := by
  have hforest : (∃ forest, grid.toGrid.forest vocabulary (grid.toGrid.content vocabulary [root])
      (rootScope root) = .ok forest) ↔
      ∀ target, grid.Refers vocabulary root root target →
        Clear (grid.Refers vocabulary root) (grid.Opens vocabulary) [root] target :=
    TextGrid.exists_forest_iff rfl (by simp [rootScope]) fun request hrequest =>
      TextGrid.exists_content_iff hrequest (by simp)
  have hclear := @forall_clear_iff _ (grid.Refers vocabulary root) (grid.Opens vocabulary) [] root
  simp only [List.nil_append, List.not_mem_nil, not_false_eq_true, true_and] at hclear
  simp only [build_grid]
  rw [and_assoc]
  constructor
  · rintro ⟨schema, h⟩
    obtain ⟨hs, he, hf, _, _⟩ := Grid.schema_eq_ok_iff.1 h
    exact ⟨hs, he, hclear.1 (hforest.1 ⟨schema.forest, hf⟩)⟩
  · rintro ⟨hs, he, h⟩
    obtain ⟨forest, hf⟩ := hforest.2 (hclear.2 h)
    exact ⟨{ forest, description := _, version := _ },
      Grid.schema_eq_ok_iff.2 ⟨hs, he, hf, rfl, rfl⟩⟩

namespace Diamond

section References

variable (second last : String)

theorem refers_first : (grid second last).Refers Twice.vocabulary "R" "R" "S" :=
  ⟨4, (by decide : (4 : Int) ≤ 4 ∧ (4 : Int) ≤ 5), rfl⟩

theorem refers_middle : (grid second last).Refers Twice.vocabulary "R" "S" "T" :=
  ⟨2, (by decide : (2 : Int) ≤ 2 ∧ (2 : Int) ≤ 2), rfl⟩

theorem reaches_last : TransGen ((grid second last).Refers Twice.vocabulary "R") "R" "T" :=
  .tail (.single (refers_first second last)) (refers_middle second last)

end References

/-- The references of the grid whose root sheet refers to `T` as well, so that there are two ways to
`T`. -/
theorem mem_of_refers {sheet target : String}
    (h : (grid "T" "int").Refers Twice.vocabulary "R" sheet target) :
    (sheet, target) ∈ [("R", "S"), ("R", "T"), ("S", "T")] := by
  obtain ⟨number, hnumber, htarget⟩ := h
  by_cases hroot : sheet = "R"
  · subst hroot
    have hbounds : 4 ≤ number ∧ number ≤ 5 := hnumber
    obtain rfl | rfl : number = 4 ∨ number = 5 := by omega
    · obtain rfl : "S" = target := Option.some.inj htarget
      decide
    · obtain rfl : "T" = target := Option.some.inj htarget
      decide
  · by_cases hsheet : sheet = "S"
    · subst hsheet
      obtain rfl : "T" = target := Option.some.inj htarget
      decide
    · -- every other sheet has the field of `T`, of a basic type
      simp [TextRow.target?, TextRow.RefersByNotes, TextGrid.row, grid, hroot, hsheet,
        Twice.vocabulary] at htarget

/-- The place of a sheet on the way down. -/
def rank (sheet : String) : ℕ := ["R", "S", "T"].idxOf sheet

/-- No reference leads back. -/
theorem rank_lt_of_transGen {sheet target : String}
    (h : TransGen ((grid "T" "int").Refers Twice.vocabulary "R") sheet target) :
    rank sheet < rank target := by
  have hedges : ∀ edge ∈ [("R", "S"), ("R", "T"), ("S", "T")], rank edge.1 < rank edge.2 := by
    decide
  induction h with
  | single hrefers => exact hedges _ (mem_of_refers hrefers)
  | tail _ hrefers ih => exact ih.trans (hedges _ (mem_of_refers hrefers))

end Diamond

/-- Two ways to one sheet are no obstacle. A reference to a missing sheet is one wherever it stands,
and so is a way that leads back to a sheet, be it not to the root. -/
theorem build_succeeds_iff_diamond :
    let succeeds (grid : TextGrid) : Prop := ∃ schema,
      (build grid.toGrid.source Twice.vocabulary "R" () #[]).1 = .ok schema
    succeeds (Diamond.grid "T" "int") ∧ ¬succeeds (Diamond.grid "T" "U") ∧
      ¬succeeds (Diamond.grid "T" "S") := by
  intro succeeds
  refine ⟨(build_succeeds_iff ..).2 ⟨by decide, fun sheet hsheet => ?_, fun sheet _ hcycle => ?_⟩,
    fun hsucceeds => ?_, fun hsucceeds => ?_⟩
  · obtain ⟨before, -, hrefers⟩ := TransGen.tail'_iff.1 hsheet
    have hsheets : ∀ edge ∈ [("R", "S"), ("R", "T"), ("S", "T")],
        edge.2 ∈ ["R", "S", "T"] ∧ (2 : Int) ≤ (Diamond.grid "T" "int").rowExtent edge.2 := by
      decide
    exact hsheets _ (Diamond.mem_of_refers hrefers)
  · exact Nat.lt_irrefl _ (Diamond.rank_lt_of_transGen hcycle)
  · obtain ⟨-, hsound, -⟩ := (build_succeeds_iff ..).1 hsucceeds
    have hmissing : (Diamond.grid "T" "U").Refers Twice.vocabulary "R" "T" "U" :=
      ⟨2, by decide, rfl⟩
    exact absurd (hsound "U" ((Diamond.reaches_last "T" "U").tail hmissing)).1 (by decide)
  · obtain ⟨-, -, hacyclic⟩ := (build_succeeds_iff ..).1 hsucceeds
    have hback : (Diamond.grid "T" "S").Refers Twice.vocabulary "R" "T" "S" := ⟨2, by decide, rfl⟩
    exact hacyclic "T" (Diamond.reaches_last "T" "S").to_reflTransGen
      (.tail (.single hback) (Diamond.refers_middle "T" "S"))

end SheetSchema
