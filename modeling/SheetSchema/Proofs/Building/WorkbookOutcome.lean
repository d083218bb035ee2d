import SheetSchema.Proofs.Building.GridOutcome
import SheetSchema.Proofs.Building.Simulation
import SheetSchema.Proofs.Building.WorkbookSnapshot

/-! A build over a workbook goes on in step with one over a source that mirrors the workbook. Its
snapshot does, so every schema that is built is that of a grid. -/
namespace SheetSchema

namespace Build

open OpenWorkbook

variable {first : OpenWorkbook} {fixed : String → Prop} {chain sheets : List String}
  {Lost : AccessError → Prop} {mirror : Source Unit}

theorem run_look {σ : Type} (source : Source σ) (sheet : String) (row col : Int)
    (p : Progress σ) :
    (look source sheet row col).run p =
      ((source.shown sheet row col p.source).1.mapError .access,
        { p with source := (source.shown sheet row col p.source).2 }) := by
  have hget : (get : BuildM σ (Progress σ)).run p = (.ok p, p) := rfl
  unfold look
  rw [run_bind, hget]
  rcases h : source.shown sheet row col p.source with ⟨_ | _, state⟩
  · simp only [h]
    rfl
  · simp only [h]
    rfl

theorem run_rowExtent {σ : Type} (source : Source σ) (sheet : String) (p : Progress σ) :
    (rowExtent source sheet).run p =
      ((source.rowExtent sheet p.source).mapError .access, p) := by
  have hget : (get : BuildM σ (Progress σ)).run p = (.ok p, p) := rfl
  unfold rowExtent
  rw [run_bind, hget]
  rcases h : source.rowExtent sheet p.source with _ | extent
  · simp only [h]
    rfl
  · simp only [h]
    rfl

theorem run_recalculate {σ : Type} (source : Source σ) (sheet : String) (p : Progress σ) :
    (recalculate source sheet).run p =
      (.ok (), if sheet ∈ p.recalculated then p
        else { p with
          source := source.recalculate sheet p.source
          recalculated := p.recalculated ++ [sheet] }) := rfl

theorem recalculate_inStep (sheet : String) :
    InStep Lost (Follows first fixed chain) (Follows first fixed (chain ++ [sheet]))
      (recalculate (OpenWorkbook.source sheets) sheet) (recalculate mirror sheet) := by
  intro p q h
  refine .inr (.inr ⟨(), _, _, run_recalculate _ sheet p, run_recalculate _ sheet q, ?_⟩)
  by_cases hp : sheet ∈ p.recalculated
  · have hq : sheet ∈ q.recalculated := h.recalculated ▸ hp
    rw [if_pos hp, if_pos hq]
    refine ⟨h.computed, h.values, h.extent, h.recalculated, h.included, ?_⟩
    intro name hname
    rcases List.mem_append.1 hname with hname | hname
    · exact h.opened name hname
    · exact List.mem_singleton.1 hname ▸ hp
  · have hq : sheet ∉ q.recalculated := h.recalculated ▸ hp
    have hraw := raw_recalculate sheet p.source
    rw [if_neg hp, if_neg hq]
    refine ⟨?_, fun name => ?_, fun name hname => ?_, ?_, fun name hname => ?_,
      fun name hname => ?_⟩
    · exact (computed_recalculate sheet p.source).trans h.computed
    · exact (congrArg (fun raw : Workbook => (raw.sheet? name).map (·.values)) hraw).trans
        (h.values name)
    · exact (rowExtent_recalculate sheet name p.source).trans (h.extent name hname)
    · exact congrArg (· ++ [sheet]) h.recalculated
    · rcases List.mem_append.1 hname with hname | hname
      · exact subset_recalculate sheet p.source (h.included name hname)
      · exact List.mem_singleton.1 hname ▸ mem_recalculate sheet p.source
    · rcases List.mem_append.1 hname with hname | hname
      · exact List.mem_append_left _ (h.opened name hname)
      · exact List.mem_append_right _ hname

theorem report_inStep (event : Event) :
    InStep Lost (Follows first fixed chain) (Follows first fixed chain) (report event)
      (report event) :=
  InStep.report event fun _ _ h => ⟨h.computed, h.values, h.extent, h.recalculated, h.included,
    h.opened⟩

theorem suggestions_congr {σ τ : Type} {source : Source σ} {other : Source τ}
    (h : source.sheets = other.sheets) : suggestions source = suggestions other := by
  funext sheet
  rw [suggestions, suggestions, h]

/-- Over a source without a state, opening a sheet gives its last row. -/
theorem rowExtent_of_openSheet {source : Source Unit} {sheet : String} {firstRow extent : Int}
    (h : Yields (openSheet source sheet firstRow) extent) :
    source.rowExtent sheet () = .ok extent := by
  obtain ⟨last, ⟨p, hlast⟩, h⟩ := h.of_bind
  have hextent : extent = last := by
    by_cases hlt : last < firstRow
    · simp only [hlt, ↓reduceIte] at h
      obtain ⟨_, hrefused, _⟩ := h.of_bind
      exact absurd hrefused Yields.of_throw
    · simp only [hlt, ↓reduceIte] at h
      obtain ⟨_, _, h⟩ := h.of_bind
      exact h.of_pure
  rw [run_rowExtent] at hlast
  have hsource : source.rowExtent sheet p.source = source.rowExtent sheet () := rfl
  rw [hsource] at hlast
  rcases h : source.rowExtent sheet () with error | value
  · rw [h] at hlast
    contradiction
  · rw [h] at hlast
    cases hlast
    rw [hextent]

section Mirror

variable (hmirror : first.Mirrors sheets Lost mirror)
include hmirror

theorem look_inStep {sheet : String} (hsheet : sheet ∈ chain) {row : Int} (col : Int)
    (hrow : fixed sheet → first.Reaches sheet row) :
    InStep Lost (Follows first fixed chain) (Follows first fixed chain)
      (look (OpenWorkbook.source sheets) sheet row col) (look mirror sheet row col) := by
  intro p q h
  rw [run_look, run_look]
  have hafter := h.after_shown col hrow
  have hbook : ((OpenWorkbook.source sheets).shown sheet row col p.source).1 =
      (shown sheet row col (first.recalculate sheet)).1 := h.shown_eq hsheet row col
  rw [hbook]
  rcases hmirror.shown sheet row col with ⟨error, herror, hlost⟩ | hsame
  · rw [herror]
    exact .inl ⟨error, _, rfl, hlost⟩
  · have hsame : (mirror.shown sheet row col q.source).1 = _ := hsame
    rw [hsame]
    rcases (shown sheet row col (first.recalculate sheet)).1 with error | v
    · exact .inr (.inl ⟨.access error, _, _, rfl, rfl, h.recalculated⟩)
    · exact .inr (.inr ⟨v, _, _, rfl, rfl, hafter⟩)

theorem rowExtent_inStep {sheet : String} (hsheet : fixed sheet) :
    InStep Lost (Follows first fixed chain) (Follows first fixed chain)
      (rowExtent (OpenWorkbook.source sheets) sheet) (rowExtent mirror sheet) := by
  intro p q h
  rw [run_rowExtent, run_rowExtent]
  have hbook : (OpenWorkbook.source sheets).rowExtent sheet p.source = first.rowExtent sheet :=
    h.extent sheet hsheet
  rw [hbook]
  rcases hmirror.rowExtent sheet with ⟨error, herror, hlost⟩ | hsame
  · rw [herror]
    exact .inl ⟨error, _, rfl, hlost⟩
  · have hsame : mirror.rowExtent sheet q.source = _ := hsame
    rw [hsame]
    rcases first.rowExtent sheet with error | extent
    · exact .inr (.inl ⟨.access error, _, _, rfl, rfl, h.recalculated⟩)
    · exact .inr (.inr ⟨extent, _, _, rfl, rfl, h⟩)

theorem openSheet_inStep {sheet : String} (hsheet : fixed sheet) (firstRow : Int) :
    InStep Lost (Follows first fixed chain) (Follows first fixed (chain ++ [sheet]))
      (openSheet (OpenWorkbook.source sheets) sheet firstRow) (openSheet mirror sheet firstRow) := by
  refine (rowExtent_inStep hmirror hsheet).bind fun extent => ?_
  have hrest : InStep Lost (Follows first fixed chain) (Follows first fixed (chain ++ [sheet]))
      (recalculate (OpenWorkbook.source sheets) sheet >>= fun _ => Pure.pure extent)
      (recalculate mirror sheet >>= fun _ => Pure.pure extent) :=
    (recalculate_inStep sheet).bind fun _ => InStep.pure extent
  by_cases hlt : extent < firstRow
  · simp only [hlt, ↓reduceIte]
    exact (InStep.throw _ fun _ _ h => h.recalculated).bind fun _ => hrest
  · simp only [hlt, ↓reduceIte]
    exact hrest

/-- A row that is not below the last one of the mirror is not below that of the workbook. -/
theorem reaches_of_rowExtent {sheet : String} {row lastRow : Int}
    (hlast : mirror.rowExtent sheet () = .ok lastRow) (hrow : row ≤ lastRow) :
    first.Reaches sheet row := by
  intro extent hextent
  rcases hmirror.rowExtent sheet with ⟨error, herror, _⟩ | hsame
  · rw [hextent] at herror
    contradiction
  · rw [hlast, hextent] at hsame
    cases hsame
    exact hrow

variable (vocabulary : Vocabulary)

theorem readRow_inStep {sheet : String} (hsheet : sheet ∈ chain) {number : Int}
    (hrow : fixed sheet → first.Reaches sheet number) :
    InStep Lost (Follows first fixed chain) (Follows first fixed chain)
      (readRow (OpenWorkbook.source sheets) vocabulary sheet number)
      (readRow mirror vocabulary sheet number) := by
  have hlook (col : Int) := look_inStep hmirror hsheet col hrow
  refine (InStep.mapM _ fun column _ => hlook _).bind fun hierarchy => ?_
  refine (hlook _).bind fun name => (hlook _).bind fun type => ?_
  exact (hlook _).bind fun notes => InStep.pure _

section Rows

variable {resolve : Request → BuildM OpenWorkbook (Forest Node)}
  {resolve' : Request → BuildM Unit (Forest Node)}

theorem readEntry_inStep {scope : Scope} (hsheet : scope.sheet ∈ chain) {number : Int}
    (hrow : fixed scope.sheet → first.Reaches scope.sheet number)
    (h : ∀ request, InStep Lost (Follows first fixed chain) (Follows first fixed chain)
      (resolve request) (resolve' request)) :
    InStep Lost (Follows first fixed chain) (Follows first fixed chain)
      (readEntry (OpenWorkbook.source sheets) vocabulary resolve scope number)
      (readEntry mirror vocabulary resolve' scope number) := by
  refine (readRow_inStep hmirror vocabulary hsheet hrow).bind fun row => ?_
  have hrefuse : InStep Lost (Follows first fixed chain) (Follows first fixed chain)
      (throw (.meaninglessRow scope.sheet number) : BuildM OpenWorkbook Unit)
      (throw (.meaninglessRow scope.sheet number)) :=
    InStep.throw _ fun _ _ h => h.recalculated
  cases hr : row.request? vocabulary scope with
  | none =>
    cases hm : row.hasMeaning vocabulary scope with
    | false =>
      refine hrefuse.bind fun _ => (InStep.pure _).bind fun children => ?_
      cases row.node? vocabulary scope <;> exact InStep.pure _
    | true => cases row.node? vocabulary scope <;> exact InStep.pure _
  | some request =>
    cases hm : row.hasMeaning vocabulary scope with
    | false =>
      refine hrefuse.bind fun _ => (h request).bind fun children => ?_
      cases row.node? vocabulary scope <;> exact InStep.pure _
    | true =>
      refine (h request).bind fun children => ?_
      cases row.node? vocabulary scope <;> exact InStep.pure _

theorem scan_inStep {scope : Scope} (hsheet : scope.sheet ∈ chain) (firstRow : Int) {lastRow : Int}
    (hrows : ∀ row, row ≤ lastRow → fixed scope.sheet → first.Reaches scope.sheet row)
    (h : ∀ request, InStep Lost (Follows first fixed chain) (Follows first fixed chain)
      (resolve request) (resolve' request)) :
    InStep Lost (Follows first fixed chain) (Follows first fixed chain)
      (scan (OpenWorkbook.source sheets) vocabulary resolve scope firstRow lastRow)
      (scan mirror vocabulary resolve' scope firstRow lastRow) := by
  refine (InStep.mapM _ fun number hnumber => ?_).bind fun entries => ?_
  · obtain ⟨offset, hoffset, rfl⟩ := List.mem_map.1 hnumber
    have hoffset := List.mem_range.1 hoffset
    exact readEntry_inStep hmirror vocabulary hsheet (hrows _ (by omega)) h
  · exact (report_inStep _).bind fun _ => InStep.pure _

end Rows

theorem resolve_inStep {root : String} (chain : List String) (hroot : root ∈ chain)
    (request : Request) :
    InStep Lost (Follows first (· ≠ root) chain) (Follows first (· ≠ root) chain)
      (resolve (OpenWorkbook.source sheets) vocabulary chain request)
      (resolve mirror vocabulary chain request) := by
  rw [resolve, resolve]
  by_cases hc : request.sheet ∈ chain
  · simp only [hc, ↓reduceDIte]
    exact InStep.throw _ fun _ _ h => h.recalculated
  · by_cases hs : request.sheet ∈ sheets
    · have hne : request.sheet ≠ root := by
        rintro rfl
        exact hc hroot
      have hmem : request.sheet ∈ chain ++ [request.sheet] := by simp
      have hother : request.sheet ∈ mirror.sheets := hmirror.sheets ▸ hs
      have hbook : request.sheet ∈ (OpenWorkbook.source sheets).sheets := hs
      simp only [hc, hbook, hother, ↓reduceDIte]
      have hopen : InStep Lost (Follows first (· ≠ root) chain)
          (Follows first (· ≠ root) (chain ++ [request.sheet]))
          (openSheet (OpenWorkbook.source sheets) request.sheet vocabulary.layout.referenceFirstRow)
          (openSheet mirror request.sheet vocabulary.layout.referenceFirstRow) := by
        apply openSheet_inStep hmirror
        exact hne
      refine hopen.bind_of_yields fun lastRow hlast => (report_inStep _).bind fun _ => ?_
      have hrows (row : Int) (hrow : row ≤ lastRow) : first.Reaches request.sheet row :=
        reaches_of_rowExtent hmirror (rowExtent_of_openSheet hlast) hrow
      refine (scan_inStep hmirror vocabulary hmem _ (fun row hrow _ => hrows row hrow)
        fun inner => ?_).mono (fun _ _ h => h) fun _ _ h => h.weaken
      exact resolve_inStep (chain ++ [request.sheet]) (List.mem_append_left _ hroot) inner
    · have hother : request.sheet ∉ mirror.sheets := hmirror.sheets ▸ hs
      have hbook : request.sheet ∉ (OpenWorkbook.source sheets).sheets := hs
      simp only [hc, hbook, hother, ↓reduceDIte]
      have hsimilar : suggestions mirror = suggestions (OpenWorkbook.source sheets) :=
        suggestions_congr hmirror.sheets
      rw [hsimilar]
      exact InStep.throw _ fun _ _ h => h.recalculated
termination_by (unopened (OpenWorkbook.source sheets) chain).length
decreasing_by exact length_unopened_lt _ hs hc

theorem openRoot_inStep (root : String) :
    InStep Lost (Follows first (fun _ => True) []) (Follows first (· ≠ root) [root])
      (openRoot (OpenWorkbook.source sheets) vocabulary root)
      (openRoot mirror vocabulary root) := by
  have hopen : InStep Lost (Follows first (fun _ => True) []) (Follows first (· ≠ root) [root])
      (openSheet (OpenWorkbook.source sheets) root vocabulary.layout.rootFirstRow)
      (openSheet mirror root vocabulary.layout.rootFirstRow) :=
    (openSheet_inStep hmirror trivial _).mono (fun _ _ h => h)
      fun _ _ h => h.exempt fun _ _ => trivial
  unfold openRoot
  have hsimilar : suggestions mirror = suggestions (OpenWorkbook.source sheets) :=
    suggestions_congr hmirror.sheets
  rw [hsimilar]
  by_cases hroot : root ∈ sheets
  · have hother : root ∈ mirror.sheets := hmirror.sheets ▸ hroot
    have hbook : root ∈ (OpenWorkbook.source sheets).sheets := hroot
    simp only [hother, hbook, not_true_eq_false, ↓reduceIte]
    exact hopen
  · have hother : root ∉ mirror.sheets := hmirror.sheets ▸ hroot
    have hbook : root ∉ (OpenWorkbook.source sheets).sheets := hroot
    simp only [hother, hbook, not_false_eq_true, ↓reduceIte]
    refine InStep.bind (InStep.throw _ fun _ _ h => h.recalculated) fun _ => hopen

/-- A build over a workbook runs in step with one over its mirror. Of the root sheet, rows below
the last one may be looked at, but it is not opened again. -/
theorem schema_inStep (root : String) :
    InStep Lost (Follows first (fun _ => True) []) (Follows first (· ≠ root) [root])
      (schema (OpenWorkbook.source sheets) vocabulary root) (schema mirror vocabulary root) := by
  have hroot : root ∈ [root] := List.mem_singleton_self root
  have hlook (row col : Int) : InStep Lost (Follows first (· ≠ root) [root])
      (Follows first (· ≠ root) [root]) (look (OpenWorkbook.source sheets) root row col)
      (look mirror root row col) := by
    apply look_inStep hmirror hroot
    exact fun hne => absurd rfl hne
  refine (openRoot_inStep hmirror vocabulary root).bind fun lastRow => ?_
  refine (hlook _ _).bind fun description => (hlook _ _).bind fun version => ?_
  refine InStep.bind (scan_inStep hmirror vocabulary hroot _ (fun _ _ hne => absurd rfl hne)
    fun request => ?_) fun forest => (report_inStep _).bind fun _ => InStep.pure _
  exact resolve_inStep hmirror vocabulary [root] hroot request

end Mirror

end Build

/-- Unless it fails with an error that is lost, a build over an undisturbed workbook has the outcome
of one over the mirror, and it recalculates the same sheets. -/
theorem build_mirrored {first book : OpenWorkbook} {sheets : List String}
    {Lost : AccessError → Prop} {mirror : Source Unit} (hmirror : first.Mirrors sheets Lost mirror)
    (hbook : first.Undisturbed book) (vocabulary : Vocabulary) (root : String)
    (journal journal' : Journal) :
    let result := build (OpenWorkbook.source sheets) vocabulary root book journal
    let mirrored := build mirror vocabulary root () journal'
    (∃ error, result.1 = .error (.access error) ∧ Lost error) ∨
      result.1 = mirrored.1 ∧ result.2.recalculated = mirrored.2.recalculated := by
  intro result mirrored
  have hstart : first.Follows (fun _ => True) [] { source := book, journal }
      { source := (), journal := journal' } :=
    ⟨hbook.computed, hbook.values, hbook.extent, rfl, nofun, nofun⟩
  rcases Build.schema_inStep hmirror vocabulary root _ _ hstart with ⟨error, p, hp, hlost⟩ |
    ⟨error, p, q, hp, hq, hsame⟩ | ⟨schema, p, q, hp, hq, hfollows⟩
  · exact .inl ⟨error, congrArg (·.1) hp, hlost⟩
  · refine .inr ⟨(congrArg (·.1) hp).trans (congrArg (·.1) hq).symm, ?_⟩
    exact (congrArg (·.2.recalculated) hp).trans
      (hsame.trans (congrArg (·.2.recalculated) hq).symm)
  · refine .inr ⟨(congrArg (·.1) hp).trans (congrArg (·.1) hq).symm, ?_⟩
    exact (congrArg (·.2.recalculated) hp).trans
      (hfollows.recalculated.trans (congrArg (·.2.recalculated) hq).symm)

/-- Unless it fails to look at a cell or a sheet, a build over a workbook has the outcome that its
snapshot determines, and it recalculates the same sheets. -/
theorem build_workbook (sheets : List String) (vocabulary : Vocabulary) (root : String)
    (book : OpenWorkbook) (journal : Journal) :
    let result := build (OpenWorkbook.source sheets) vocabulary root book journal
    let source : Source Unit := (book.snapshot sheets).toGrid.source
    (∃ error, result.1 = .error (.access error)) ∨
      result.1 = (book.snapshot sheets).toGrid.schema vocabulary root ∧
        result.2.recalculated = (build source vocabulary root () journal).2.recalculated := by
  intro result source
  rw [← build_grid _ vocabulary root () journal]
  refine (build_mirrored (book.mirrors_snapshot sheets) book.undisturbed_self vocabulary root journal
    journal).imp_left ?_
  rintro ⟨error, herror, _⟩
  exact ⟨error, herror⟩

/-- A schema that is built over a workbook is that of its snapshot. -/
theorem schema_snapshot {sheets : List String} {vocabulary : Vocabulary} {root : String}
    {book : OpenWorkbook} {journal : Journal} {schema : Schema}
    (h : (build (OpenWorkbook.source sheets) vocabulary root book journal).1 = .ok schema) :
    (book.snapshot sheets).toGrid.schema vocabulary root = .ok schema := by
  rcases build_workbook sheets vocabulary root book journal with ⟨error, herror⟩ | ⟨hanswer, _⟩
  · rw [h] at herror
    contradiction
  · exact hanswer.symm.trans h

/-- The schemas that a build gives, over a plain grid or over a workbook in any state. Both show the
same in a cell all through a build; sources whose cells change while a build looks at them are left
out. -/
inductive Built (vocabulary : Vocabulary) (root : String) (schema : Schema) : Prop
  | grid {σ : Type} (grid : Grid) (state : σ) (journal : Journal)
      (success : (build grid.source vocabulary root state journal).1 = .ok schema)
  | workbook (sheets : List String) (book : OpenWorkbook) (journal : Journal)
      (success : (build (OpenWorkbook.source sheets) vocabulary root book journal).1 = .ok schema)

/-- Every schema that is built is that of a grid. -/
theorem Built.exists_grid {vocabulary : Vocabulary} {root : String} {schema : Schema}
    (h : Built vocabulary root schema) :
    ∃ grid : Grid, grid.schema vocabulary root = .ok schema := by
  cases h with
  | grid grid state journal success =>
    rw [build_grid] at success
    exact ⟨grid, success⟩
  | workbook sheets book journal success =>
    exact ⟨(book.snapshot sheets).toGrid, schema_snapshot success⟩

end SheetSchema
