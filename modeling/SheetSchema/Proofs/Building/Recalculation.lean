import Mathlib.Data.List.Induction
import Mathlib.Data.List.Nodup
import SheetSchema.Proofs.Building.RecalculatedSheets
import SheetSchema.Proofs.Building.Recorder

/-! When sheets are recalculated. What a build does to its source is told by the record of its
calls, over any source and also where the build fails: each call is one that the calls before it
permit. -/
namespace SheetSchema

namespace Source

/-- The calls by which hierarchy columns of a row are read. -/
def columnCalls (sheet : String) (number : Int) (columns : List Nat) (values : List Value) :
    List Call :=
  List.zipWith (fun (column : Nat) value => .shown sheet number (column + 1) (.ok value)) columns
    values

/-- A row as it has been read, with all of its hierarchy columns. -/
structure ReadRow where
  sheet : String
  number : Int
  hierarchy : List Value
  name : Value
  type : Value
  notes : Value

namespace ReadRow

def row (reading : ReadRow) : Row where
  number := reading.number
  path := reading.hierarchy.filter (!·.isVoid)
  name := reading.name
  type := reading.type
  notes := reading.notes

/-- The calls by which a row is read. -/
def calls (layout : Layout) (reading : ReadRow) : List Call :=
  columnCalls reading.sheet reading.number (List.range layout.hierarchyColumns.toNat)
      reading.hierarchy ++
    [.shown reading.sheet reading.number layout.nameColumn (.ok reading.name),
      .shown reading.sheet reading.number layout.typeColumn (.ok reading.type),
      .shown reading.sheet reading.number layout.notesColumn (.ok reading.notes)]

/-- The row asks for the content of another sheet. -/
def RefersTo (vocabulary : Vocabulary) (root : String) (reading : ReadRow) (sheet : String) :
    Prop :=
  ∃ scope request, scope.sheet = reading.sheet ∧ scope.isRoot = decide (reading.sheet = root) ∧
    reading.row.request? vocabulary scope = some request ∧ request.sheet = sheet

end ReadRow

/-- The sheets that are recalculated, in their order. -/
def recalculations (log : List Call) : List String := log.filterMap Call.recalculated?

/-- The calls of a build of a root sheet: which of them may follow given ones. -/
inductive Permitted (sheets : List String) (vocabulary : Vocabulary) (root : String)
    (before : List Call) : Call → Prop
  | shown {sheet : String} {row col : Int} {answer : Except AccessError Value}
      (opened : sheet ∈ recalculations before) :
      Permitted sheets vocabulary root before (.shown sheet row col answer)
  | root {extent : Int} (first : before = []) (listed : root ∈ sheets)
      (reaches : vocabulary.layout.rootFirstRow ≤ extent) :
      Permitted sheets vocabulary root before (.recalculated root (.ok extent))
  | reference {sheet : String} {extent : Int} {reading : ReadRow}
      (new : sheet ∉ recalculations before) (other : sheet ≠ root) (listed : sheet ∈ sheets)
      (reaches : vocabulary.layout.referenceFirstRow ≤ extent)
      (opened : reading.sheet ∈ recalculations before)
      (complete : reading.hierarchy.length = vocabulary.layout.hierarchyColumns.toNat)
      (read : reading.calls vocabulary.layout <:+ before)
      (refers : reading.RefersTo vocabulary root sheet) :
      Permitted sheets vocabulary root before (.recalculated sheet (.ok extent))

/-- Every call of a record is permitted after the calls before it. -/
def Orderly (sheets : List String) (vocabulary : Vocabulary) (root : String) (log : List Call) :
    Prop :=
  ∀ before call after, log = before ++ call :: after → Permitted sheets vocabulary root before call

section Record

variable {sheets : List String} {vocabulary : Vocabulary} {root : String} {log : List Call}
  {call : Call}

@[simp] theorem recalculations_append (log more : List Call) :
    recalculations (log ++ more) = recalculations log ++ recalculations more :=
  List.filterMap_append ..

@[simp] theorem recalculations_shown (sheet : String) (row col : Int)
    (answer : Except AccessError Value) :
    recalculations [.shown sheet row col answer] = [] := rfl

@[simp] theorem recalculations_recalculated (sheet : String) (extent : Except AccessError Int) :
    recalculations [.recalculated sheet extent] = [sheet] := rfl

namespace Orderly

theorem nil : Orderly sheets vocabulary root [] := fun before call after h => by simp at h

theorem snoc (h : Orderly sheets vocabulary root log)
    (hcall : Permitted sheets vocabulary root log call) :
    Orderly sheets vocabulary root (log ++ [call]) := by
  intro before other after hsplit
  rcases List.eq_nil_or_concat after with rfl | ⟨rest, last, rfl⟩
  · obtain ⟨rfl, hlast⟩ := List.append_inj' hsplit rfl
    cases hlast
    exact hcall
  · rw [List.concat_eq_append, ← List.cons_append, ← List.append_assoc] at hsplit
    exact h before other rest (List.append_inj' hsplit rfl).1

theorem of_append {more : List Call} (h : Orderly sheets vocabulary root (log ++ more)) :
    Orderly sheets vocabulary root log := by
  intro before call after hsplit
  exact h before call (after ++ more) (by rw [hsplit, List.append_assoc, List.cons_append])

theorem nodup (h : Orderly sheets vocabulary root log) : (recalculations log).Nodup := by
  induction log using List.reverseRecOn with
  | nil => exact List.nodup_nil
  | append_singleton log call ih =>
    have hlog := ih h.of_append
    cases h log call [] rfl with
    | shown =>
      rw [recalculations_append, recalculations_shown, List.append_nil]
      exact hlog
    | root first =>
      rw [first]
      exact List.nodup_singleton root
    | reference new =>
      rw [recalculations_append, recalculations_recalculated]
      exact hlog.append (List.nodup_singleton _) (List.disjoint_singleton.2 new)

theorem head_eq (h : Orderly sheets vocabulary root log) :
    ∀ first ∈ (recalculations log).head?, first = root := by
  induction log using List.reverseRecOn with
  | nil => exact nofun
  | append_singleton log call ih =>
    have hlog := ih h.of_append
    cases h log call [] rfl with
    | shown =>
      rw [recalculations_append, recalculations_shown, List.append_nil]
      exact hlog
    | root first =>
      rw [first]
      exact fun sheet hsheet => (Option.some.inj hsheet).symm
    | reference _ _ _ _ opened =>
      -- a sheet has been recalculated before
      obtain ⟨first, rest, hfirst⟩ := List.exists_cons_of_ne_nil (List.ne_nil_of_mem opened)
      rw [hfirst] at hlog
      rw [recalculations_append, hfirst]
      exact hlog

end Orderly

end Record

end Source

namespace Build

open Source

variable {σ α β ι : Type} {P P' : Progress (σ × List Call) → Prop}
  {F : Progress (σ × List Call) → Prop}
  {Q Q' : α → Progress (σ × List Call) → Prop} {R : β → Progress (σ × List Call) → Prop}

/-- From a progress with `P` a computation comes to a value and a progress with `Q`, or it fails
and leaves one with `F`. -/
def Ensures (F P : Progress (σ × List Call) → Prop) (m : BuildM (σ × List Call) α)
    (Q : α → Progress (σ × List Call) → Prop) : Prop :=
  ∀ p, P p →
    match m.run p with
    | (.ok value, after) => Q value after
    | (.error _, after) => F after

namespace Ensures

theorem pure {value : α} (h : ∀ p, P p → Q value p) : Ensures F P (Pure.pure value) Q := h

theorem bind {m : BuildM (σ × List Call) α} {f : α → BuildM (σ × List Call) β}
    (hm : Ensures F P m Q) (hf : ∀ value, Ensures F (Q value) (f value) R) :
    Ensures F P (m >>= f) R := by
  intro p hp
  have hmp := hm p hp
  rw [run_bind]
  rcases hrun : m.run p with ⟨error | value, after⟩
  · rw [hrun] at hmp
    exact hmp
  · rw [hrun] at hmp
    exact hf value after hmp

theorem mono {m : BuildM (σ × List Call) α} (h : Ensures F P m Q) (hP : ∀ p, P' p → P p)
    (hQ : ∀ value p, Q value p → Q' value p) : Ensures F P' m Q' := by
  intro p hp
  have hmp := h p (hP p hp)
  rcases hrun : m.run p with ⟨error | value, after⟩
  · rw [hrun] at hmp
    exact hmp
  · rw [hrun] at hmp
    exact hQ value after hmp

theorem mapM {f : ι → BuildM (σ × List Call) α} {items : List ι}
    (h : ∀ item ∈ items, Ensures F P (f item) fun _ => P) :
    Ensures F P (items.mapM f) fun _ => P := by
  induction items with
  | nil =>
    rw [List.mapM_nil]
    exact pure fun _ => id
  | cons item rest ih =>
    obtain ⟨hitem, hrest⟩ := List.forall_mem_cons.1 h
    rw [List.mapM_cons]
    exact hitem.bind fun _ => (ih hrest).bind fun _ => pure fun _ => id

end Ensures

/-- The record tells which sheets have been recalculated, and it is orderly. -/
structure Recorded (source : Source σ) (vocabulary : Vocabulary) (root : String)
    (p : Progress (σ × List Call)) : Prop where
  recalculated : p.recalculated = recalculations p.source.2
  orderly : Orderly source.sheets vocabulary root p.source.2

/-- The sheets of a chain have been recalculated. -/
structure Opened (source : Source σ) (vocabulary : Vocabulary) (root : String)
    (chain : List String) (p : Progress (σ × List Call)) : Prop
    extends Recorded source vocabulary root p where
  opened : ∀ sheet ∈ chain, sheet ∈ p.recalculated

/-- A row that has just been read asks for the content of a sheet. -/
def Asked (vocabulary : Vocabulary) (root sheet : String) (p : Progress (σ × List Call)) : Prop :=
  ∃ reading : ReadRow, reading.sheet ∈ p.recalculated ∧
    reading.hierarchy.length = vocabulary.layout.hierarchyColumns.toNat ∧
    reading.calls vocabulary.layout <:+ p.source.2 ∧ reading.RefersTo vocabulary root sheet

variable {source : Source σ} {vocabulary : Vocabulary} {root : String} {chain : List String}

theorem look_ensures {sheet : String} (hsheet : sheet ∈ chain) (row col : Int) (log : List Call) :
    Ensures (Recorded source vocabulary root)
      (fun p => Opened source vocabulary root chain p ∧ p.source.2 = log)
      (look source.recorded sheet row col)
      fun value p => Opened source vocabulary root chain p ∧
        p.source.2 = log ++ [.shown sheet row col (.ok value)] := by
  rintro p ⟨hopened, rfl⟩
  have hpermitted (answer : Except AccessError Value) : Permitted source.sheets vocabulary root
      p.source.2 (.shown sheet row col answer) :=
    .shown (hopened.recalculated ▸ hopened.opened sheet hsheet)
  have hafter (answer : Except AccessError Value) (after : σ) :
      Opened source vocabulary root chain
        { p with source := (after, p.source.2 ++ [.shown sheet row col answer]) } := by
    refine ⟨⟨?_, hopened.orderly.snoc (hpermitted answer)⟩, hopened.opened⟩
    rw [recalculations_append, recalculations_shown, List.append_nil]
    exact hopened.recalculated
  rw [run_look]
  rcases hshown : source.shown sheet row col p.source.1 with ⟨error | value, after⟩
  · simp only [recorded, hshown]
    exact (hafter _ after).toRecorded
  · simp only [recorded, hshown]
    exact ⟨hafter _ after, rfl⟩

theorem columns_ensures {sheet : String} (hsheet : sheet ∈ chain) (number : Int)
    (columns : List Nat) (log : List Call) :
    Ensures (Recorded source vocabulary root)
      (fun p => Opened source vocabulary root chain p ∧ p.source.2 = log)
      (columns.mapM fun (column : Nat) => look source.recorded sheet number (column + 1))
      fun values p => values.length = columns.length ∧ Opened source vocabulary root chain p ∧
        p.source.2 = log ++ columnCalls sheet number columns values := by
  induction columns generalizing log with
  | nil =>
    rw [List.mapM_nil]
    refine .pure fun p ⟨hopened, hlog⟩ => ⟨rfl, hopened, ?_⟩
    rw [hlog]
    exact (List.append_nil log).symm
  | cons column rest ih =>
    rw [List.mapM_cons]
    refine (look_ensures hsheet number _ log).bind fun value => (ih _).bind fun values => ?_
    refine .pure fun p ⟨hlength, hopened, hlog⟩ => ⟨congrArg (· + 1) hlength, hopened, ?_⟩
    rw [hlog, List.append_assoc]
    rfl

theorem readRow_ensures {sheet : String} (hsheet : sheet ∈ chain) (number : Int) :
    Ensures (Recorded source vocabulary root) (Opened source vocabulary root chain)
      (readRow source.recorded vocabulary sheet number)
      fun row p => Opened source vocabulary root chain p ∧
        ∃ reading : ReadRow, reading.sheet = sheet ∧ reading.row = row ∧
          reading.hierarchy.length = vocabulary.layout.hierarchyColumns.toNat ∧
          reading.calls vocabulary.layout <:+ p.source.2 := by
  intro start hstart
  refine ((columns_ensures hsheet number _ start.source.2).bind fun hierarchy => ?_) start
    ⟨hstart, rfl⟩
  intro p ⟨hlength, hp⟩
  refine ((look_ensures hsheet number _ _).bind fun name =>
    (look_ensures hsheet number _ _).bind fun type =>
    (look_ensures hsheet number _ _).bind fun notes => .pure fun q hq => ⟨hq.1, ?_⟩) p hp
  refine ⟨⟨sheet, number, hierarchy, name, type, notes⟩, rfl, rfl, ?_, start.source.2, ?_⟩
  · rw [hlength, List.length_range]
  · rw [hq.2]
    simp only [ReadRow.calls, List.append_assoc, List.cons_append, List.nil_append]

/-- A sheet that is opened has been recalculated before, or it is recalculated if that is
permitted. -/
theorem openSheet_ensures (chain : List String) {sheet : String} {firstRow : Int}
    (hopened : ∀ p, P p → Opened source vocabulary root chain p)
    (hpermitted : ∀ p, P p → sheet ∉ p.recalculated → ∀ extent, firstRow ≤ extent →
      Permitted source.sheets vocabulary root p.source.2 (.recalculated sheet (.ok extent))) :
    Ensures (Recorded source vocabulary root) P (openSheet source.recorded sheet firstRow)
      fun _ => Opened source vocabulary root (chain ++ [sheet]) := by
  have hextent : Ensures (Recorded source vocabulary root) P (rowExtent source.recorded sheet)
      fun extent p => P p ∧ source.rowExtent sheet p.source.1 = .ok extent := by
    intro p hp
    rw [run_rowExtent]
    rcases hextent : source.rowExtent sheet p.source.1 with error | extent
    · simp only [recorded, hextent]
      exact (hopened p hp).toRecorded
    · simp only [recorded, hextent]
      exact ⟨hp, hextent⟩
  refine hextent.bind fun extent => ?_
  by_cases hlt : extent < firstRow
  · simp only [hlt, ↓reduceIte]
    exact fun p hp => (hopened p hp.1).toRecorded
  · simp only [hlt, ↓reduceIte]
    refine Ensures.bind (Q := fun _ => Opened source vocabulary root (chain ++ [sheet])) ?_
      fun _ => .pure fun _ => id
    rintro p ⟨hp, hextent⟩
    have hchain := hopened p hp
    rw [run_recalculate]
    by_cases hmem : sheet ∈ p.recalculated
    · rw [if_pos hmem]
      refine ⟨hchain.toRecorded, List.forall_mem_append.2 ⟨hchain.opened, ?_⟩⟩
      exact List.forall_mem_singleton.2 hmem
    · rw [if_neg hmem]
      have hcall := hpermitted p hp hmem extent (Int.not_lt.1 hlt)
      simp only [recorded, hextent]
      refine ⟨⟨?_, hchain.orderly.snoc hcall⟩, List.forall_mem_append.2 ⟨?_, ?_⟩⟩
      · rw [recalculations_append, recalculations_recalculated, hchain.recalculated]
      · exact fun other hother => List.mem_append_left _ (hchain.opened other hother)
      · exact List.forall_mem_singleton.2 (List.mem_append_right _ (List.mem_singleton_self sheet))

theorem Opened.mono {chain' : List String} {p : Progress (σ × List Call)}
    (h : Opened source vocabulary root chain p) (hsubset : chain' ⊆ chain) :
    Opened source vocabulary root chain' p :=
  ⟨h.toRecorded, fun sheet hsheet => h.opened sheet (hsubset hsheet)⟩

/-- What is reported leaves no trace in the record. -/
theorem report_ensures (event : Event) :
    Ensures F (Opened source vocabulary root chain) (report event)
      fun _ => Opened source vocabulary root chain :=
  fun _ hp => ⟨⟨hp.recalculated, hp.orderly⟩, hp.opened⟩

section Rows

variable {resolve : Request → BuildM (σ × List Call) (Forest Node)} (scope : Scope)
  (hresolve : ∀ request, Ensures (Recorded source vocabulary root)
    (fun p => Opened source vocabulary root chain p ∧ Asked vocabulary root request.sheet p)
    (resolve request) fun _ => Opened source vocabulary root chain)
  (hsheet : scope.sheet ∈ chain) (hroot : scope.isRoot = decide (scope.sheet = root))
include hresolve hsheet hroot

theorem readEntry_ensures (number : Int) :
    Ensures (Recorded source vocabulary root) (Opened source vocabulary root chain)
      (readEntry source.recorded vocabulary resolve scope number)
      fun _ => Opened source vocabulary root chain := by
  refine (readRow_ensures hsheet number).bind fun row => ?_
  cases hm : row.hasMeaning vocabulary scope with
  | false => exact fun p hp => hp.1.toRecorded
  | true =>
    cases hr : row.request? vocabulary scope with
    | none => cases hn : row.node? vocabulary scope <;> exact .pure fun p hp => hp.1
    | some request =>
      refine Ensures.bind (Ensures.mono (hresolve request) ?_ fun _ _ => id) fun children => ?_
      · rintro p ⟨hopened, reading, hreading, rfl, hlength, hcalls⟩
        refine ⟨hopened, reading, ?_, hlength, hcalls, scope, request, ?_⟩
        · exact hreading ▸ hopened.opened scope.sheet hsheet
        · exact ⟨hreading.symm, hreading ▸ hroot, hr, rfl⟩
      · cases hn : row.node? vocabulary scope <;> exact .pure fun p => id

theorem scan_ensures (firstRow lastRow : Int) :
    Ensures (Recorded source vocabulary root) (Opened source vocabulary root chain)
      (scan source.recorded vocabulary resolve scope firstRow lastRow)
      fun _ => Opened source vocabulary root chain := by
  refine Ensures.bind (Ensures.mapM fun number _ =>
    readEntry_ensures scope hresolve hsheet hroot number) fun entries => ?_
  exact (report_ensures _).bind fun _ => .pure fun _ => id

end Rows

/-- The content that a row has asked for. -/
theorem resolve_ensures (source : Source σ) (vocabulary : Vocabulary) (chain : List String)
    (hroot : root ∈ chain) (request : Request) :
    Ensures (Recorded source vocabulary root)
      (fun p => Opened source vocabulary root chain p ∧ Asked vocabulary root request.sheet p)
      (resolve source.recorded vocabulary chain request)
      fun _ => Opened source vocabulary root chain := by
  rw [resolve]
  by_cases hc : request.sheet ∈ chain
  · simp only [hc, ↓reduceDIte]
    exact fun p hp => hp.1.toRecorded
  · by_cases hs : request.sheet ∈ source.sheets
    · have hs' : request.sheet ∈ source.recorded.sheets := hs
      simp only [hc, hs', ↓reduceDIte]
      have hother : request.sheet ≠ root := fun heq => hc (heq ▸ hroot)
      refine (openSheet_ensures chain (fun p hp => hp.1) ?_).bind fun lastRow => ?_
      · rintro p ⟨hopened, reading, hreading, hlength, hcalls, hrefers⟩ hnew extent hextent
        rw [hopened.recalculated] at hreading hnew
        exact .reference hnew hother hs hextent hreading hlength hcalls hrefers
      · have hinner (inner : Request) := resolve_ensures source vocabulary
          (chain ++ [request.sheet]) (List.mem_append_left [request.sheet] hroot) inner
        have hscan := scan_ensures request.scope hinner
          (List.mem_append_right chain (List.mem_singleton_self request.sheet))
          (by simp [Request.scope, hother]) vocabulary.layout.referenceFirstRow lastRow
        exact (report_ensures _).bind fun _ => hscan.mono (fun _ => id)
          fun _ p hp => hp.mono (List.subset_append_left chain [request.sheet])
    · have hs' : request.sheet ∉ source.recorded.sheets := hs
      simp only [hc, hs', ↓reduceDIte]
      exact fun p hp => hp.1.toRecorded
termination_by (unopened source chain).length
decreasing_by exact length_unopened_lt source hs hc

theorem schema_ensures (source : Source σ) (vocabulary : Vocabulary) (root : String) :
    Ensures (Recorded source vocabulary root)
      (fun p => p.recalculated = [] ∧ p.source.2 = [])
      (schema source.recorded vocabulary root) fun _ => Recorded source vocabulary root := by
  have hstart (p : Progress (σ × List Call)) (hp : p.recalculated = [] ∧ p.source.2 = []) :
      Opened source vocabulary root [] p := by
    refine ⟨⟨?_, ?_⟩, nofun⟩
    · rw [hp.1, hp.2]
      rfl
    · rw [hp.2]
      exact .nil
  have hopen : Ensures (Recorded source vocabulary root)
      (fun p => p.recalculated = [] ∧ p.source.2 = []) (openRoot source.recorded vocabulary root)
      fun _ => Opened source vocabulary root [root] := by
    unfold openRoot
    by_cases hroot : root ∈ source.sheets
    · have hroot' : root ∈ source.recorded.sheets := hroot
      simp only [hroot', not_true_eq_false, ↓reduceIte]
      refine openSheet_ensures [] hstart ?_
      exact fun p hp _ extent hextent => .root hp.2 hroot hextent
    · have hroot' : root ∉ source.recorded.sheets := hroot
      simp only [hroot', not_false_eq_true, ↓reduceIte]
      exact fun p hp => (hstart p hp).toRecorded
  have hlook (cell : Int × Int) : Ensures (Recorded source vocabulary root)
      (Opened source vocabulary root [root]) (look source.recorded root cell.1 cell.2)
      fun _ => Opened source vocabulary root [root] := by
    intro p hp
    have hcell := look_ensures (List.mem_singleton_self root) cell.1 cell.2 _ p ⟨hp, rfl⟩
    rcases hrun : (look source.recorded root cell.1 cell.2).run p with ⟨error | value, after⟩
    · rw [hrun] at hcell
      exact hcell
    · rw [hrun] at hcell
      exact hcell.1
  have hroot : root ∈ [root] := List.mem_singleton_self root
  have hscan (lastRow : Int) := scan_ensures (rootScope root)
    (resolve_ensures source vocabulary [root] hroot) hroot (by simp [rootScope])
    vocabulary.layout.rootFirstRow lastRow
  refine hopen.bind fun lastRow => (hlook _).bind fun description => ?_
  refine (hlook _).bind fun version => (hscan lastRow).bind fun forest => ?_
  exact (report_ensures _).bind fun _ => .pure fun _ hp => hp.toRecorded

/-- The builds of root sheets that are made one after another, each on the state of the source that
the one before has left, be it with a schema or with an error. -/
def builds (source : Source σ) (vocabulary : Vocabulary) :
    List String → σ → Journal → List (String × Except BuildError Schema × Progress σ)
  | [], _, _ => []
  | root :: roots, state, journal =>
    let result := build source vocabulary root state journal
    (root, result) :: builds source vocabulary roots result.2.source result.2.journal

/-- A build with the record of its own calls. -/
structure RecordedBuild (σ : Type) where
  root : String
  outcome : Except BuildError Schema
  progress : Progress (σ × List Call)

def recordedBuilds (source : Source σ) (vocabulary : Vocabulary) :
    List String → σ → Journal → List (RecordedBuild σ)
  | [], _, _ => []
  | root :: roots, state, journal =>
    let result := build source.recorded vocabulary root (state, []) journal
    { root, outcome := result.1, progress := result.2 } ::
      recordedBuilds source vocabulary roots result.2.source.1 result.2.journal

theorem map_recordedBuilds (source : Source σ) (vocabulary : Vocabulary) (roots : List String)
    (state : σ) (journal : Journal) :
    (recordedBuilds source vocabulary roots state journal).map
        (fun made => (made.root, made.outcome, forget made.progress)) =
      builds source vocabulary roots state journal := by
  induction roots generalizing state journal with
  | nil => rfl
  | cons root roots ih =>
    have hbuild := build_recorded source vocabulary root state [] journal
    rw [recordedBuilds, builds, hbuild, List.map_cons, ih]
    rfl

/-- The rules of recalculation, for a build and the record of its calls. -/
structure Disciplined (source : Source σ) (vocabulary : Vocabulary) (made : RecordedBuild σ) :
    Prop where
  recorded : made.progress.recalculated = recalculations made.progress.source.2
  nodup : made.progress.recalculated.Nodup
  first : ∀ sheet ∈ made.progress.recalculated.head?, sheet = made.root
  reaches : ∀ before sheet extent after,
    made.progress.source.2 = before ++ .recalculated sheet extent :: after →
      sheet ∈ source.sheets ∧ ∃ last, extent = .ok last ∧
        vocabulary.layout.firstRow (decide (sheet = made.root)) ≤ last
  read : ∀ before sheet row col answer after,
    made.progress.source.2 = before ++ .shown sheet row col answer :: after →
      sheet ∈ recalculations before
  referred : ∀ before sheet extent after,
    made.progress.source.2 = before ++ .recalculated sheet extent :: after → sheet ≠ made.root →
      ∃ reading : ReadRow, reading.sheet ∈ recalculations before ∧
        reading.hierarchy.length = vocabulary.layout.hierarchyColumns.toNat ∧
        reading.calls vocabulary.layout <:+ before ∧
        reading.RefersTo vocabulary made.root sheet
  named : ∀ schema, made.outcome = .ok schema → ∀ sheet,
    sheet ∈ made.progress.recalculated ↔
      sheet = made.root ∨ TextGrid.Names schema.forest sheet

theorem disciplined_build (source : Source σ) (vocabulary : Vocabulary) (root : String) (state : σ)
    (journal : Journal) :
    let result := build source.recorded vocabulary root (state, []) journal
    Disciplined source vocabulary { root, outcome := result.1, progress := result.2 } := by
  intro result
  have hrecorded : Recorded source vocabulary root result.2 := by
    have hensures := schema_ensures source vocabulary root { source := (state, []), journal }
      ⟨rfl, rfl⟩
    have hrun : (schema source.recorded vocabulary root).run { source := (state, []), journal } =
        result := rfl
    rw [hrun] at hensures
    rcases result with ⟨error | schema, progress⟩
    · exact hensures
    · exact hensures
  refine ⟨hrecorded.recalculated, ?_, ?_, ?_, ?_, ?_, ?_⟩
  · exact hrecorded.recalculated ▸ hrecorded.orderly.nodup
  · exact hrecorded.recalculated ▸ hrecorded.orderly.head_eq
  · intro before sheet extent after hlog
    cases hrecorded.orderly before _ after hlog with
    | root _ listed reaches => exact ⟨listed, _, rfl, by simpa [Layout.firstRow] using reaches⟩
    | reference _ other listed reaches =>
      exact ⟨listed, _, rfl, by simpa [Layout.firstRow, other] using reaches⟩
  · intro before sheet row col answer after hlog
    cases hrecorded.orderly before _ after hlog with
    | shown opened => exact opened
  · intro before sheet extent after hlog hother
    cases hrecorded.orderly before _ after hlog with
    | root => exact absurd rfl hother
    | reference _ _ _ _ opened complete read refers =>
      exact ⟨_, opened, complete, read, refers⟩
  · intro schema houtcome sheet
    exact mem_recalculated_of_build (Prod.ext houtcome rfl) sheet

end Build

open Build

/-- Of several builds that are made one after another, over any source, each keeps the rules of
recalculation, whether it fails or not, and their record changes none of them. -/
theorem builds_disciplined {σ : Type} (source : Source σ) (vocabulary : Vocabulary)
    (roots : List String) (state : σ) (journal : Journal) :
    (recordedBuilds source vocabulary roots state journal).map
        (fun made => (made.root, made.outcome, forget made.progress)) =
      builds source vocabulary roots state journal ∧
    ∀ made ∈ recordedBuilds source vocabulary roots state journal,
      Disciplined source vocabulary made := by
  refine ⟨map_recordedBuilds source vocabulary roots state journal, ?_⟩
  induction roots generalizing state journal with
  | nil => exact nofun
  | cons root roots ih =>
    rw [recordedBuilds]
    exact List.forall_mem_cons.2 ⟨disciplined_build source vocabulary root state journal, ih _ _⟩

/-- A build that fails, since its root sheet does not exist, and one that does not. -/
theorem builds_disciplined_twice :
    let made := recordedBuilds (Twice.grid.toGrid.source : Source Unit) Twice.vocabulary ["Q", "R"]
      () #[]
    made.map (·.root) = ["Q", "R"] ∧
      ∀ build ∈ made, build.progress.recalculated.Nodup ∧
        (build.root = "R" → build.outcome = .ok Twice.schema ∧
          (∀ sheet ∈ build.progress.recalculated.head?, sheet = "R") ∧
          ∀ sheet, sheet ∈ build.progress.recalculated ↔ sheet = "R" ∨ sheet = "T") := by
  intro made
  obtain ⟨hmap, hdisciplined⟩ := builds_disciplined (Twice.grid.toGrid.source : Source Unit)
    Twice.vocabulary ["Q", "R"] () #[]
  refine ⟨rfl, fun build hbuild => ⟨(hdisciplined build hbuild).nodup, fun hroot => ?_⟩⟩
  have houtcome : build.outcome = .ok Twice.schema := by
    have hmem := List.mem_map_of_mem (f := fun made : RecordedBuild Unit =>
      (made.root, made.outcome, forget made.progress)) hbuild
    rw [hmap, builds, builds, builds, hroot] at hmem
    rcases List.mem_cons.1 hmem with hfirst | hsecond
    · have hname : "R" = "Q" := congrArg (·.1) hfirst
      exact absurd hname (by decide)
    · have houtcome := congrArg (·.2.1) (List.mem_singleton.1 hsecond)
      exact houtcome.trans ((build_grid ..).trans Twice.schema_eq)
  have hnames (sheet : String) : TextGrid.Names Twice.schema.forest sheet ↔ sheet = "T" := by
    simp [TextGrid.Names, Twice.schema, Twice.first, Twice.second, Twice.content, Forest.branches,
      Forest.tree, eq_comm]
  refine ⟨houtcome, hroot ▸ (hdisciplined build hbuild).first, fun sheet => ?_⟩
  rw [(hdisciplined build hbuild).named _ houtcome sheet, hnames, hroot]

end SheetSchema
