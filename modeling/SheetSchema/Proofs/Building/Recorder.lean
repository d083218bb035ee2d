import SheetSchema.Proofs.Building.WorkbookOutcome

/-! A source that keeps a record of the cells that are looked at and of the recalculations, in the
order of the calls. A build over it is the build over the source itself, with a record. -/
namespace SheetSchema

namespace Source

variable {σ : Type}

/-- A call of a source that is recorded. -/
inductive Call
  | shown (sheet : String) (row col : Int) (answer : Except AccessError Value)
  /-- With the last row of the sheet at that moment. -/
  | recalculated (sheet : String) (extent : Except AccessError Int)

/-- The sheet that a call recalculates. -/
def Call.recalculated? : Call → Option String
  | shown .. => none
  | recalculated sheet _ => some sheet

def recorded (source : Source σ) : Source (σ × List Call) where
  sheets := source.sheets
  rowExtent sheet state := source.rowExtent sheet state.1
  shown sheet row col state :=
    let (answer, after) := source.shown sheet row col state.1
    (answer, after, state.2 ++ [.shown sheet row col answer])
  recalculate sheet state :=
    (source.recalculate sheet state.1,
      state.2 ++ [.recalculated sheet (source.rowExtent sheet state.1)])

end Source

namespace Build

open Source

variable {σ α β ι : Type}

/-- A progress without its record. -/
def forget (progress : Progress (σ × List Call)) : Progress σ :=
  { progress with source := progress.source.1 }

/-- The second computation does what the first one does, without a record. -/
def Records (m : BuildM (σ × List Call) α) (n : BuildM σ α) : Prop :=
  ∀ p, n.run (forget p) = ((m.run p).1, forget (m.run p).2)

namespace Records

theorem pure (value : α) :
    Records (Pure.pure value : BuildM (σ × List Call) α) (Pure.pure value) := fun _ => rfl

theorem throw (error : BuildError) :
    Records (MonadExcept.throw error : BuildM (σ × List Call) α) (MonadExcept.throw error) :=
  fun _ => rfl

/-- Nothing that follows a failure is done. -/
theorem refused (error : BuildError) (f : α → BuildM (σ × List Call) β) (g : α → BuildM σ β) :
    Records (MonadExcept.throw error >>= f) (MonadExcept.throw error >>= g) := fun _ => rfl

theorem bind {m : BuildM (σ × List Call) α} {n : BuildM σ α}
    {f : α → BuildM (σ × List Call) β} {g : α → BuildM σ β} (hm : Records m n)
    (hf : ∀ value, Records (f value) (g value)) : Records (m >>= f) (n >>= g) := by
  intro p
  rw [run_bind, run_bind, hm p]
  rcases m.run p with ⟨error | value, after⟩
  · rfl
  · exact hf value after

theorem mapM {f : ι → BuildM (σ × List Call) α} {g : ι → BuildM σ α} (items : List ι)
    (h : ∀ item, Records (f item) (g item)) : Records (items.mapM f) (items.mapM g) := by
  induction items with
  | nil => exact pure []
  | cons item rest ih =>
    rw [List.mapM_cons, List.mapM_cons]
    exact (h item).bind fun value => ih.bind fun values => pure (value :: values)

variable (source : Source σ) (vocabulary : Vocabulary)

theorem report (event : Event) :
    Records (Build.report event : BuildM (σ × List Call) Unit) (Build.report event) := fun _ => rfl

theorem look (sheet : String) (row col : Int) :
    Records (Build.look source.recorded sheet row col) (Build.look source sheet row col) := by
  intro p
  rw [run_look, run_look]
  rfl

theorem rowExtent (sheet : String) :
    Records (Build.rowExtent source.recorded sheet) (Build.rowExtent source sheet) := by
  intro p
  rw [run_rowExtent, run_rowExtent]
  rfl

theorem recalculate (sheet : String) :
    Records (Build.recalculate source.recorded sheet) (Build.recalculate source sheet) := by
  intro p
  rw [run_recalculate, run_recalculate]
  by_cases h : sheet ∈ p.recalculated
  · have h' : sheet ∈ (forget p).recalculated := h
    rw [if_pos h, if_pos h']
  · have h' : sheet ∉ (forget p).recalculated := h
    rw [if_neg h, if_neg h']
    rfl

theorem openSheet (sheet : String) (firstRow : Int) :
    Records (Build.openSheet source.recorded sheet firstRow)
      (Build.openSheet source sheet firstRow) := by
  refine (rowExtent source sheet).bind fun extent => ?_
  by_cases hlt : extent < firstRow
  · simp only [hlt, ↓reduceIte]
    exact refused _ _ _
  · simp only [hlt, ↓reduceIte]
    exact (recalculate source sheet).bind fun _ => pure extent

theorem readRow (sheet : String) (number : Int) :
    Records (Build.readRow source.recorded vocabulary sheet number)
      (Build.readRow source vocabulary sheet number) := by
  have hlook (col : Int) := look source sheet number col
  refine (mapM _ fun column => hlook _).bind fun hierarchy => ?_
  exact (hlook _).bind fun name => (hlook _).bind fun type => (hlook _).bind fun notes => pure _

section Rows

variable {resolve : Request → BuildM (σ × List Call) (Forest Node)}
  {resolve' : Request → BuildM σ (Forest Node)}

theorem readEntry (hresolve : ∀ request, Records (resolve request) (resolve' request))
    (scope : Scope) (number : Int) :
    Records (Build.readEntry source.recorded vocabulary resolve scope number)
      (Build.readEntry source vocabulary resolve' scope number) := by
  refine (readRow source vocabulary scope.sheet number).bind fun row => ?_
  cases hm : row.hasMeaning vocabulary scope with
  | false => exact refused _ _ _
  | true =>
    cases hr : row.request? vocabulary scope with
    | none => cases hn : row.node? vocabulary scope <;> exact pure _
    | some request =>
      refine (hresolve request).bind fun children => ?_
      cases hn : row.node? vocabulary scope <;> exact pure _

theorem scan (hresolve : ∀ request, Records (resolve request) (resolve' request)) (scope : Scope)
    (firstRow lastRow : Int) :
    Records (Build.scan source.recorded vocabulary resolve scope firstRow lastRow)
      (Build.scan source vocabulary resolve' scope firstRow lastRow) :=
  (mapM _ fun number => readEntry source vocabulary hresolve scope number).bind fun _ =>
    (report _).bind fun _ => pure _

end Rows

theorem resolve (chain : List String) (request : Request) :
    Records (Build.resolve source.recorded vocabulary chain request)
      (Build.resolve source vocabulary chain request) := by
  rw [Build.resolve, Build.resolve]
  by_cases hc : request.sheet ∈ chain
  · simp only [hc, ↓reduceDIte]
    exact throw _
  · by_cases hs : request.sheet ∈ source.sheets
    · have hs' : request.sheet ∈ source.recorded.sheets := hs
      simp only [hc, hs, hs', ↓reduceDIte]
      refine (openSheet source request.sheet _).bind fun lastRow => (report _).bind fun _ => ?_
      exact scan source vocabulary (fun inner => resolve (chain ++ [request.sheet]) inner) _ _ _
    · have hs' : request.sheet ∉ source.recorded.sheets := hs
      simp only [hc, hs, hs', ↓reduceDIte]
      exact throw _
termination_by (unopened source chain).length
decreasing_by exact length_unopened_lt source hs hc

theorem openRoot (root : String) :
    Records (Build.openRoot source.recorded vocabulary root)
      (Build.openRoot source vocabulary root) := by
  unfold Build.openRoot
  by_cases hroot : root ∈ source.sheets
  · have hroot' : root ∈ source.recorded.sheets := hroot
    simp only [hroot, hroot', not_true_eq_false, ↓reduceIte]
    exact openSheet source root _
  · have hroot' : root ∉ source.recorded.sheets := hroot
    simp only [hroot, hroot', not_false_eq_true, ↓reduceIte]
    exact refused _ _ _

theorem schema (root : String) :
    Records (Build.schema source.recorded vocabulary root)
      (Build.schema source vocabulary root) := by
  refine (openRoot source vocabulary root).bind fun lastRow => ?_
  refine (look source root _ _).bind fun description => ?_
  refine (look source root _ _).bind fun version => ?_
  refine (scan source vocabulary (resolve source vocabulary [root]) _ _ _).bind fun forest => ?_
  exact (report _).bind fun _ => pure _

end Records

end Build

/-- A record changes nothing. -/
theorem build_recorded {σ : Type} (source : Source σ) (vocabulary : Vocabulary) (root : String)
    (state : σ) (log : List Source.Call) (journal : Journal) :
    build source vocabulary root state journal =
      ((build source.recorded vocabulary root (state, log) journal).1,
        Build.forget (build source.recorded vocabulary root (state, log) journal).2) :=
  Build.Records.schema source vocabulary root { source := (state, log), journal }

end SheetSchema
