import SheetSchema.Proofs.Building.ScannedRows
import SheetSchema.Proofs.Trees.RowNode

/-! Two builds over one source that know different sub-processes. They go the same way from cell to
cell and from sheet to sheet, for neither what a row requests nor whether it has a meaning depends
on the sub-processes: they fail with the same error or give schemas that differ at most in
descriptions, and they recalculate the same sheets. -/
namespace SheetSchema

/-- Two outcomes with the same error or with related values. -/
inductive SameOutcome {ε α β : Type} (R : α → β → Prop) : Except ε α → Except ε β → Prop
  | error (error : ε) : SameOutcome R (.error error) (.error error)
  | ok {value : α} {other : β} (related : R value other) : SameOutcome R (.ok value) (.ok other)

namespace SameOutcome

variable {ε α β γ δ : Type} {R : α → β → Prop} {S : γ → δ → Prop} {outcome : Except ε α}
  {outcome' : Except ε β}

theorem refl (outcome : Except ε α) : SameOutcome Eq outcome outcome := by
  cases outcome with
  | error error => exact .error error
  | ok value => exact .ok rfl

theorem imp {R' : α → β → Prop} (h : SameOutcome R outcome outcome')
    (himp : ∀ value other, outcome = .ok value → outcome' = .ok other → R value other →
      R' value other) : SameOutcome R' outcome outcome' := by
  cases h with
  | error error => exact .error error
  | ok related => exact .ok (himp _ _ rfl rfl related)

theorem bind {f : α → Except ε γ} {g : β → Except ε δ} (h : SameOutcome R outcome outcome')
    (hf : ∀ value other, R value other → SameOutcome S (f value) (g other)) :
    SameOutcome S (outcome >>= f) (outcome' >>= g) := by
  cases h with
  | error error => exact .error error
  | ok related => exact hf _ _ related

/-- Two traversals of the same items but for one, which has related results. -/
theorem mapM_replace {R : β → β → Prop} {f : α → Except ε β} {item item' : α}
    (h : SameOutcome R (f item) (f item')) (before after : List α) :
    SameOutcome
      (fun results results' => ∃ first result result' rest, first.length = before.length ∧
        results = first ++ result :: rest ∧ results' = first ++ result' :: rest ∧ R result result')
      ((before ++ item :: after).mapM f) ((before ++ item' :: after).mapM f) := by
  simp only [List.mapM_append, List.mapM_cons, bind_assoc, pure_bind]
  have hbefore : SameOutcome (fun first first' => first = first' ∧ first.length = before.length)
      (before.mapM f) (before.mapM f) :=
    (refl _).imp fun _ _ hfirst _ heq => ⟨heq, (mapM_eq_ok_iff.1 hfirst).length_eq.symm⟩
  refine hbefore.bind ?_
  rintro first _ ⟨rfl, hlength⟩
  refine h.bind fun result result' hresult => (refl (after.mapM f)).bind ?_
  rintro rest _ rfl
  exact .ok ⟨first, result, result', rest, hlength, rfl, rfl, hresult⟩

theorem error_iff (h : SameOutcome R outcome outcome') {error : ε} :
    outcome = .error error ↔ outcome' = .error error := by
  cases h with
  | error other => exact ⟨fun h => by cases h; rfl, fun h => by cases h; rfl⟩
  | ok related => exact ⟨nofun, nofun⟩

theorem exists_ok {value : α} (h : SameOutcome R (.ok value) outcome') :
    ∃ other, outcome' = .ok other ∧ R value other := by
  cases h with
  | ok related => exact ⟨_, rfl, related⟩

end SameOutcome

/-- Two schemas that differ at most in the descriptions of their nodes. -/
structure Schema.Alike (schema other : Schema) : Prop where
  description : schema.description = other.description
  version : schema.version = other.version
  forest : schema.forest.Alike other.forest

namespace Build

variable {σ α β γ δ ι : Type} {R : α → β → Prop} {S : γ → δ → Prop}

/-- Two builds with the source in the same state and the same sheets recalculated. What they have
reported may differ. -/
structure Level (p q : Progress σ) : Prop where
  source : p.source = q.source
  recalculated : p.recalculated = q.recalculated

/-- Two computations that stay level and give related values or fail with the same error. -/
def Agree (R : α → β → Prop) (m : BuildM σ α) (n : BuildM σ β) : Prop :=
  ∀ p q, Level p q → SameOutcome R (m.run p).1 (n.run q).1 ∧ Level (m.run p).2 (n.run q).2

namespace Agree

theorem pure {value : α} {other : β} (h : R value other) :
    Agree R (Pure.pure value : BuildM σ α) (Pure.pure other) :=
  fun _ _ hlevel => ⟨.ok h, hlevel⟩

theorem throw (error : BuildError) :
    Agree R (MonadExcept.throw error : BuildM σ α) (MonadExcept.throw error) :=
  fun _ _ hlevel => ⟨.error error, hlevel⟩

theorem bind {m : BuildM σ α} {n : BuildM σ β} {f : α → BuildM σ γ} {g : β → BuildM σ δ}
    (hm : Agree R m n) (hf : ∀ value other, R value other → Agree S (f value) (g other)) :
    Agree S (m >>= f) (n >>= g) := by
  intro p q hlevel
  obtain ⟨houtcome, hafter⟩ := hm p q hlevel
  rw [run_bind, run_bind]
  rcases hp : m.run p with ⟨outcome, p'⟩
  rcases hq : n.run q with ⟨outcome', q'⟩
  rw [hp, hq] at houtcome hafter
  cases houtcome with
  | error error => exact ⟨.error error, hafter⟩
  | ok related => exact hf _ _ related p' q' hafter

theorem mapM {f : ι → BuildM σ α} {g : ι → BuildM σ β} (h : ∀ item, Agree R (f item) (g item))
    (items : List ι) : Agree (List.Forall₂ R) (items.mapM f) (items.mapM g) := by
  induction items with
  | nil => exact pure .nil
  | cons item rest ih =>
    rw [List.mapM_cons, List.mapM_cons]
    exact (h item).bind fun _ _ hitem => ih.bind fun _ _ hrest => pure (.cons hitem hrest)

theorem report (event event' : Event) :
    Agree Eq (Build.report event : BuildM σ Unit) (Build.report event') :=
  fun _ _ hlevel => ⟨.ok rfl, hlevel.source, hlevel.recalculated⟩

end Agree

section Source

variable {source : Source σ}

theorem recalculate_agree (sheet : String) :
    Agree Eq (recalculate source sheet) (recalculate source sheet) := by
  intro p q hlevel
  rw [run_recalculate, run_recalculate, ← hlevel.recalculated, ← hlevel.source]
  refine ⟨.ok rfl, ?_⟩
  by_cases hsheet : sheet ∈ p.recalculated
  · rw [if_pos hsheet, if_pos hsheet]
    exact hlevel
  · rw [if_neg hsheet, if_neg hsheet]
    exact ⟨rfl, rfl⟩

theorem rowExtent_agree (sheet : String) :
    Agree Eq (rowExtent source sheet) (rowExtent source sheet) := by
  intro p q hlevel
  rw [run_rowExtent, run_rowExtent, ← hlevel.source]
  refine ⟨?_, hlevel⟩
  cases source.rowExtent sheet p.source with
  | error error => exact .error _
  | ok extent => exact .ok rfl

theorem openSheet_agree (sheet : String) (firstRow : Int) :
    Agree Eq (openSheet source sheet firstRow) (openSheet source sheet firstRow) := by
  refine (rowExtent_agree sheet).bind ?_
  rintro extent _ rfl
  have hrest : Agree Eq (recalculate source sheet >>= fun _ => Pure.pure extent)
      (recalculate source sheet >>= fun _ => Pure.pure extent) :=
    (recalculate_agree sheet).bind fun _ _ _ => .pure rfl
  by_cases hlt : extent < firstRow
  · simp only [hlt, ↓reduceIte]
    exact (Agree.throw (R := Eq) _).bind fun _ _ _ => hrest
  · simp only [hlt, ↓reduceIte]
    exact hrest

/-- Where cells show texts, two looks show the same text. -/
def SameText (value other : Value) : Prop := ∃ text, value = .str text ∧ other = .str text

theorem exists_texts {values others : List Value} (h : List.Forall₂ SameText values others) :
    ∃ texts : List String, values = texts.map .str ∧ others = texts.map .str := by
  induction h with
  | nil => exact ⟨[], rfl, rfl⟩
  | cons hvalue _ ih =>
    obtain ⟨text, rfl, rfl⟩ := hvalue
    obtain ⟨texts, rfl, rfl⟩ := ih
    exact ⟨text :: texts, rfl, rfl⟩

theorem look_agree (hsource : source.ShowsTexts) (sheet : String) (row col : Int) :
    Agree SameText (look source sheet row col) (look source sheet row col) := by
  intro p q hlevel
  rw [run_look, run_look, ← hlevel.source]
  refine ⟨?_, rfl, hlevel.recalculated⟩
  cases hshown : (source.shown sheet row col p.source).1 with
  | error error => exact .error _
  | ok value =>
    obtain ⟨text, rfl⟩ := hsource _ _ _ _ _ hshown
    exact .ok ⟨text, rfl, rfl⟩

variable {vocabulary vocabulary' : Vocabulary} (hsource : source.ShowsTexts)
  (hv : vocabulary.Alike vocabulary')
include hsource hv

/-- The rows that are read are the same row of texts. -/
theorem readRow_agree (sheet : String) (number : Int) :
    Agree (fun row other : Row => ∃ texts : TextRow, row = texts.toRow number ∧ other = row)
      (readRow source vocabulary sheet number) (readRow source vocabulary' sheet number) := by
  have hlook (col : Int) := look_agree hsource sheet number col
  unfold readRow
  rw [hv.layout]
  refine (Agree.mapM (fun column => hlook _) _).bind fun hierarchy other hhierarchy => ?_
  obtain ⟨texts, rfl, rfl⟩ := exists_texts hhierarchy
  refine (hlook _).bind ?_
  rintro _ _ ⟨name, rfl, rfl⟩
  refine (hlook _).bind ?_
  rintro _ _ ⟨type, rfl, rfl⟩
  refine (hlook _).bind ?_
  rintro _ _ ⟨notes, rfl, rfl⟩
  refine .pure ⟨{ path := texts.filter (· ≠ ""), name, type, notes }, ?_, rfl⟩
  rw [TextRow.toRow, Value.filter_not_isVoid]

section Rows

variable {resolve resolve' : Request → BuildM σ (Forest Node)}
  (hresolve : ∀ request request', request.Alike request' → request.scope.HandsText →
    request'.scope.HandsText → Agree Forest.Alike (resolve request) (resolve' request'))
  {scope other : Scope} (hscope : scope.Alike other) (htext : scope.HandsText)
  (htext' : other.HandsText)
include hresolve hscope htext htext'

theorem readEntry_agree (number : Int) :
    Agree Sketch.Entry.Alike (readEntry source vocabulary resolve scope number)
      (readEntry source vocabulary' resolve' other number) := by
  unfold readEntry
  rw [← hscope.sheet]
  refine (readRow_agree hsource hv scope.sheet number).bind ?_
  rintro _ _ ⟨row, rfl, rfl⟩
  have hnode := (row.toRow number).plain_node?_congr hv hscope
  have hrequest := (row.toRow number).request?_alike hv hscope
  simp only [row.hasMeaning_toRow number htext, row.hasMeaning_toRow number htext', Bool.not_true,
    Bool.false_eq_true, ↓reduceIte]
  generalize hr : (row.toRow number).request? vocabulary scope = request? at hrequest ⊢
  generalize hr' : (row.toRow number).request? vocabulary' other = request?' at hrequest ⊢
  generalize (row.toRow number).node? vocabulary scope = node? at hnode ⊢
  generalize (row.toRow number).node? vocabulary' other = node?' at hnode ⊢
  have hresolved {request request' : Request} (halike : request.Alike request')
      (hr : (row.toRow number).request? vocabulary scope = some request)
      (hr' : (row.toRow number).request? vocabulary' other = some request') :
      Agree Forest.Alike (resolve request) (resolve' request') :=
    hresolve _ _ halike (row.handsText_request number htext hr)
      (row.handsText_request number htext' hr')
  cases node? with
  | none =>
    cases node?' with
    | some node => cases hnode
    | none =>
      cases hrequest with
      | none => exact .pure ⟨rfl, rfl⟩
      | some halike => exact (hresolved halike hr hr').bind fun _ _ _ => .pure ⟨rfl, rfl⟩
  | some node =>
    cases node?' with
    | none => cases hnode
    | some node' =>
      have hplain := Option.some.inj hnode
      cases hrequest with
      | none => exact .pure ⟨rfl, Forest.alike_tree hplain rfl⟩
      | some halike =>
        exact (hresolved halike hr hr').bind fun _ _ hchildren =>
          .pure ⟨rfl, Forest.alike_tree hplain hchildren⟩

theorem scan_agree (firstRow lastRow : Int) :
    Agree Forest.Alike (scan source vocabulary resolve scope firstRow lastRow)
      (scan source vocabulary' resolve' other firstRow lastRow) := by
  refine (Agree.mapM (readEntry_agree hsource hv hresolve hscope htext htext') _).bind
    fun entries others hentries => (Agree.report _ _).bind fun _ _ _ => .pure ?_
  rw [hscope.sheet]
  exact Sketch.alike_assemble hentries

end Rows

/-- Alike requests are resolved alike, by induction on the sheets that are not being read. -/
theorem resolve_agree (chain : List String) {request request' : Request}
    (h : request.Alike request') (htext : request.scope.HandsText)
    (htext' : request'.scope.HandsText) :
    Agree Forest.Alike (resolve source vocabulary chain request)
      (resolve source vocabulary' chain request') := by
  obtain ⟨sheet, referrer, row, subProcess, pattern⟩ := request
  obtain ⟨_, _, _, subProcess', pattern'⟩ := request'
  obtain ⟨rfl, rfl, rfl⟩ := h
  rw [resolve, resolve, ← hv.layout]
  by_cases hc : sheet ∈ chain
  · simp only [hc, ↓reduceDIte]
    exact .throw _
  · by_cases hs : sheet ∈ source.sheets
    · simp only [hc, hs, ↓reduceDIte]
      refine (openSheet_agree _ _).bind ?_
      rintro lastRow _ rfl
      refine (Agree.report _ _).bind fun _ _ _ => ?_
      have hinner (inner inner' : Request) (h : inner.Alike inner') :=
        resolve_agree (chain ++ [sheet]) h
      have hscope : (Request.scope ⟨sheet, referrer, row, subProcess, pattern⟩).Alike
          (Request.scope ⟨sheet, referrer, row, subProcess', pattern'⟩) := ⟨rfl, rfl⟩
      exact scan_agree hsource hv hinner hscope htext htext' _ _
    · simp only [hc, hs, ↓reduceDIte]
      exact .throw _
termination_by (unopened source chain).length
decreasing_by exact length_unopened_lt source hs hc

omit hsource in
theorem openRoot_agree (root : String) :
    Agree Eq (openRoot source vocabulary root) (openRoot source vocabulary' root) := by
  unfold openRoot
  rw [← hv.layout]
  by_cases hroot : root ∈ source.sheets
  · simp only [hroot, not_true_eq_false, ↓reduceIte]
    exact openSheet_agree root _
  · simp only [hroot, not_false_eq_true, ↓reduceIte]
    exact (Agree.throw (R := Eq) _).bind fun _ _ _ => openSheet_agree root _

theorem schema_agree (root : String) :
    Agree Schema.Alike (schema source vocabulary root) (schema source vocabulary' root) := by
  have htext := handsText_rootScope root
  unfold schema
  refine (openRoot_agree hv root).bind ?_
  rintro lastRow _ rfl
  rw [← hv.layout]
  refine (look_agree hsource root _ _).bind ?_
  rintro _ _ ⟨description, rfl, rfl⟩
  refine (look_agree hsource root _ _).bind ?_
  rintro _ _ ⟨version, rfl, rfl⟩
  have hinner (request request' : Request) (h : request.Alike request') :=
    resolve_agree hsource hv [root] h
  exact (scan_agree hsource hv hinner ⟨rfl, rfl⟩ htext htext _ _).bind
    fun forest forest' hforest => (Agree.report _ _).bind fun _ _ _ => .pure ⟨rfl, rfl, hforest⟩

end Source

end Build

end SheetSchema
