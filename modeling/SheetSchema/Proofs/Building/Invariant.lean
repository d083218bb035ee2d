import SheetSchema.Proofs.Building.ScannedForest

/-! What a build keeps, over any source. An invariant that the operations on the source keep is
kept by the whole build, also by one that fails, and the errors of the build are those of the
operations and its own. What holds of the forest of a sheet whenever it holds of the contents that
its rows request holds of every forest that is built. -/
namespace SheetSchema

/-- The columns that a row is read in. -/
def Layout.IsColumn (layout : Layout) (col : Int) : Prop :=
  1 ≤ col ∧ col ≤ layout.hierarchyColumns ∨
    col = layout.nameColumn ∨ col = layout.typeColumn ∨ col = layout.notesColumn

namespace Build

variable {σ α β ι : Type} {P : Progress σ → Prop} {E : BuildError → Prop}

/-- From a progress with `P` a computation comes to one with `P`, be it with a value for which `Q`
holds or with an error for which `E` holds. -/
def Keeps (P : Progress σ → Prop) (E : BuildError → Prop) (m : BuildM σ α) (Q : α → Prop) : Prop :=
  ∀ p, P p → P (m.run p).2 ∧
    match (m.run p).1 with
    | .ok value => Q value
    | .error error => E error

namespace Keeps

variable {Q : α → Prop} {R : β → Prop}

theorem pure {value : α} (h : Q value) : Keeps P E (Pure.pure value : BuildM σ α) Q :=
  fun _ hp => ⟨hp, h⟩

theorem throw {error : BuildError} (h : E error) :
    Keeps P E (MonadExcept.throw error : BuildM σ α) Q :=
  fun _ hp => ⟨hp, h⟩

theorem bind {m : BuildM σ α} {f : α → BuildM σ β} (hm : Keeps P E m Q)
    (hf : ∀ value, Q value → Keeps P E (f value) R) : Keeps P E (m >>= f) R := by
  intro p hp
  obtain ⟨hafter, hvalue⟩ := hm p hp
  rw [run_bind]
  rcases hrun : m.run p with ⟨error | value, after⟩
  · rw [hrun] at hafter hvalue
    exact ⟨hafter, hvalue⟩
  · rw [hrun] at hafter hvalue
    exact hf value hvalue after hafter

theorem mono {Q' : α → Prop} {m : BuildM σ α} (h : Keeps P E m Q)
    (hQ : ∀ value, Q value → Q' value) : Keeps P E m Q' := by
  intro p hp
  obtain ⟨hafter, hvalue⟩ := h p hp
  refine ⟨hafter, ?_⟩
  rcases hrun : (m.run p).1 with error | value
  · rw [hrun] at hvalue
    exact hvalue
  · rw [hrun] at hvalue
    exact hQ value hvalue

theorem mapM {f : ι → BuildM σ α} {items : List ι} (h : ∀ item ∈ items, Keeps P E (f item) Q) :
    Keeps P E (items.mapM f) fun values => ∀ value ∈ values, Q value := by
  induction items with
  | nil => exact pure nofun
  | cons item rest ih =>
    obtain ⟨hitem, hrest⟩ := List.forall_mem_cons.1 h
    rw [List.mapM_cons]
    refine hitem.bind fun value hvalue => (ih hrest).bind fun values hvalues => pure ?_
    exact List.forall_mem_cons.2 ⟨hvalue, hvalues⟩

/-- Nothing is asked of a computation that may fail in any way and give any value. -/
theorem trivial (m : BuildM σ α) : Keeps (fun _ => True) (fun _ => True) m fun _ => True := by
  intro p _
  refine ⟨True.intro, ?_⟩
  split <;> exact True.intro

end Keeps

/-- What the operations on a source keep; `Readable` tells the rows that may be looked at, among
them all data rows of the sheets, and `E` the errors. -/
structure Stable (source : Source σ) (layout : Layout) (Readable : String → Int → Prop)
    (P : Progress σ → Prop) (E : BuildError → Prop) : Prop where
  schema : ∀ error, E (.schema error)
  meaninglessRow : ∀ sheet row, E (.meaninglessRow sheet row)
  report : ∀ event, Keeps P E (report event) fun _ => True
  recalculate : ∀ sheet ∈ source.sheets, Keeps P E (recalculate source sheet) fun _ => True
  rowExtent : ∀ sheet ∈ source.sheets, Keeps P E (rowExtent source sheet) fun extent =>
    ∀ isRoot row, layout.firstRow isRoot ≤ row → row ≤ extent → Readable sheet row
  look : ∀ sheet row col, Readable sheet row → layout.IsColumn col →
    Keeps P E (look source sheet row col) fun _ => True

/-- A property of forests, told for the scope of their sheet and the chain of the sheets that are
being read, that a sheet's forest has if the contents that its rows request have it. -/
def Hereditary (sheets : List String) (vocabulary : Vocabulary)
    (M : List String → Scope → Forest Node → Prop) : Prop :=
  ∀ chain scope entries,
    (∀ entry ∈ entries, ∃ row : Row,
      row.Entered vocabulary scope
        (fun request children => request.sheet ∉ chain ∧ request.sheet ∈ sheets ∧
          M (chain ++ [request.sheet]) request.scope children) entry) →
    M chain scope (Sketch.assemble scope.sheet entries)

namespace Stable

variable {source : Source σ} {vocabulary : Vocabulary} {Readable : String → Int → Prop}
  {M : List String → Scope → Forest Node → Prop}

theorem openSheet (h : Stable source vocabulary.layout Readable P E) {sheet : String}
    (hsheet : sheet ∈ source.sheets) (firstRow : Int) :
    Keeps P E (Build.openSheet source sheet firstRow) fun extent =>
      firstRow ≤ extent ∧ ∀ isRoot row, vocabulary.layout.firstRow isRoot ≤ row → row ≤ extent →
        Readable sheet row := by
  refine (h.rowExtent sheet hsheet).bind fun extent hextent => ?_
  by_cases hlt : extent < firstRow
  · simp only [hlt, ↓reduceIte]
    exact (Keeps.throw (h.schema _) : Keeps P E _ fun _ => False).bind
      fun _ hfalse => hfalse.elim
  · simp only [hlt, ↓reduceIte]
    exact (h.recalculate sheet hsheet).bind fun _ _ => Keeps.pure ⟨Int.not_lt.1 hlt, hextent⟩

theorem readRow (h : Stable source vocabulary.layout Readable P E) {sheet : String} {number : Int}
    (hrow : Readable sheet number) :
    Keeps P E (Build.readRow source vocabulary sheet number) fun _ => True := by
  have hlook {col : Int} (hcol : vocabulary.layout.IsColumn col) := h.look sheet number col hrow hcol
  have hhierarchy : ∀ column ∈ List.range vocabulary.layout.hierarchyColumns.toNat,
      Keeps P E (Build.look source sheet number ((column : Nat) + 1)) fun _ => True := by
    intro column hcolumn
    have hlt := List.mem_range.1 hcolumn
    exact hlook (.inl (by omega))
  refine (Keeps.mapM hhierarchy).bind fun hierarchy _ => ?_
  refine (hlook (.inr (.inl rfl))).bind fun name _ => ?_
  refine (hlook (.inr (.inr (.inl rfl)))).bind fun type _ => ?_
  exact (hlook (.inr (.inr (.inr rfl)))).bind fun notes _ => Keeps.pure True.intro

section Rows

variable {resolve : Request → BuildM σ (Forest Node)} {built : Request → Forest Node → Prop}

theorem readEntry (h : Stable source vocabulary.layout Readable P E)
    (hresolve : ∀ request, Keeps P E (resolve request) (built request)) {scope : Scope}
    {number : Int} (hrow : Readable scope.sheet number) :
    Keeps P E (Build.readEntry source vocabulary resolve scope number) fun entry =>
      ∃ row : Row, row.Entered vocabulary scope built entry := by
  refine (h.readRow hrow).bind fun row _ => ?_
  cases hm : row.hasMeaning vocabulary scope with
  | false =>
    exact (Keeps.throw (h.meaninglessRow _ _) : Keeps P E _ fun _ => False).bind
      fun _ hfalse => hfalse.elim
  | true =>
    cases hr : row.request? vocabulary scope with
    | none =>
      cases hn : row.node? vocabulary scope with
      | none => exact Keeps.pure ⟨row, .bare hm hn⟩
      | some node => exact Keeps.pure ⟨row, .field hm hn hr⟩
    | some request =>
      refine (hresolve request).bind fun children hchildren => ?_
      cases hn : row.node? vocabulary scope with
      | none => exact Keeps.pure ⟨row, .bare hm hn⟩
      | some node => exact Keeps.pure ⟨row, .reference hm hn hr hchildren⟩

theorem scan (h : Stable source vocabulary.layout Readable P E)
    (hresolve : ∀ request, Keeps P E (resolve request) (built request)) {scope : Scope}
    {firstRow lastRow : Int}
    (hrows : ∀ row, firstRow ≤ row → row ≤ lastRow → Readable scope.sheet row) :
    Keeps P E (Build.scan source vocabulary resolve scope firstRow lastRow) fun forest =>
      ∃ entries, (∀ entry ∈ entries, ∃ row : Row, row.Entered vocabulary scope built entry) ∧
        forest = Sketch.assemble scope.sheet entries := by
  have hentries : ∀ number ∈ rowNumbers firstRow lastRow,
      Keeps P E (Build.readEntry source vocabulary resolve scope number) fun entry =>
        ∃ row : Row, row.Entered vocabulary scope built entry := by
    intro number hnumber
    obtain ⟨offset, hoffset, rfl⟩ := List.mem_map.1 hnumber
    have hlt := List.mem_range.1 hoffset
    exact h.readEntry hresolve (hrows _ (by omega) (by omega))
  refine (Keeps.mapM hentries).bind fun entries hentered => ?_
  exact (h.report _).bind fun _ _ => Keeps.pure ⟨entries, hentered, rfl⟩

end Rows

theorem resolve (h : Stable source vocabulary.layout Readable P E)
    (hM : Hereditary source.sheets vocabulary M) (chain : List String) (request : Request) :
    Keeps P E (Build.resolve source vocabulary chain request) fun children =>
      request.sheet ∉ chain ∧ request.sheet ∈ source.sheets ∧
        M (chain ++ [request.sheet]) request.scope children := by
  rw [Build.resolve]
  by_cases hc : request.sheet ∈ chain
  · simp only [hc, ↓reduceDIte]
    exact Keeps.throw (h.schema _)
  · by_cases hs : request.sheet ∈ source.sheets
    · simp only [hc, hs, ↓reduceDIte]
      refine (h.openSheet hs _).bind fun lastRow hlast => (h.report _).bind fun _ _ => ?_
      refine (h.scan (fun inner => h.resolve hM (chain ++ [request.sheet]) inner)
        (hlast.2 false)).mono ?_
      rintro _ ⟨entries, hentries, rfl⟩
      exact ⟨not_false, True.intro, hM _ request.scope entries hentries⟩
    · simp only [hc, hs, ↓reduceDIte]
      exact Keeps.throw (h.schema _)
termination_by (unopened source chain).length
decreasing_by exact length_unopened_lt source hs hc

theorem openRoot (h : Stable source vocabulary.layout Readable P E) (root : String) :
    Keeps P E (Build.openRoot source vocabulary root) fun extent =>
      root ∈ source.sheets ∧ vocabulary.layout.rootFirstRow ≤ extent ∧
        ∀ isRoot row, vocabulary.layout.firstRow isRoot ≤ row → row ≤ extent →
          Readable root row := by
  unfold Build.openRoot
  by_cases hroot : root ∈ source.sheets
  · simp only [hroot, not_true_eq_false, ↓reduceIte]
    exact (h.openSheet hroot _).mono fun _ hrows => ⟨True.intro, hrows⟩
  · simp only [hroot, not_false_eq_true, ↓reduceIte]
    exact (Keeps.throw (h.schema _) : Keeps P E _ fun _ => False).bind
      fun _ hfalse => hfalse.elim

/-- A build keeps what the operations on its source keep, if so does looking at the cells of the
description and the version of a sheet whose first data row may be looked at, and a hereditary
property holds of the forest that it gives. -/
theorem schema_keeps (h : Stable source vocabulary.layout Readable P E)
    (hM : Hereditary source.sheets vocabulary M) (root : String)
    (hlook : root ∈ source.sheets → Readable root vocabulary.layout.rootFirstRow →
      ∀ cell ∈ [vocabulary.layout.descriptionCell, vocabulary.layout.versionCell],
        Keeps P E (Build.look source root cell.1 cell.2) fun _ => True) :
    Keeps P E (Build.schema source vocabulary root) fun schema =>
      M [root] (rootScope root) schema.forest := by
  refine (h.openRoot root).bind fun lastRow ⟨hroot, hfirst, hrows⟩ => ?_
  have hlook := hlook hroot (hrows true _ (Int.le_refl _) hfirst)
  refine (hlook _ (by simp)).bind fun description _ => ?_
  refine (hlook _ (by simp)).bind fun version _ => ?_
  have hrows : ∀ row, vocabulary.layout.rootFirstRow ≤ row → row ≤ lastRow →
      Readable (rootScope root).sheet row := hrows true
  refine (h.scan (h.resolve hM [root]) hrows).bind ?_
  rintro _ ⟨entries, hentries, rfl⟩
  exact (h.report _).bind fun _ _ => Keeps.pure (hM [root] (rootScope root) entries hentries)

/-- A build fails as the operations on its source do, or with an error of its own. -/
theorem error_of_build (h : Stable source vocabulary.layout Readable P E) {root : String}
    (hlook : root ∈ source.sheets → Readable root vocabulary.layout.rootFirstRow →
      ∀ cell ∈ [vocabulary.layout.descriptionCell, vocabulary.layout.versionCell],
        Keeps P E (Build.look source root cell.1 cell.2) fun _ => True)
    {state : σ} {journal : Journal} (hstart : P { source := state, journal }) {error : BuildError}
    (herror : (build source vocabulary root state journal).1 = .error error) : E error := by
  have hM : Hereditary source.sheets vocabulary fun _ _ _ => True := fun _ _ _ _ => True.intro
  obtain ⟨_, hresult⟩ := h.schema_keeps hM root hlook _ hstart
  have herror : ((Build.schema source vocabulary root).run { source := state, journal }).1 =
      .error error := herror
  rwa [herror] at hresult

end Stable

/-- A hereditary property holds of the forest of every schema that is built, over any source. -/
theorem Hereditary.of_build {source : Source σ} {vocabulary : Vocabulary}
    {M : List String → Scope → Forest Node → Prop} (hM : Hereditary source.sheets vocabulary M)
    {root : String} {state : σ} {journal : Journal} {schema : Schema}
    (h : (build source vocabulary root state journal).1 = .ok schema) :
    M [root] (rootScope root) schema.forest := by
  have hstable : Stable source vocabulary.layout (fun _ _ => True) (fun _ => True)
      fun _ => True := {
    schema := fun _ => True.intro
    meaninglessRow := fun _ _ => True.intro
    report := fun _ => .trivial _
    recalculate := fun _ _ => .trivial _
    rowExtent := fun _ _ => (Keeps.trivial _).mono fun _ _ _ _ _ _ => True.intro
    look := fun _ _ _ _ _ => .trivial _ }
  have hkeeps := hstable.schema_keeps hM root fun _ _ _ _ => .trivial _
  obtain ⟨_, hschema⟩ := hkeeps { source := state, journal } True.intro
  have hok : ((Build.schema source vocabulary root).run { source := state, journal }).1 =
      .ok schema := h
  rw [hok] at hschema
  exact hschema

end Build

end SheetSchema
