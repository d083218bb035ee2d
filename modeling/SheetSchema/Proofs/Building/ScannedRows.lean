import SheetSchema.Proofs.Building.WorkbookOutcome
import SheetSchema.Proofs.References.TextGrid
import SheetSchema.Proofs.Trees.PrefixTree

/-! What scanning a sheet builds, over any source that shows texts: the tree of the prefixes of its
rows' paths, whatever the source and the content of other sheets do between two rows. -/
namespace SheetSchema

variable {σ : Type}

/-- Cells show texts, if they can be looked at. -/
def Source.ShowsTexts (source : Source σ) : Prop :=
  ∀ name row col state value, (source.shown name row col state).1 = .ok value →
    ∃ text, value = .str text

theorem TextGrid.showsTexts (grid : TextGrid) : (grid.toGrid.source : Source σ).ShowsTexts := by
  intro name row col state value h
  exact ⟨_, (Except.ok.inj h).symm⟩

theorem OpenWorkbook.showsTexts (sheets : List String) : (source sheets).ShowsTexts :=
  fun _ _ _ _ _ h => exists_text_of_shown h

namespace Build

variable (source : Source σ) (vocabulary : Vocabulary)

/-- The values in the hierarchy columns of a row. -/
def readHierarchy (sheet : String) (number : Int) : BuildM σ (List Value) :=
  (List.range vocabulary.layout.hierarchyColumns.toNat).mapM fun (column : Nat) =>
    look source sheet number (column + 1)

/-- Rows are read and entered one after another. The path of a row holds the texts of its hierarchy
columns that are not empty, and what the row requests is built before the next one is read. -/
inductive Entering (resolve : Request → BuildM σ (Forest Node)) (scope : Scope) :
    Progress σ → List Int → List Row → List Sketch.Entry → Progress σ → Prop
  | nil (progress : Progress σ) : Entering resolve scope progress [] [] [] progress
  | cons {before columns seen built after : Progress σ} {number : Int} {numbers : List Int}
      {texts : List String} {row : Row} {rows : List Row} {entry : Sketch.Entry}
      {entries : List Sketch.Entry}
      (hierarchy : (readHierarchy source vocabulary scope.sheet number).run before =
        (.ok (texts.map .str), columns))
      (path : row.path = (texts.filter (· ≠ "")).map .str)
      (read : (readRow source vocabulary scope.sheet number).run before = (.ok row, seen))
      (entered : row.Entered vocabulary scope
        (fun request children => (resolve request).run seen = (.ok children, built)) entry)
      (unasked : row.request? vocabulary scope = none → built = seen)
      (rest : Entering resolve scope built numbers rows entries after) :
      Entering resolve scope before (number :: numbers) (row :: rows) (entry :: entries) after

variable {source vocabulary} {resolve : Request → BuildM σ (Forest Node)} {scope : Scope}
  {before after : Progress σ}

/-- The hierarchy columns show texts. -/
theorem texts_of_readHierarchy (hsource : source.ShowsTexts) {sheet : String} {number : Int}
    {values : List Value}
    (h : (readHierarchy source vocabulary sheet number).run before = (.ok values, after)) :
    ∃ texts : List String, values = texts.map .str := by
  have hlooked : Yields (readHierarchy source vocabulary sheet number) values :=
    ⟨before, congrArg (·.1) h⟩
  have htext : ∀ value ∈ values, ∃ text, value = .str text := by
    intro value hvalue
    obtain ⟨column, -, progress, hlook⟩ := exists_of_forall₂_right hlooked.of_mapM hvalue
    rw [run_look] at hlook
    rcases hshown : (source.shown sheet number (column + 1) progress.source).1 with error | value
    · rw [hshown] at hlook
      contradiction
    · rw [hshown] at hlook
      cases hlook
      exact hsource _ _ _ _ _ hshown
  obtain ⟨texts, htexts⟩ := exists_forall₂_iff.2 htext
  refine ⟨texts, ?_⟩
  rw [← List.forall₂_map_right_iff, List.forall₂_eq_eq_eq] at htexts
  exact htexts

/-- A row that is read has the texts of its hierarchy columns that are not empty as its path. -/
theorem hierarchy_of_readRow (hsource : source.ShowsTexts) {sheet : String} {number : Int}
    {row : Row}
    (h : (readRow source vocabulary sheet number).run before = (.ok row, after)) :
    ∃ (texts : List String) (columns : Progress σ),
      (readHierarchy source vocabulary sheet number).run before = (.ok (texts.map .str), columns) ∧
        row.path = (texts.filter (· ≠ "")).map .str := by
  obtain ⟨values, columns, hhierarchy, h⟩ := run_bind_eq_ok_iff.1 h
  obtain ⟨texts, rfl⟩ := texts_of_readHierarchy hsource hhierarchy
  refine ⟨texts, columns, hhierarchy, ?_⟩
  obtain ⟨name, _, -, h⟩ := run_bind_eq_ok_iff.1 h
  obtain ⟨type, _, -, h⟩ := run_bind_eq_ok_iff.1 h
  obtain ⟨notes, _, -, h⟩ := run_bind_eq_ok_iff.1 h
  cases h
  exact Value.filter_not_isVoid texts

theorem entered_of_readEntry {number : Int} {entry : Sketch.Entry}
    (h : (readEntry source vocabulary resolve scope number).run before = (.ok entry, after)) :
    ∃ (row : Row) (seen : Progress σ),
      (readRow source vocabulary scope.sheet number).run before = (.ok row, seen) ∧
        row.Entered vocabulary scope
          (fun request children => (resolve request).run seen = (.ok children, after)) entry ∧
        (row.request? vocabulary scope = none → after = seen) := by
  obtain ⟨row, seen, hread, h⟩ := run_bind_eq_ok_iff.1 h
  refine ⟨row, seen, hread, ?_⟩
  cases hm : row.hasMeaning vocabulary scope with
  | false =>
    simp only [hm] at h
    cases h
  | true =>
    simp only [hm] at h
    cases hr : row.request? vocabulary scope with
    | none =>
      simp only [hr] at h
      cases hn : row.node? vocabulary scope with
      | none =>
        simp only [hn] at h
        cases h
        exact ⟨.bare hm hn, fun _ => rfl⟩
      | some node =>
        simp only [hn] at h
        cases h
        exact ⟨.field hm hn hr, fun _ => rfl⟩
    | some request =>
      simp only [hr] at h
      obtain ⟨children, built, hchildren, h⟩ := run_bind_eq_ok_iff.1 h
      cases hn : row.node? vocabulary scope with
      | none => simp [Row.request?_of_node?_eq_none hn] at hr
      | some node =>
        simp only [hn] at h
        cases h
        exact ⟨.reference hm hn hr hchildren, nofun⟩

/-- Entries that were read one after another come from rows that were. -/
theorem entering_of_mapM (hsource : source.ShowsTexts) {numbers : List Int}
    {entries : List Sketch.Entry}
    (h : (numbers.mapM (readEntry source vocabulary resolve scope)).run before =
      (.ok entries, after)) :
    ∃ rows, Entering source vocabulary resolve scope before numbers rows entries after := by
  induction numbers generalizing before entries with
  | nil =>
    rw [List.mapM_nil] at h
    cases h
    exact ⟨[], .nil _⟩
  | cons number numbers ih =>
    rw [List.mapM_cons] at h
    obtain ⟨entry, built, hentry, h⟩ := run_bind_eq_ok_iff.1 h
    obtain ⟨others, _, hothers, h⟩ := run_bind_eq_ok_iff.1 h
    cases h
    obtain ⟨row, seen, hread, hentered, hunasked⟩ := entered_of_readEntry hentry
    obtain ⟨texts, columns, hhierarchy, hpath⟩ := hierarchy_of_readRow hsource hread
    obtain ⟨rows, hrows⟩ := ih hothers
    exact ⟨row :: rows, .cons hhierarchy hpath hread hentered hunasked hrows⟩

/-- The paths that are entered are those of the rows, and they consist of texts. -/
theorem Entering.isTexts {numbers : List Int} {rows : List Row} {entries : List Sketch.Entry}
    (h : Entering source vocabulary resolve scope before numbers rows entries after) :
    ∀ entry ∈ entries, Sketch.IsTexts entry.1 := by
  induction h with
  | nil => exact nofun
  | cons hierarchy path read entered unasked rest ih =>
    refine List.forall_mem_cons.2 ⟨?_, ih⟩
    rw [entered.path_eq, path]
    exact Sketch.isTexts_map_str _

/-- Scanning a sheet enters its rows from the first one up to and with the last one, and builds the
tree of the prefixes of their paths. -/
theorem scan_prefixTree (hsource : source.ShowsTexts) {firstRow lastRow : Int}
    {forest : Forest Node}
    (h : ((scan source vocabulary resolve scope firstRow lastRow).run before).1 = .ok forest) :
    ∃ rows entries sketch done,
      Entering source vocabulary resolve scope before (Int.range firstRow (lastRow + 1)) rows
        entries done ∧
      forest = sketch.map (Sketch.toNode scope.sheet) ∧ Sketch.PrefixTree entries sketch := by
  obtain ⟨entries, done, hentries, h⟩ := run_bind_eq_ok_iff.1 (Prod.ext h rfl)
  obtain ⟨_, _, -, h⟩ := run_bind_eq_ok_iff.1 h
  cases congrArg (·.1) h
  obtain ⟨rows, hrows⟩ := entering_of_mapM hsource hentries
  exact ⟨rows, entries, Sketch.ofEntries entries, done, hrows, rfl,
    Sketch.prefixTree_ofEntries hrows.isTexts⟩

end Build

namespace Gaps

/-- Two hierarchy columns and a name in each row. The first row leaves the first column blank, and the
third one names the group of the first again. -/
def rows : List (List String) := [["", "b", "x"], ["a", "b", "y"], ["b", "", "z"], ["", "", "w"]]

def grid : TextGrid where
  sheets := ["R", "S"]
  rowExtent _ := 4
  text _ row col := ((rows[row.toNat - 1]?).bind (·[col.toNat - 1]?)).getD ""

def vocabulary : Vocabulary where
  subProcesses := []
  dataTypes := []
  layout := {
    hierarchyColumns := 2, nameColumn := 3, typeColumn := 4, notesColumn := 5
    referenceFirstRow := 1 }

def scope : Scope where
  sheet := "S"
  isRoot := false
  subProcess := .null
  pattern := ""

/-- The forest of a field of the sheet. -/
def field (name : String) : Forest Node := .tree { name := .str name, template := "S" } .nil

def forest : Forest Node :=
  .node { name := "b", template := "S" } (field "x" ++ field "z")
    (.node { name := "a", template := "S" }
      (.tree { name := "b", template := "S" } (field "y")) (field "w"))

theorem forest_eq (content : Request → Except BuildError (Forest Node)) :
    grid.toGrid.forest vocabulary content scope = .ok forest := by
  refine Grid.forest_eq_ok_iff.2 ⟨[(["b"], field "x"), (["a", "b"], field "y"),
    (["b"], field "z"), ([], field "w")], ?_, by decide⟩
  exact .cons (.field (by decide) (by decide) (by decide))
    (.cons (.field (by decide) (by decide) (by decide))
      (.cons (.field (by decide) (by decide) (by decide))
        (.cons (.field (by decide) (by decide) (by decide)) .nil)))

end Gaps

open Build in
/-- A group that is named again further left gets its second field behind the first. -/
theorem scan_prefixTree_gaps :
    let source : Source Unit := Gaps.grid.toGrid.source
    let resolve := resolve source Gaps.vocabulary ["R", "S"]
    ((scan source Gaps.vocabulary resolve Gaps.scope 1 4).run { source := () }).1 =
        .ok Gaps.forest ∧
      ∃ rows entries sketch done,
        Entering source Gaps.vocabulary resolve Gaps.scope { source := () } [1, 2, 3, 4] rows
          entries done ∧
        Gaps.forest = sketch.map (Sketch.toNode "S") ∧ Sketch.PrefixTree entries sketch := by
  intro source resolve
  have hscan : ((scan source Gaps.vocabulary resolve Gaps.scope 1 4).run { source := () }).1 =
      .ok Gaps.forest :=
    (scan_gives Gaps.grid.toGrid Gaps.vocabulary (resolve_gives _ _ _) Gaps.scope _).trans
      (Gaps.forest_eq _)
  exact ⟨hscan, scan_prefixTree Gaps.grid.showsTexts hscan⟩

end SheetSchema
