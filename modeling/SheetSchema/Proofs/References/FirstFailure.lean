import Mathlib.Data.List.Chain
import SheetSchema.Proofs.Building.Nesting
import SheetSchema.Proofs.References.BuildSuccess

/-! What a failed build reports. Over a plain grid it is the first failure that is met when the rows
of the sheets are followed one after another, each reference before the next row. Over a grid of
texts nothing else can fail, and what the error says of sheets, rows and chains is so. -/
namespace SheetSchema

/-- A request tells the row that makes it. -/
theorem Row.place_of_request? {vocabulary : Vocabulary} {scope : Scope} {row : Row}
    {request : Request} (h : row.request? vocabulary scope = some request) :
    request.referrer = scope.sheet ∧ request.row = row.number := by
  unfold Row.request? at h
  split at h
  · contradiction
  · split at h
    · cases h
      exact ⟨rfl, rfl⟩
    · contradiction
  · split at h
    · cases h
      exact ⟨rfl, rfl⟩
    · contradiction

/-- A row fails for itself if it has no meaning, and otherwise as what it requests does. -/
theorem Row.entry_eq_error_iff {vocabulary : Vocabulary} {scope : Scope} {row : Row}
    {content : Request → Except BuildError (Forest Node)} {error : BuildError} :
    row.entry vocabulary content scope = .error error ↔
      (row.hasMeaning vocabulary scope = false ∧ error = .meaninglessRow scope.sheet row.number) ∨
      (row.hasMeaning vocabulary scope = true ∧ ∃ request,
        row.request? vocabulary scope = some request ∧ content request = .error error) := by
  unfold Row.entry
  cases hm : row.hasMeaning vocabulary scope with
  | false => simp [bind, Except.bind, throw, throwThe, MonadExceptOf.throw, eq_comm]
  | true =>
    cases hr : row.request? vocabulary scope with
    | none =>
      cases hn : row.node? vocabulary scope <;> simp [bind, Except.bind, pure, Except.pure]
    | some request =>
      cases hc : content request with
      | error other => simp [hc, bind, Except.bind]
      | ok children =>
        cases hn : row.node? vocabulary scope <;>
          simp [hc, bind, Except.bind, pure, Except.pure]

namespace Grid

section Failure

variable (grid : Grid) (vocabulary : Vocabulary)

/-- A request that is made on a sheet after all rows before have been entered. -/
def Asks (chain : List String) (scope : Scope) (request : Request) : Prop :=
  ∃ before row after,
    grid.dataRows vocabulary scope.isRoot scope.sheet = before ++ row :: after ∧
      (∀ earlier ∈ before, ∃ entry,
        earlier.entry vocabulary (grid.content vocabulary chain) scope = .ok entry) ∧
      row.hasMeaning vocabulary scope = true ∧ row.request? vocabulary scope = some request

/-- While a root sheet is built, the sheets of the chain are being read and the rows of the last one
are come to in the scope: from row to row, what comes before on each of these sheets has been
entered. -/
inductive Reads (root : String) : List String → Scope → Prop
  | root (listed : root ∈ grid.sheets)
      (reaches : vocabulary.layout.rootFirstRow ≤ grid.rowExtent root) :
      Reads root [root] (rootScope root)
  | nested {chain : List String} {scope : Scope} {request : Request}
      (reads : Reads root chain scope) (asked : grid.Asks vocabulary chain scope request)
      (new : request.sheet ∉ chain) (listed : request.sheet ∈ grid.sheets)
      (reaches : vocabulary.layout.referenceFirstRow ≤ grid.rowExtent request.sheet) :
      Reads root (chain ++ [request.sheet]) request.scope

/-- The failures of a root sheet: its own, and those of the first request that cannot be
followed. -/
inductive Failure (root : String) : SchemaError → Prop
  | missingRoot (missing : root ∉ grid.sheets) :
      Failure root (.missingDefinition root (grid.suggestions root))
  | emptyRoot (listed : root ∈ grid.sheets)
      (short : grid.rowExtent root < vocabulary.layout.rootFirstRow) :
      Failure root (.emptyDefinition root)
  | circular {chain : List String} {scope : Scope} {request : Request}
      (reads : grid.Reads vocabulary root chain scope)
      (asked : grid.Asks vocabulary chain scope request) (again : request.sheet ∈ chain) :
      Failure root (.circularReference (chain ++ [request.sheet]))
  | unresolved {chain : List String} {scope : Scope} {request : Request}
      (reads : grid.Reads vocabulary root chain scope)
      (asked : grid.Asks vocabulary chain scope request) (missing : request.sheet ∉ grid.sheets) :
      Failure root
        (.unresolvedReference request.sheet (grid.suggestions request.sheet) request.referrer
          (.cell (.int request.row)))
  | empty {chain : List String} {scope : Scope} {request : Request}
      (reads : grid.Reads vocabulary root chain scope)
      (asked : grid.Asks vocabulary chain scope request) (new : request.sheet ∉ chain)
      (listed : request.sheet ∈ grid.sheets)
      (short : grid.rowExtent request.sheet < vocabulary.layout.referenceFirstRow) :
      Failure root (.emptyDefinition request.sheet)

end Failure

variable {grid : Grid} {vocabulary : Vocabulary}

/-- What is asked for on a sheet is requested by one of its data rows. -/
theorem Asks.exists_row {chain : List String} {scope : Scope} {request : Request}
    (h : grid.Asks vocabulary chain scope request) :
    ∃ row ∈ grid.dataRows vocabulary scope.isRoot scope.sheet,
      row.request? vocabulary scope = some request := by
  obtain ⟨before, row, after, hrows, _, _, hrequest⟩ := h
  exact ⟨row, hrows ▸ List.mem_append_cons_self, hrequest⟩

/-- Reading a sheet fails as the first row that fails does. -/
theorem forest_eq_error_iff {content : Request → Except BuildError (Forest Node)} {scope : Scope}
    {error : BuildError} :
    grid.forest vocabulary content scope = .error error ↔ ∃ before row after,
      grid.dataRows vocabulary scope.isRoot scope.sheet = before ++ row :: after ∧
        (∀ earlier ∈ before, ∃ entry, earlier.entry vocabulary content scope = .ok entry) ∧
        row.entry vocabulary content scope = .error error := by
  rw [← mapM_eq_error_iff, Grid.forest]
  cases (grid.dataRows vocabulary scope.isRoot scope.sheet).mapM
      (Row.entry vocabulary content scope) <;>
    simp [bind, Except.bind, pure, Except.pure]

/-- Reading a sheet fails with the first request that fails. -/
theorem forest_eq_schema_error_iff {chain : List String} {scope : Scope} {error : SchemaError} :
    grid.forest vocabulary (grid.content vocabulary chain) scope = .error (.schema error) ↔
      ∃ request, grid.Asks vocabulary chain scope request ∧
        grid.content vocabulary chain request = .error (.schema error) := by
  simp only [forest_eq_error_iff, Row.entry_eq_error_iff, reduceCtorEq, and_false, false_or]
  constructor
  · rintro ⟨before, row, after, hrows, hbefore, hmeaning, request, hr, hc⟩
    exact ⟨request, ⟨before, row, after, hrows, hbefore, hmeaning, hr⟩, hc⟩
  · rintro ⟨request, ⟨before, row, after, hrows, hbefore, hmeaning, hr⟩, hc⟩
    exact ⟨before, row, after, hrows, hbefore, hmeaning, request, hr, hc⟩

/-- How following a request fails. -/
theorem content_eq_error_iff {chain : List String} {request : Request} {error : BuildError} :
    grid.content vocabulary chain request = .error error ↔
      (request.sheet ∈ chain ∧ error = .schema (.circularReference (chain ++ [request.sheet]))) ∨
      (request.sheet ∉ chain ∧ request.sheet ∉ grid.sheets ∧
        error = .schema (.unresolvedReference request.sheet (grid.suggestions request.sheet)
          request.referrer (.cell (.int request.row)))) ∨
      (request.sheet ∉ chain ∧ request.sheet ∈ grid.sheets ∧
        grid.rowExtent request.sheet < vocabulary.layout.referenceFirstRow ∧
        error = .schema (.emptyDefinition request.sheet)) ∨
      (request.sheet ∉ chain ∧ request.sheet ∈ grid.sheets ∧
        vocabulary.layout.referenceFirstRow ≤ grid.rowExtent request.sheet ∧
        grid.forest vocabulary (grid.content vocabulary (chain ++ [request.sheet]))
          request.scope = .error error) := by
  rw [Grid.content]
  by_cases hc : request.sheet ∈ chain
  · simp [hc, eq_comm]
  · by_cases hs : request.sheet ∈ grid.sheets
    · by_cases he : grid.rowExtent request.sheet < vocabulary.layout.referenceFirstRow
      · simp [hc, hs, he, eq_comm]
      · simp [hc, hs, he, Int.not_lt.1 he]
    · simp [hc, hs, eq_comm]

/-- How a root sheet fails. -/
theorem schema_eq_error_iff {root : String} {error : BuildError} :
    grid.schema vocabulary root = .error error ↔
      (root ∉ grid.sheets ∧
        error = .schema (.missingDefinition root (grid.suggestions root))) ∨
      (root ∈ grid.sheets ∧ grid.rowExtent root < vocabulary.layout.rootFirstRow ∧
        error = .schema (.emptyDefinition root)) ∨
      (root ∈ grid.sheets ∧ vocabulary.layout.rootFirstRow ≤ grid.rowExtent root ∧
        grid.forest vocabulary (grid.content vocabulary [root]) (rootScope root) =
          .error error) := by
  unfold Grid.schema
  by_cases hs : root ∈ grid.sheets
  · by_cases he : grid.rowExtent root < vocabulary.layout.rootFirstRow
    · simp [hs, he, eq_comm]
    · cases grid.forest vocabulary (grid.content vocabulary [root]) (rootScope root) <;>
        simp [hs, he, Int.not_lt.1 he, bind, Except.bind, pure, Except.pure]
  · simp [hs, eq_comm]

/-- The chain of a reading holds existing sheets only. -/
theorem Reads.subset {root : String} {chain : List String} {scope : Scope}
    (h : grid.Reads vocabulary root chain scope) : chain ⊆ grid.sheets := by
  induction h with
  | root listed => exact List.cons_subset.2 ⟨listed, List.nil_subset _⟩
  | nested _ _ _ listed _ ih =>
    exact List.append_subset.2 ⟨ih, List.cons_subset.2 ⟨listed, List.nil_subset _⟩⟩

/-- An error of a sheet that is being read is the error of the build, by induction on the chain: the
row that asked for the sheet fails with it. -/
theorem Reads.schema_eq_error {root : String} {chain : List String} {scope : Scope}
    {error : SchemaError} (h : grid.Reads vocabulary root chain scope)
    (herror : grid.forest vocabulary (grid.content vocabulary chain) scope =
      .error (.schema error)) :
    grid.schema vocabulary root = .error (.schema error) := by
  induction h with
  | root listed reaches => exact schema_eq_error_iff.2 (.inr (.inr ⟨listed, reaches, herror⟩))
  | nested _ asked new listed reaches ih =>
    refine ih (forest_eq_schema_error_iff.2 ⟨_, asked, ?_⟩)
    exact content_eq_error_iff.2 (.inr (.inr (.inr ⟨new, listed, reaches, herror⟩)))

/-- An error of a sheet that is being read is that of the first request that cannot be followed, by
induction on the sheets that are not being read. -/
theorem Reads.failure {root : String} {chain : List String} {scope : Scope} {error : SchemaError}
    (h : grid.Reads vocabulary root chain scope)
    (herror : grid.forest vocabulary (grid.content vocabulary chain) scope =
      .error (.schema error)) :
    grid.Failure vocabulary root error := by
  obtain ⟨request, hasked, hcontent⟩ := forest_eq_schema_error_iff.1 herror
  rcases content_eq_error_iff.1 hcontent with ⟨hc, ⟨⟩⟩ | ⟨hc, hs, ⟨⟩⟩ | ⟨hc, hs, he, ⟨⟩⟩ |
    ⟨hc, hs, he, hinner⟩
  · exact .circular h hasked hc
  · exact .unresolved h hasked hs
  · exact .empty h hasked hc hs he
  · exact Reads.failure (.nested h hasked hc hs he) hinner
termination_by (Build.unopened (grid.source : Source Unit) chain).length
decreasing_by exact Build.length_unopened_lt _ hs hc

/-- A root sheet fails with its first failure and with no other schema error. -/
theorem schema_eq_error_iff_failure {root : String} {error : SchemaError} :
    grid.schema vocabulary root = .error (.schema error) ↔
      grid.Failure vocabulary root error := by
  constructor
  · intro h
    rcases schema_eq_error_iff.1 h with ⟨hs, ⟨⟩⟩ | ⟨hs, he, ⟨⟩⟩ | ⟨hs, he, hforest⟩
    · exact .missingRoot hs
    · exact .emptyRoot hs he
    · exact (Reads.root hs he).failure hforest
  · intro h
    cases h with
    | missingRoot missing => exact schema_eq_error_iff.2 (.inl ⟨missing, rfl⟩)
    | emptyRoot listed short => exact schema_eq_error_iff.2 (.inr (.inl ⟨listed, short, rfl⟩))
    | circular reads asked again =>
      exact reads.schema_eq_error (forest_eq_schema_error_iff.2
        ⟨_, asked, content_eq_error_iff.2 (.inl ⟨again, rfl⟩)⟩)
    | unresolved reads asked missing =>
      have hnew := fun h => missing (reads.subset h)
      exact reads.schema_eq_error (forest_eq_schema_error_iff.2
        ⟨_, asked, content_eq_error_iff.2 (.inr (.inl ⟨hnew, missing, rfl⟩))⟩)
    | empty reads asked new listed short =>
      exact reads.schema_eq_error (forest_eq_schema_error_iff.2
        ⟨_, asked, content_eq_error_iff.2 (.inr (.inr (.inl ⟨new, listed, short, rfl⟩)))⟩)

end Grid

namespace TextGrid

variable (grid : TextGrid) (vocabulary : Vocabulary) (root : String)

/-- What an error says of sheets, rows and chains is so. -/
def Confirms : SchemaError → Prop
  | .missingDefinition sheet _ => sheet = .str root ∧ root ∉ grid.sheets
  | .emptyDefinition sheet =>
    ∃ name ∈ grid.sheets, sheet = .str name ∧
      grid.rowExtent name < vocabulary.layout.firstRow (name = root)
  | .unresolvedReference sheet _ referrer row =>
    ∃ target referring number, sheet = .str target ∧ referrer = .str referring ∧
      row = .cell (.int number) ∧ target ∉ grid.sheets ∧
      (∃ chain scope, grid.toGrid.Reads vocabulary root chain scope ∧ scope.sheet = referring) ∧
      grid.RefersAt vocabulary root referring number target
  | .circularReference chain =>
    chain.head? = some root ∧ chain.IsChain (grid.Refers vocabulary root) ∧
      ∃ before last, chain = before ++ [last] ∧ before.Nodup ∧ last ∈ before
  | _ => False

variable {grid vocabulary root}

/-- The sheets that are being read, from the root on, each referring to the next one, the last one
being that of the scope. -/
structure Chained (grid : TextGrid) (vocabulary : Vocabulary) (root : String)
    (chain : List String) (scope : Scope) : Prop where
  sheets : SheetChain grid.sheets root chain
  last : chain.getLast? = some scope.sheet
  refers : chain.IsChain (grid.Refers vocabulary root)
  isRoot : scope.isRoot = decide (scope.sheet = root)
  handsText : scope.HandsText

theorem Chained.ne_root {chain : List String} {scope : Scope} {sheet : String}
    (h : grid.Chained vocabulary root chain scope) (hnew : sheet ∉ chain) : sheet ≠ root := by
  rintro rfl
  exact hnew (List.mem_of_head? h.sheets.head)

/-- The chain with the sheet that a row of its last sheet refers to, which may be on it. -/
theorem Chained.refers_append {chain : List String} {scope : Scope} {target : String}
    (h : grid.Chained vocabulary root chain scope)
    (htarget : grid.Refers vocabulary root scope.sheet target) :
    (chain ++ [target]).IsChain (grid.Refers vocabulary root) := by
  refine List.isChain_append.2 ⟨h.refers, .singleton target, fun last hlast next hnext => ?_⟩
  rw [h.last] at hlast
  cases hlast
  cases hnext
  exact htarget

/-- A request of a row tells the row, and this refers to the requested sheet. -/
theorem refersAt_of_asks {chain : List String} {scope : Scope} {request : Request}
    (hroot : scope.isRoot = decide (scope.sheet = root))
    (h : grid.toGrid.Asks vocabulary chain scope request) :
    request.referrer = scope.sheet ∧
      grid.RefersAt vocabulary root scope.sheet request.row request.sheet := by
  obtain ⟨row, hrow, hrequest⟩ := h.exists_row
  rw [dataRows_toGrid, hroot] at hrow
  obtain ⟨number, hnumber, rfl⟩ := List.mem_map.1 hrow
  obtain ⟨hreferrer, hplace⟩ := Row.place_of_request? hrequest
  have htarget := (grid.row vocabulary.layout scope.sheet number).request?_toRow
    vocabulary scope number
  rw [hrequest, hroot] at htarget
  have hnumbered : request.row = number := hplace
  rw [hnumbered]
  exact ⟨hreferrer, by simpa [Int.mem_range_iff, Int.lt_add_one_iff] using hnumber, htarget.symm⟩

/-- Sheets are read below chains only, by induction on the nesting. -/
theorem chained_of_reads {chain : List String} {scope : Scope}
    (h : grid.toGrid.Reads vocabulary root chain scope) :
    grid.Chained vocabulary root chain scope := by
  induction h with
  | root listed reaches =>
    exact {
      sheets := .singleton listed
      last := rfl
      refers := .singleton root
      isRoot := (decide_eq_true rfl).symm
      handsText := handsText_rootScope root }
  | @nested chain scope request reads asked new listed reaches ih =>
    have hrefers : grid.Refers vocabulary root scope.sheet request.sheet :=
      ⟨request.row, (refersAt_of_asks ih.isRoot asked).2⟩
    have hne := ih.ne_root new
    obtain ⟨row, hrow, hrequest⟩ := asked.exists_row
    exact {
      sheets := ih.sheets.append listed new
      last := List.getLast?_concat
      refers := ih.refers_append hrefers
      isRoot := (decide_eq_false hne).symm
      handsText := (meaning_of_mem_dataRows ih.handsText hrow).2 request hrequest }

/-- What the first failure reports is so. -/
theorem confirms_of_failure {error : SchemaError}
    (h : grid.toGrid.Failure vocabulary root error) : grid.Confirms vocabulary root error := by
  cases h with
  | missingRoot missing => exact ⟨rfl, missing⟩
  | emptyRoot listed short =>
    have hfirst : vocabulary.layout.firstRow (root = root) = vocabulary.layout.rootFirstRow :=
      if_pos (decide_eq_true rfl)
    exact ⟨root, listed, rfl, hfirst ▸ short⟩
  | @circular chain scope request reads asked again =>
    have hchained := chained_of_reads reads
    have hrefers : grid.Refers vocabulary root scope.sheet request.sheet :=
      ⟨request.row, (refersAt_of_asks hchained.isRoot asked).2⟩
    refine ⟨?_, hchained.refers_append hrefers, chain, request.sheet, rfl, hchained.sheets.nodup,
      again⟩
    rw [List.head?_append, hchained.sheets.head, Option.some_or]
  | @unresolved chain scope request reads asked missing =>
    obtain ⟨hreferrer, hrefers⟩ := refersAt_of_asks (chained_of_reads reads).isRoot asked
    rw [hreferrer]
    exact ⟨request.sheet, scope.sheet, request.row, rfl, rfl, rfl, missing,
      ⟨chain, scope, reads, rfl⟩, hrefers⟩
  | @empty chain scope request reads asked new listed short =>
    have hfirst : vocabulary.layout.firstRow (request.sheet = root) =
        vocabulary.layout.referenceFirstRow :=
      if_neg (by simpa using (chained_of_reads reads).ne_root new)
    exact ⟨request.sheet, listed, rfl, hfirst ▸ short⟩

/-- Rows of texts have a meaning, so that only their requests fail. -/
theorem exists_cause_of_forest {content : Request → Except BuildError (Forest Node)}
    {scope : Scope} {error : BuildError} (htext : scope.HandsText)
    (hcontent : ∀ request, request.scope.HandsText → content request = .error error →
      ∃ cause, error = .schema cause)
    (h : grid.toGrid.forest vocabulary content scope = .error error) :
    ∃ cause, error = .schema cause := by
  obtain ⟨before, row, after, hrows, _, hrow⟩ := Grid.forest_eq_error_iff.1 h
  have hmem : row ∈ grid.toGrid.dataRows vocabulary scope.isRoot scope.sheet :=
    hrows ▸ List.mem_append_cons_self
  obtain ⟨hmeaning, hhands⟩ := meaning_of_mem_dataRows htext hmem
  rcases Row.entry_eq_error_iff.1 hrow with ⟨hnone, _⟩ | ⟨_, request, hr, hc⟩
  · rw [hmeaning] at hnone
    contradiction
  · exact hcontent request (hhands request hr) hc

/-- By induction on the sheets that are not being read. -/
theorem exists_cause_of_content {chain : List String} {request : Request} {error : BuildError}
    (htext : request.scope.HandsText)
    (h : grid.toGrid.content vocabulary chain request = .error error) :
    ∃ cause, error = .schema cause := by
  rcases Grid.content_eq_error_iff.1 h with ⟨_, rfl⟩ | ⟨_, _, rfl⟩ | ⟨_, _, _, rfl⟩ |
    ⟨hc, hs, _, hforest⟩
  · exact ⟨_, rfl⟩
  · exact ⟨_, rfl⟩
  · exact ⟨_, rfl⟩
  · exact exists_cause_of_forest htext (fun _ hinner => exists_cause_of_content hinner) hforest
termination_by (Build.unopened (grid.toGrid.source : Source Unit) chain).length
decreasing_by exact Build.length_unopened_lt _ hs hc

theorem exists_cause_of_schema {error : BuildError}
    (h : grid.toGrid.schema vocabulary root = .error error) : ∃ cause, error = .schema cause := by
  have htext := handsText_rootScope root
  rcases Grid.schema_eq_error_iff.1 h with ⟨_, rfl⟩ | ⟨_, _, rfl⟩ | ⟨_, _, hforest⟩
  · exact ⟨_, rfl⟩
  · exact ⟨_, rfl⟩
  · exact exists_cause_of_forest htext (fun _ hinner => exists_cause_of_content hinner) hforest

end TextGrid

/-- A build over a grid of texts that fails reports the first failure: the root sheet's own one, or
that of the first request that cannot be followed, all rows before having been entered on every
sheet that is being read. And what it says of sheets, rows and chains is so. -/
theorem build_eq_error_iff {σ : Type} (grid : TextGrid) (vocabulary : Vocabulary) (root : String)
    (state : σ) (journal : Journal) (error : BuildError) :
    (build grid.toGrid.source vocabulary root state journal).1 = .error error ↔
      ∃ cause, error = .schema cause ∧ grid.toGrid.Failure vocabulary root cause ∧
        grid.Confirms vocabulary root cause := by
  rw [build_grid]
  constructor
  · intro h
    obtain ⟨cause, rfl⟩ := TextGrid.exists_cause_of_schema h
    have hfailure := Grid.schema_eq_error_iff_failure.1 h
    exact ⟨cause, rfl, hfailure, TextGrid.confirms_of_failure hfailure⟩
  · rintro ⟨cause, rfl, hfailure, _⟩
    exact Grid.schema_eq_error_iff_failure.2 hfailure

namespace Diamond

section Reading

variable (second last : String)

/-- Nothing comes before the first row of the root sheet, which asks for `S`. -/
theorem asks_first : (grid second last).toGrid.Asks Twice.vocabulary ["R"] (rootScope "R")
    (request "R" 4 "S") :=
  ⟨[], _, _, rfl, nofun, rfl, rfl⟩

theorem asks_middle : (grid second last).toGrid.Asks Twice.vocabulary ["R", "S"]
    (request "R" 4 "S").scope (request "S" 2 "T") :=
  ⟨[], _, _, rfl, nofun, rfl, rfl⟩

/-- `T` is read before the second row of the root sheet. -/
theorem reads_last : (grid second last).toGrid.Reads Twice.vocabulary "R" ["R", "S", "T"]
    (request "S" 2 "T").scope := by
  have hroot : (grid second last).toGrid.Reads Twice.vocabulary "R" ["R"] (rootScope "R") :=
    .root (by decide : "R" ∈ ["R", "S", "T"]) (by decide : (4 : Int) ≤ 5)
  have hmiddle := hroot.nested (asks_first second last) (by decide : "S" ∉ ["R"])
    (by decide : "S" ∈ ["R", "S", "T"]) (by decide : (2 : Int) ≤ 2)
  exact hmiddle.nested (asks_middle second last) (by decide : "T" ∉ ["R", "S"])
    (by decide : "T" ∈ ["R", "S", "T"]) (by decide : (2 : Int) ≤ 2)

end Reading

/-- Of two references to missing sheets, the one on the nested sheet is come to first. -/
theorem failure_missing : (grid "U" "V").toGrid.Failure Twice.vocabulary "R"
    (.unresolvedReference "V" [] "T" (.cell (.int 2))) := by
  have hasked : (grid "U" "V").toGrid.Asks Twice.vocabulary ["R", "S", "T"]
      (request "S" 2 "T").scope (request "T" 2 "V") := ⟨[], _, _, rfl, nofun, rfl, rfl⟩
  have hfailure := Grid.Failure.unresolved (reads_last "U" "V") hasked (by decide)
  have hsimilar : (grid "U" "V").toGrid.suggestions (request "T" 2 "V").sheet = [] := by
    refine List.filter_eq_nil_iff.2 fun name hname => ?_
    rw [List.mem_mergeSort, List.mem_eraseDups] at hname
    revert name
    decide
  rwa [hsimilar] at hfailure

/-- A way that leads back is come to before the missing sheet that is named after it. -/
theorem failure_circular : (grid "U" "S").toGrid.Failure Twice.vocabulary "R"
    (.circularReference ["R", "S", "T", "S"]) := by
  have hasked : (grid "U" "S").toGrid.Asks Twice.vocabulary ["R", "S", "T"]
      (request "S" 2 "T").scope (request "T" 2 "S") := ⟨[], _, _, rfl, nofun, rfl, rfl⟩
  exact .circular (reads_last "U" "S") hasked (by decide)

end Diamond

/-- The first failure is reported, though it stands on a nested sheet and others come after it. -/
theorem build_eq_error_iff_diamond :
    let reports (grid : TextGrid) (cause : SchemaError) : Prop :=
      (build grid.toGrid.source Twice.vocabulary "R" () #[]).1 = .error (.schema cause)
    reports (Diamond.grid "U" "V") (.unresolvedReference "V" [] "T" (.cell (.int 2))) ∧
      reports (Diamond.grid "U" "S") (.circularReference ["R", "S", "T", "S"]) := by
  intro reports
  have hreports {grid : TextGrid} {cause : SchemaError}
      (hfailure : grid.toGrid.Failure Twice.vocabulary "R" cause) : reports grid cause :=
    (build_eq_error_iff ..).2 ⟨cause, rfl, hfailure, TextGrid.confirms_of_failure hfailure⟩
  exact ⟨hreports Diamond.failure_missing, hreports Diamond.failure_circular⟩

end SheetSchema
