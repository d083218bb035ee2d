import SheetSchema.Proofs.Building.Invariant
import SheetSchema.Proofs.Building.ScannedRows
import SheetSchema.Proofs.References.Reachability

/-! Which sheets a build has recalculated when it gives a tree, over any source: the root sheet and
those that references of the tree name. -/
namespace SheetSchema

namespace Build

variable {σ : Type} {source : Source σ} {vocabulary : Vocabulary} {before after : Progress σ}

theorem readRow_keeps (source : Source σ) (vocabulary : Vocabulary) (sheet : String) (number : Int)
    (recalculated : List String) :
    Keeps (fun p => p.recalculated = recalculated) (fun _ => True)
      (readRow source vocabulary sheet number) fun _ => True := by
  have hlook (col : Int) : Keeps (fun p => p.recalculated = recalculated) (fun _ => True)
      (look source sheet number col) fun _ => True := by
    intro p hp
    rw [run_look]
    exact ⟨hp, by split <;> exact True.intro⟩
  refine (Keeps.mapM (Q := fun _ => True) fun column _ => hlook _).bind fun hierarchy _ => ?_
  refine (hlook _).bind fun name _ => (hlook _).bind fun type _ => (hlook _).bind fun notes _ => ?_
  exact Keeps.pure True.intro

theorem mem_recalculated_of_openSheet {sheet : String} {firstRow extent : Int}
    (h : (openSheet source sheet firstRow).run before = (.ok extent, after)) (other : String) :
    other ∈ after.recalculated ↔ other ∈ before.recalculated ∨ other = sheet := by
  obtain ⟨extent, between, hextent, h⟩ := run_bind_eq_ok_iff.1 h
  rw [run_rowExtent] at hextent
  cases congrArg (·.2) hextent
  by_cases hlt : extent < firstRow
  · simp only [hlt, ↓reduceIte] at h
    cases h
  · simp only [hlt, ↓reduceIte] at h
    obtain ⟨_, done, hdone, h⟩ := run_bind_eq_ok_iff.1 h
    have hafter : done = after := congrArg (·.2) h
    rw [run_recalculate] at hdone
    rw [← hafter, ← (Prod.mk.inj hdone).2]
    by_cases hmem : sheet ∈ before.recalculated
    · simp only [hmem, ↓reduceIte]
      exact ⟨.inl, fun hother => hother.elim id fun heq => heq ▸ hmem⟩
    · simp only [hmem, ↓reduceIte]
      exact List.mem_append.trans (or_congr_right List.mem_singleton)

/-- What a row adds is what its entry names, if that is so of the contents of requests. -/
theorem mem_recalculated_of_readEntry {resolve : Request → BuildM σ (Forest Node)} {scope : Scope}
    (hresolve : ∀ request before children after,
      (resolve request).run before = (.ok children, after) → ∀ sheet,
        sheet ∈ after.recalculated ↔
          sheet ∈ before.recalculated ∨ sheet = request.sheet ∨ TextGrid.Names children sheet)
    {number : Int} {entry : Sketch.Entry}
    (h : (readEntry source vocabulary resolve scope number).run before = (.ok entry, after))
    (sheet : String) :
    sheet ∈ after.recalculated ↔
      sheet ∈ before.recalculated ∨ TextGrid.Names entry.2 sheet := by
  obtain ⟨row, seen, hread, hentered, hunasked⟩ := entered_of_readEntry h
  have hseen : seen.recalculated = before.recalculated := by
    have hkeeps := (readRow_keeps source vocabulary scope.sheet number before.recalculated before
      rfl).1
    rwa [hread] at hkeeps
  rw [← hseen]
  cases hr : row.request? vocabulary scope with
  | none =>
    have hnone : ¬TextGrid.Names entry.2 sheet := by
      rintro ⟨branch, hbranch, ht⟩
      obtain ⟨request, hrequest, _⟩ := hentered.exists_request hbranch ht
      rw [hr] at hrequest
      contradiction
    rw [hunasked hr]
    exact ⟨.inl, fun hcases => hcases.resolve_right hnone⟩
  | some request =>
    obtain ⟨node, children, htree, hchildren, htype⟩ := hentered.exists_tree hr
    have hnames : TextGrid.Names entry.2 sheet ↔
        sheet = request.sheet ∨ TextGrid.Names children sheet := by
      rw [htree]
      simp [TextGrid.Names, Forest.tree, Forest.branches, htype, eq_comm]
    rw [hnames]
    exact hresolve request seen children after hchildren sheet

theorem mem_recalculated_of_scan {resolve : Request → BuildM σ (Forest Node)} {scope : Scope}
    (hresolve : ∀ request before children after,
      (resolve request).run before = (.ok children, after) → ∀ sheet,
        sheet ∈ after.recalculated ↔
          sheet ∈ before.recalculated ∨ sheet = request.sheet ∨ TextGrid.Names children sheet)
    {firstRow lastRow : Int} {forest : Forest Node}
    (h : (scan source vocabulary resolve scope firstRow lastRow).run before = (.ok forest, after))
    (sheet : String) :
    sheet ∈ after.recalculated ↔ sheet ∈ before.recalculated ∨ TextGrid.Names forest sheet := by
  obtain ⟨entries, done, hentries, h⟩ := run_bind_eq_ok_iff.1 h
  obtain ⟨_, reported, hreport, h⟩ := run_bind_eq_ok_iff.1 h
  cases hreport
  cases h
  have hrows (numbers : List Int) (before : Progress σ) (entries : List Sketch.Entry)
      (h : (numbers.mapM (readEntry source vocabulary resolve scope)).run before =
        (.ok entries, done)) :
      sheet ∈ done.recalculated ↔
        sheet ∈ before.recalculated ∨ ∃ entry ∈ entries, TextGrid.Names entry.2 sheet := by
    induction numbers generalizing before entries with
    | nil =>
      rw [List.mapM_nil] at h
      cases h
      simp
    | cons number rest ih =>
      rw [List.mapM_cons] at h
      obtain ⟨entry, between, hentry, h⟩ := run_bind_eq_ok_iff.1 h
      obtain ⟨others, _, hothers, h⟩ := run_bind_eq_ok_iff.1 h
      cases h
      rw [ih between others hothers, mem_recalculated_of_readEntry hresolve hentry]
      simp [or_assoc]
  have hnames : (∃ entry ∈ entries, TextGrid.Names entry.2 sheet) ↔
      TextGrid.Names (Sketch.assemble scope.sheet entries) sheet := by
    constructor
    · rintro ⟨entry, hentry, branch, hbranch, ht⟩
      have hgroup : branch.1.type ≠ .structural := by simp [ht]
      exact ⟨branch, (Sketch.mem_branches_assemble hgroup).2 ⟨entry, hentry, hbranch⟩, ht⟩
    · rintro ⟨branch, hbranch, ht⟩
      have hgroup : branch.1.type ≠ .structural := by simp [ht]
      obtain ⟨entry, hentry, hbranch⟩ := (Sketch.mem_branches_assemble hgroup).1 hbranch
      exact ⟨entry, hentry, branch, hbranch, ht⟩
  rw [← hnames]
  exact hrows _ before entries hentries

theorem mem_recalculated_of_resolve (source : Source σ) (vocabulary : Vocabulary)
    (chain : List String) (request : Request) (before : Progress σ) (children : Forest Node)
    (after : Progress σ)
    (h : (resolve source vocabulary chain request).run before = (.ok children, after))
    (sheet : String) :
    sheet ∈ after.recalculated ↔
      sheet ∈ before.recalculated ∨ sheet = request.sheet ∨ TextGrid.Names children sheet := by
  rw [resolve] at h
  by_cases hc : request.sheet ∈ chain
  · simp only [hc, ↓reduceDIte] at h
    cases h
  · by_cases hs : request.sheet ∈ source.sheets
    · simp only [hc, hs, ↓reduceDIte] at h
      obtain ⟨lastRow, opened, hopen, h⟩ := run_bind_eq_ok_iff.1 h
      obtain ⟨_, reported, hreport, h⟩ := run_bind_eq_ok_iff.1 h
      cases hreport
      have hinner (inner : Request) := mem_recalculated_of_resolve source vocabulary
        (chain ++ [request.sheet]) inner
      rw [mem_recalculated_of_scan hinner h sheet]
      exact (or_congr_left (mem_recalculated_of_openSheet hopen sheet)).trans or_assoc
    · simp only [hc, hs, ↓reduceDIte] at h
      cases h
termination_by (unopened source chain).length
decreasing_by exact length_unopened_lt source hs hc

end Build

/-- When a build gives a tree, it has recalculated the root sheet and the sheets that the tree
names, and no others. -/
theorem mem_recalculated_of_build {σ : Type} {source : Source σ} {vocabulary : Vocabulary}
    {root : String} {state : σ} {journal : Journal} {schema : Schema} {progress : Progress σ}
    (h : build source vocabulary root state journal = (.ok schema, progress)) (sheet : String) :
    sheet ∈ progress.recalculated ↔ sheet = root ∨ TextGrid.Names schema.forest sheet := by
  have hlook {cell : Int × Int} {value : Value} {before after : Progress σ}
      (h : (Build.look source root cell.1 cell.2).run before = (.ok value, after)) :
      after.recalculated = before.recalculated := by
    rw [Build.run_look] at h
    rw [← (Prod.mk.inj h).2]
  obtain ⟨lastRow, opened, hopen, h⟩ := run_bind_eq_ok_iff.1 h
  obtain ⟨description, described, hdescription, h⟩ := run_bind_eq_ok_iff.1 h
  obtain ⟨version, versioned, hversion, h⟩ := run_bind_eq_ok_iff.1 h
  obtain ⟨forest, scanned, hscan, h⟩ := run_bind_eq_ok_iff.1 h
  obtain ⟨_, reported, hreport, h⟩ := run_bind_eq_ok_iff.1 h
  cases hreport
  cases h
  unfold Build.openRoot at hopen
  by_cases hroot : root ∈ source.sheets
  · simp only [hroot, not_true_eq_false, ↓reduceIte] at hopen
    change sheet ∈ scanned.recalculated ↔ _
    rw [Build.mem_recalculated_of_scan (Build.mem_recalculated_of_resolve source vocabulary [root])
      hscan, hlook hversion, hlook hdescription, Build.mem_recalculated_of_openSheet hopen]
    simp
  · simp only [hroot, not_false_eq_true, ↓reduceIte] at hopen
    cases hopen

end SheetSchema
