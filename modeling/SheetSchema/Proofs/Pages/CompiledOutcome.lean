import SheetSchema.Proofs.Pages.CompiledPages
import SheetSchema.Proofs.Pages.Completion
import SheetSchema.Proofs.References.FirstFailure

/-! When compiling fails: exactly if building the tree does, whatever the source is. The pages of a
tree that was built can always be written. -/
namespace SheetSchema

namespace Compile

variable {σ : Type} {source : Source σ} {settings : Settings} {asked : Value} {state : σ}
  {journal : Journal}

theorem pages_eq_error {error : CompileError}
    (h : (tree source settings asked state journal).1 = .error error) :
    (pages source settings asked state journal).1 = .error error := by
  unfold pages
  rcases htree : tree source settings asked state journal with ⟨outcome, compilation⟩
  rw [htree] at h
  subst h
  rfl

theorem exists_pages {root : String} {schema : Schema}
    (h : (tree source settings asked state journal).1 = .ok (root, schema)) :
    ∃ compiled, (pages source settings asked state journal).1 = .ok compiled ∧
      compiled.schema = schema := by
  obtain ⟨vocabulary, before, _, _, hbuild⟩ := exists_build_of_tree h
  obtain ⟨compiled, hcompiled, hschema, _⟩ := pagesOf_wellTyped (fun _ => True)
    (wellTyped_build hbuild) (fun _ _ _ => trivial)
    (tree source settings asked state journal).2.journal
  refine ⟨compiled, ?_, hschema⟩
  unfold pages
  simp only [h, hcompiled, Except.mapError]

end Compile

/-- Compiling fails if and only if building the tree fails, with the same error, and otherwise it
gives the schema that is built. What is built can be flattened onto any pages. -/
theorem compiled_iff_tree {σ : Type} (source : Source σ) (settings : Settings) (asked : Value)
    (state : σ) (journal : Journal) :
    (∀ error, (Compile.pages source settings asked state journal).1 = .error error ↔
      (Compile.tree source settings asked state journal).1 = .error error) ∧
    (∀ schema,
      (∃ compiled, (Compile.pages source settings asked state journal).1 = .ok compiled ∧
        compiled.schema = schema) ↔
      ∃ root, (Compile.tree source settings asked state journal).1 = .ok (root, schema)) ∧
    ∀ vocabulary root state' journal' schema,
      (build source vocabulary root state' journal').1 = .ok schema →
        ∀ flattening, (flattenFrom (.str root) schema.forest.vertices flattening).1 = .ok () := by
  refine ⟨fun error => ⟨fun h => ?_, Compile.pages_eq_error⟩, fun schema => ⟨?_, ?_⟩, ?_⟩
  · rcases htree : (Compile.tree source settings asked state journal).1 with other | ⟨root, schema⟩
    · rw [Compile.pages_eq_error htree] at h
      cases h
      rfl
    · obtain ⟨compiled, hcompiled, _⟩ := Compile.exists_pages htree
      rw [hcompiled] at h
      contradiction
  · rintro ⟨compiled, hcompiled, rfl⟩
    rcases htree : (Compile.tree source settings asked state journal).1 with other | ⟨root, schema⟩
    · rw [Compile.pages_eq_error htree] at hcompiled
      contradiction
    · obtain ⟨other, hother, rfl⟩ := Compile.exists_pages htree
      rw [hcompiled] at hother
      cases hother
      exact ⟨root, rfl⟩
  · rintro ⟨root, htree⟩
    exact Compile.exists_pages htree
  · intro vocabulary root state' journal' schema hbuild flattening
    obtain ⟨after, hafter, _⟩ := flattenFrom_wellTyped (fun _ => True) (wellTyped_build hbuild)
      (fun _ _ _ => trivial) flattening
    rw [hafter]

/-- A tree is compiled with its pages, and the failure of another one is reported for its pages as for
itself. -/
theorem compiled_iff_tree_diamond :
    (∃ compiled,
      (Compile.pages (Diamond.grid "T" "int").toGrid.source Twice.settings .null () #[]).1 =
        .ok compiled ∧ compiled.schema = Diamond.schema) ∧
    (Compile.pages (Diamond.grid "U" "V").toGrid.source Twice.settings .null () #[]).1 =
      .error (.schema "R" (.unresolvedReference "V" [] "T" (.cell (.int 2)))) := by
  have htree := Compile.tree_grid (Diamond.grid "T" "int").toGrid Twice.vocabulary_settings
    Twice.rootOf_settings () #[]
  rw [Diamond.schema_eq] at htree
  have hfails := Compile.tree_grid (Diamond.grid "U" "V").toGrid Twice.vocabulary_settings
    Twice.rootOf_settings () #[]
  rw [Grid.schema_eq_error_iff_failure.2 Diamond.failure_missing] at hfails
  obtain ⟨-, hschema, -⟩ := compiled_iff_tree (Diamond.grid "T" "int").toGrid.source
    Twice.settings .null () #[]
  obtain ⟨herror, -, -⟩ := compiled_iff_tree (Diamond.grid "U" "V").toGrid.source
    Twice.settings .null () #[]
  exact ⟨(hschema _).2 ⟨"R", htree⟩, (herror _).2 hfails⟩

end SheetSchema
