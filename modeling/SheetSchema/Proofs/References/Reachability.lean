import SheetSchema.Proofs.References.BuildSuccess
import SheetSchema.Proofs.Trees.Assembly
import SheetSchema.Proofs.Trees.RowNode

/-! The references in a tree that is built over a grid of texts name exactly the sheets that can be
reached from its sheet. Every reference is followed, also to a sheet that was met before. -/
namespace SheetSchema

open Relation

namespace TextGrid

variable {grid : TextGrid} {vocabulary : Vocabulary} {root : String}

/-- The sheets that references name anywhere in a forest. -/
def Names (forest : Forest Node) (sheet : String) : Prop :=
  ∃ branch ∈ forest.branches, branch.1.type = .reference (.str sheet)

theorem names_iff_reachable {chain : List String} {scope : Scope} {forest : Forest Node}
    (h : grid.toGrid.forest vocabulary (grid.toGrid.content vocabulary chain) scope = .ok forest)
    (hchain : root ∈ chain) (hroot : scope.isRoot = decide (scope.sheet = root)) {sheet : String} :
    Names forest sheet ↔ TransGen (grid.Refers vocabulary root) scope.sheet sheet := by
  revert hchain hroot
  refine Grid.forest_induction (P := fun chain scope forest => root ∈ chain →
    scope.isRoot = decide (scope.sheet = root) →
      (Names forest sheet ↔ TransGen (grid.Refers vocabulary root) scope.sheet sheet)) ?_ h
  intro chain scope entries hentries hchain hroot
  have hinner (request : Request) (children : Forest Node)
      (hc : grid.toGrid.content vocabulary chain request = .ok children ∧
        (root ∈ chain ++ [request.sheet] →
          request.scope.isRoot = decide (request.scope.sheet = root) →
            (Names children sheet ↔
              TransGen (grid.Refers vocabulary root) request.scope.sheet sheet))) :
      Names children sheet ↔ TransGen (grid.Refers vocabulary root) request.sheet sheet := by
    -- The root is on the chain, so no content is built for it.
    have hne : request.sheet ≠ root := by
      rintro rfl
      exact (Grid.content_eq_ok_iff.1 hc.1).1 hchain
    exact hc.2 (List.mem_append_left _ hchain) (by simp [Request.scope, hne])
  rw [TransGen.head'_iff]
  constructor
  · rintro ⟨branch, hbranch, ht⟩
    have hgroup : branch.1.type ≠ .structural := by simp [ht]
    obtain ⟨entry, hentry, hbranch⟩ := (Sketch.mem_branches_assemble hgroup).1 hbranch
    obtain ⟨row, hmem, hrow⟩ := exists_of_forall₂_right hentries hentry
    obtain ⟨request, hr, children, hchildren, hcases⟩ := hrow.exists_request hbranch ht
    refine ⟨request.sheet, (refers_iff_exists_request hroot).2 ⟨row, hmem, request, hr, rfl⟩, ?_⟩
    rcases hcases with ⟨htarget, _⟩ | hbelow
    · cases htarget
      exact .refl
    · exact ((hinner request children hchildren).1 ⟨branch, hbelow, ht⟩).to_reflTransGen
  · rintro ⟨next, hrefers, hreach⟩
    obtain ⟨row, hmem, request, hr, rfl⟩ := (refers_iff_exists_request hroot).1 hrefers
    obtain ⟨entry, hentry, hrow⟩ := exists_of_forall₂_left hentries hmem
    obtain ⟨node, children, htree, hchildren, htype⟩ := hrow.exists_tree hr
    have hnames (branch : Node × Forest Node) (ht : branch.1.type = .reference (.str sheet))
        (hb : branch ∈ (Forest.tree node children).branches) :
        Names (Sketch.assemble scope.sheet entries) sheet := by
      rw [← htree] at hb
      exact ⟨branch, (Sketch.mem_branches_assemble (by simp [ht])).2 ⟨entry, hentry, hb⟩, ht⟩
    rcases reflTransGen_iff_eq_or_transGen.1 hreach with rfl | hreach
    · exact hnames (node, children) htype (by simp [Forest.tree, Forest.branches])
    · obtain ⟨branch, hb, ht⟩ := (hinner request children hchildren).2 hreach
      exact hnames branch ht (by simp [Forest.tree, Forest.branches, hb])

end TextGrid

end SheetSchema
