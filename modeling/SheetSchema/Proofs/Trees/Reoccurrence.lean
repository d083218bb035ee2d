import SheetSchema.Proofs.Trees.Assembly
import SheetSchema.Proofs.Trees.RowNode

/-! A sheet is built anew for every reference to it, below different chains and with different
sub-processes and patterns handed over. All that these can reach is the descriptions: two
forests that are built for one sheet agree in everything else. -/
namespace SheetSchema

variable {grid : Grid} {vocabulary : Vocabulary}

/-- A row is entered alike in two scopes of its sheet if alike forests are built for its
requests. -/
theorem Row.Entered.alike {scope other : Scope} (h : scope.Alike other)
    {built built' : Request → Forest Node → Prop}
    (hbuilt : ∀ request request' children children', request.sheet = request'.sheet →
      built request children → built' request' children' → children.Alike children')
    {row : Row} {entry entry' : Sketch.Entry} (he : row.Entered vocabulary scope built entry)
    (he' : row.Entered vocabulary other built' entry') : entry.Alike entry' := by
  have hnode := row.plain_node?_congr (.refl vocabulary) h
  have hrequest := row.request?_alike (.refl vocabulary) h
  cases he with
  | bare _ hn =>
    cases he' with
    | bare _ hn' => exact ⟨rfl, rfl⟩
    | field _ hn' _ => simp [hn, hn'] at hnode
    | reference _ hn' _ _ => simp [hn, hn'] at hnode
  | field _ hn hr =>
    cases he' with
    | bare _ hn' => simp [hn, hn'] at hnode
    | field _ hn' _ =>
      simp only [hn, hn', Option.map_some, Option.some.injEq] at hnode
      exact ⟨rfl, Forest.alike_tree hnode rfl⟩
    | reference _ hn' hr' _ =>
      rw [hr, hr'] at hrequest
      cases hrequest
  | reference _ hn hr hchildren =>
    cases he' with
    | bare _ hn' => simp [hn, hn'] at hnode
    | field _ _ hr' =>
      rw [hr, hr'] at hrequest
      cases hrequest
    | reference _ hn' hr' hchildren' =>
      simp only [hn, hn', Option.map_some, Option.some.injEq] at hnode
      rw [hr, hr'] at hrequest
      cases hrequest with
      | some halike =>
        exact ⟨rfl, Forest.alike_tree hnode (hbuilt _ _ _ _ halike.sheet hchildren hchildren')⟩

namespace Grid

theorem plain_forest_eq {chain : List String} {scope : Scope} {forest : Forest Node}
    (h : grid.forest vocabulary (grid.content vocabulary chain) scope = .ok forest)
    {chain' : List String} {other : Scope} {forest' : Forest Node} (halike : scope.Alike other)
    (h' : grid.forest vocabulary (grid.content vocabulary chain') other = .ok forest') :
    forest.map Node.plain = forest'.map Node.plain := by
  revert chain' other forest'
  refine forest_induction (P := fun _ scope forest => ∀ {chain' other forest'}, scope.Alike other →
    grid.forest vocabulary (grid.content vocabulary chain') other = .ok forest' →
      forest.map Node.plain = forest'.map Node.plain) ?_ h
  intro chain scope entries hentries chain' other forest' halike h'
  obtain ⟨entries', hentries', rfl⟩ := forest_eq_ok_iff.1 h'
  rw [halike.sheet, halike.isRoot] at hentries
  rw [halike.sheet]
  refine Sketch.alike_assemble ?_
  refine forall₂_of_common (fun row entry entry' he he' => ?_) hentries hentries'
  refine Row.Entered.alike halike (fun request request' children children' hs hb hb' => ?_) he he'
  have hinner : request.scope.Alike request'.scope := ⟨hs, rfl⟩
  exact hb.2 hinner (content_eq_ok_iff.1 hb').2.2.2

/-- The contents that are built for one sheet agree but for descriptions. -/
theorem plain_content_eq {chain chain' : List String} {request request' : Request}
    {children children' : Forest Node} (hsheet : request.sheet = request'.sheet)
    (h : grid.content vocabulary chain request = .ok children)
    (h' : grid.content vocabulary chain' request' = .ok children') :
    children.map Node.plain = children'.map Node.plain := by
  have halike : request.scope.Alike request'.scope := ⟨hsheet, rfl⟩
  exact plain_forest_eq (content_eq_ok_iff.1 h).2.2.2 halike (content_eq_ok_iff.1 h').2.2.2

/-- What stands below a reference has been built for the sheet that it names. -/
theorem exists_content_of_reference {chain : List String} {scope : Scope} {forest : Forest Node}
    (h : grid.forest vocabulary (grid.content vocabulary chain) scope = .ok forest)
    {branch : Node × Forest Node} (hbranch : branch ∈ forest.branches) {target : Value}
    (ht : branch.1.type = .reference target) :
    ∃ chain' request, target = .str request.sheet ∧
      grid.content vocabulary chain' request = .ok branch.2 := by
  revert branch
  refine forest_induction (P := fun _ _ forest => ∀ {branch}, branch ∈ forest.branches →
    branch.1.type = .reference target → ∃ chain' request, target = .str request.sheet ∧
      grid.content vocabulary chain' request = .ok branch.2) ?_ h
  intro chain scope entries hentries branch hbranch ht
  have hgroup : branch.1.type ≠ .structural := by simp [ht]
  obtain ⟨entry, hentry, hbranch⟩ := (Sketch.mem_branches_assemble hgroup).1 hbranch
  obtain ⟨row, _, hrow⟩ := exists_of_forall₂_right hentries hentry
  obtain ⟨request, _, children, hchildren, hcases⟩ := hrow.exists_request hbranch ht
  rcases hcases with ⟨htarget, rfl⟩ | hbelow
  · exact ⟨chain, request, htarget, hchildren.1⟩
  · exact hchildren.2 hbelow ht

end Grid

end SheetSchema
