import SheetSchema.Proofs.Trees.Paths

/-! Forests that differ in the order of siblings. The order in which the entries of a sheet come
decides on this order and on nothing else, since entering the one of two entries and then the other
makes the same groups either way. -/
namespace SheetSchema

namespace Forest

variable {α β : Type}

/-- Two forests that differ at most in the order of siblings, on any level. -/
inductive Shuffled : Forest α → Forest α → Prop
  | nil : Shuffled .nil .nil
  | node (value : α) {children children' rest rest' : Forest α}
      (below : Shuffled children children') (after : Shuffled rest rest') :
      Shuffled (.node value children rest) (.node value children' rest')
  | swap (value : α) (children : Forest α) (other : α) (below rest : Forest α) :
      Shuffled (.node value children (.node other below rest))
        (.node other below (.node value children rest))
  | trans {a b c : Forest α} (left : Shuffled a b) (right : Shuffled b c) : Shuffled a c

namespace Shuffled

theorem refl (forest : Forest α) : forest.Shuffled forest := by
  induction forest with
  | nil => exact .nil
  | node value children rest ihc ihr => exact .node value ihc ihr

variable {a b c d : Forest α}

theorem symm (h : a.Shuffled b) : b.Shuffled a := by
  induction h with
  | nil => exact .nil
  | node value _ _ ihc ihr => exact .node value ihc ihr
  | swap value children other below rest => exact .swap other below value children rest
  | trans _ _ ihl ihr => exact ihr.trans ihl

theorem append_right (h : a.Shuffled b) (c : Forest α) : (a ++ c).Shuffled (b ++ c) := by
  induction h with
  | nil => exact refl c
  | node value below _ _ ihr => exact .node value below ihr
  | swap value children other below rest => exact .swap value children other below (rest ++ c)
  | trans _ _ ihl ihr => exact ihl.trans ihr

theorem append_left (a : Forest α) (h : b.Shuffled c) : (a ++ b).Shuffled (a ++ c) := by
  induction a with
  | nil => exact h
  | node value children rest _ ih => exact .node value (refl children) ih

/-- A tree can be moved behind the trees after it. -/
theorem node_append (value : α) (children a b : Forest α) :
    (Forest.node value children (a ++ b)).Shuffled (a ++ .node value children b) := by
  induction a with
  | nil => exact refl _
  | node other below rest _ ih =>
    exact (swap value children other below _).trans (.node other (refl below) ih)

theorem append_comm (a b : Forest α) : (a ++ b).Shuffled (b ++ a) := by
  induction a with
  | nil => exact (append_nil b).symm ▸ refl b
  | node value children rest _ ih =>
    exact (Shuffled.node value (refl children) ih).trans (node_append value children b rest)

theorem map (f : α → β) (h : a.Shuffled b) : (a.map f).Shuffled (b.map f) := by
  induction h with
  | nil => exact .nil
  | node value _ _ ihc ihr => exact .node (f value) ihc ihr
  | swap value children other below rest => exact .swap (f value) _ (f other) _ _
  | trans _ _ ihl ihr => exact ihl.trans ihr

theorem eq_nil_iff (h : a.Shuffled b) : a = .nil ↔ b = .nil := by
  induction h with
  | nil => rfl
  | node _ _ _ _ _ => simp
  | swap _ _ _ _ _ => simp
  | trans _ _ ihl ihr => exact ihl.trans ihr

/-- What a list tells of a forest tree by tree, one after another, is shuffled with the trees. -/
theorem perm {ι γ : Type} {f : ι → Forest α → List γ}
    (hnode : ∀ i value children rest,
      f i (.node value children rest) = f i (tree value children) ++ f i rest)
    (htree : ∀ value children children', children.Shuffled children' →
      (∀ i, (f i children).Perm (f i children')) →
        ∀ i, (f i (tree value children)).Perm (f i (tree value children')))
    (h : a.Shuffled b) (i : ι) : (f i a).Perm (f i b) := by
  induction h generalizing i with
  | nil => exact List.Perm.refl _
  | node value below _ ihc ihr =>
    rw [hnode, hnode]
    exact (htree value _ _ below ihc i).append (ihr i)
  | swap value children other below rest =>
    rw [hnode, hnode, hnode i other, hnode i value]
    exact List.perm_append_comm_assoc ..
  | trans _ _ ihl ihr => exact (ihl i).trans (ihr i)

theorem exists_branch (h : a.Shuffled b) {branch : α × Forest α} (hbranch : branch ∈ a.branches) :
    ∃ children, (branch.1, children) ∈ b.branches ∧ branch.2.Shuffled children := by
  induction h generalizing branch with
  | nil => simp [branches] at hbranch
  | @node value _ _ _ _ below _ ihc ihr =>
    simp only [branches, List.mem_cons, List.mem_append] at hbranch ⊢
    rcases hbranch with rfl | hbranch | hbranch
    · exact ⟨_, .inl rfl, below⟩
    · obtain ⟨children, hmem, hchildren⟩ := ihc hbranch
      exact ⟨children, .inr (.inl hmem), hchildren⟩
    · obtain ⟨children, hmem, hchildren⟩ := ihr hbranch
      exact ⟨children, .inr (.inr hmem), hchildren⟩
  | swap value children other below rest =>
    refine ⟨branch.2, ?_, refl _⟩
    simp only [branches, List.mem_cons, List.mem_append] at hbranch ⊢
    tauto
  | trans _ _ ihl ihr =>
    obtain ⟨children, hmem, hchildren⟩ := ihl hbranch
    obtain ⟨children', hmem', hchildren'⟩ := ihr hmem
    exact ⟨children', hmem', hchildren.trans hchildren'⟩

end Shuffled

end Forest

namespace Sketch

open Forest

theorem paths_perm {sketch other : Forest SketchNode} (h : sketch.Shuffled other) :
    (paths sketch).Perm (paths other) := by
  have hnode (_ : Unit) (value : SketchNode) (children rest : Forest SketchNode) :
      paths (.node value children rest) = paths (tree value children) ++ paths rest :=
    paths_append (tree value children) rest
  refine h.perm hnode (fun value children children' _ hchildren _ => ?_) ()
  cases value with
  | group name =>
    simp only [tree, paths, List.append_nil]
    exact ((hchildren ()).map _).cons _
  | field node => exact List.Perm.refl _

section Enter

variable {name : Value} {path other : List Value} {inside inside' : Forest SketchNode}
  {value : SketchNode} {children rest : Forest SketchNode}

theorem enter_top (inside sketch : Forest SketchNode) :
    enter [] inside sketch = sketch ++ inside := by
  rw [enter]

theorem nest_cons (name : Value) (path : List Value) (inside : Forest SketchNode) :
    nest (name :: path) inside = .node (.group name) (nest path inside) .nil := rfl

theorem enter_nil (path : List Value) (inside : Forest SketchNode) :
    enter path inside .nil = nest path inside := by
  cases path with
  | nil => rw [enter_top, nil_append, nest, List.foldr_nil]
  | cons name path => rw [enter]; simp

theorem enter_of_isGroup (h : value.isGroup name = true) :
    enter (name :: path) inside (.node value children rest) =
      .node value (enter path inside children) rest := by
  rw [enter, if_pos h]

theorem enter_of_not_isGroup (h : ¬value.isGroup name = true) :
    enter (name :: path) inside (.node value children rest) =
      .node value children (enter (name :: path) inside rest) := by
  rw [enter, if_neg h]

theorem nest_shuffled (path : List Value) (h : inside.Shuffled inside') :
    (nest path inside).Shuffled (nest path inside') := by
  induction path with
  | nil => exact h
  | cons name path ih => exact .node (.group name) ih .nil

/-- Entering shuffled forests. -/
theorem enter_shuffled_inside (path : List Value) (sketch : Forest SketchNode)
    (h : inside.Shuffled inside') :
    (enter path inside sketch).Shuffled (enter path inside' sketch) := by
  induction sketch generalizing path with
  | nil =>
    rw [enter_nil, enter_nil]
    exact nest_shuffled path h
  | node value children rest ihc ihr =>
    cases path with
    | nil =>
      rw [enter_top, enter_top]
      exact .append_left _ h
    | cons name path =>
      by_cases hgroup : value.isGroup name = true
      · rw [enter_of_isGroup hgroup, enter_of_isGroup hgroup]
        exact .node value (ihc path) (.refl rest)
      · rw [enter_of_not_isGroup hgroup, enter_of_not_isGroup hgroup]
        exact .node value (.refl children) (ihr (name :: path))

/-- Entering into two trees that have traded places, of which at most one is the group that is
entered. -/
theorem enter_swap (path : List Value) (inside : Forest SketchNode) (value : SketchNode)
    (children : Forest SketchNode) (second : SketchNode) (below rest : Forest SketchNode)
    (honce : ∀ name ∈ path.head?, ¬(value.isGroup name = true ∧ second.isGroup name = true)) :
    (enter path inside (.node value children (.node second below rest))).Shuffled
      (enter path inside (.node second below (.node value children rest))) := by
  cases path with
  | nil =>
    rw [enter_top, enter_top]
    exact (Shuffled.swap value children second below rest).append_right inside
  | cons name path =>
    have honce := honce name rfl
    by_cases hgroup : value.isGroup name = true
    · have hsecond : ¬second.isGroup name = true := fun hsecond => honce ⟨hgroup, hsecond⟩
      rw [enter_of_isGroup hgroup, enter_of_not_isGroup hsecond, enter_of_isGroup hgroup]
      exact .swap ..
    · by_cases hsecond : second.isGroup name = true
      · rw [enter_of_not_isGroup hgroup, enter_of_isGroup hsecond, enter_of_isGroup hsecond]
        exact .swap ..
      · rw [enter_of_not_isGroup hgroup, enter_of_not_isGroup hsecond,
          enter_of_not_isGroup hsecond, enter_of_not_isGroup hgroup]
        exact .swap ..

/-- Entering into shuffled sketches, in which no group is there twice. -/
theorem enter_shuffled (hpath : IsTexts path) (inside : Forest SketchNode)
    {sketch sketch' : Forest SketchNode} (hnodup : (paths sketch).Nodup)
    (h : sketch.Shuffled sketch') :
    (enter path inside sketch).Shuffled (enter path inside sketch') := by
  induction h generalizing path with
  | nil => exact .refl _
  | @node value children children' rest rest' below after ihc ihr =>
    cases path with
    | nil =>
      rw [enter_top, enter_top]
      exact (Shuffled.node value below after).append_right inside
    | cons name path =>
      obtain ⟨hname, hbelow⟩ := List.forall_mem_cons.1 hpath
      by_cases hgroup : value.isGroup name = true
      · rw [enter_of_isGroup hgroup, enter_of_isGroup hgroup]
        obtain rfl := eq_of_isGroup hname hgroup
        exact .node _ (ihc hbelow (nodup_paths_group_iff.1 hnodup).1) after
      · rw [enter_of_not_isGroup hgroup, enter_of_not_isGroup hgroup]
        exact .node value below (ihr hpath (nodup_paths_rest hnodup))
  | swap value children second below rest =>
    refine enter_swap path inside value children second below rest ?_
    rintro name hhead ⟨hgroup, hsecond⟩
    -- two groups of one name would have the same path
    have hname := hpath name (List.mem_of_mem_head? hhead)
    obtain rfl := eq_of_isGroup hname hgroup
    obtain rfl := eq_of_isGroup hname hsecond
    exact (nodup_paths_group_iff.1 hnodup).2.1 (List.mem_cons_self ..)
  | trans left _ ihl ihr =>
    exact (ihl hpath hnodup).trans (ihr hpath ((paths_perm left).nodup hnodup))

/-- What has no groups can be added before or after something is entered. -/
theorem enter_append (hinside : paths inside = []) (path : List Value)
    (added sketch : Forest SketchNode) :
    (enter path added (sketch ++ inside)).Shuffled (enter path added sketch ++ inside) := by
  induction sketch generalizing path with
  | nil =>
    rw [enter_nil, nil_append]
    refine Shuffled.trans ?_ (.append_comm inside (nest path added))
    induction inside with
    | nil => exact enter_nil path added ▸ .refl _
    | node value children rest _ ih =>
      cases value with
      | group name => simp [paths] at hinside
      | field node =>
        cases path with
        | nil => exact enter_top added _ ▸ .refl _
        | cons name path =>
          have hfield : ¬(SketchNode.field node).isGroup name = true := Bool.false_ne_true
          rw [enter_of_not_isGroup hfield]
          exact .node _ (.refl children) (ih hinside)
  | node value children rest ihc ihr =>
    cases path with
    | nil =>
      rw [enter_top, enter_top, append_assoc, append_assoc]
      exact .append_left _ (.append_comm inside added)
    | cons name path =>
      rw [node_append]
      by_cases hgroup : value.isGroup name = true
      · rw [enter_of_isGroup hgroup, enter_of_isGroup hgroup]
        exact .refl _
      · rw [enter_of_not_isGroup hgroup, enter_of_not_isGroup hgroup]
        exact .node value (.refl children) (ihr (name :: path))

/-- Two forests without groups can be entered in either order. -/
theorem enter_comm (hpath : IsTexts path) (hother : IsTexts other) (hinside : paths inside = [])
    (hinside' : paths inside' = []) (sketch : Forest SketchNode) :
    (enter path inside (enter other inside' sketch)).Shuffled
      (enter other inside' (enter path inside sketch)) := by
  induction path generalizing other sketch with
  | nil =>
    rw [enter_top, enter_top]
    exact (enter_append hinside other inside' sketch).symm
  | cons name path ih =>
    cases other with
    | nil =>
      rw [enter_top, enter_top]
      exact enter_append hinside' (name :: path) inside sketch
    | cons second other =>
      obtain ⟨hname, hbelow⟩ := List.forall_mem_cons.1 hpath
      obtain ⟨hsecond, hbelow'⟩ := List.forall_mem_cons.1 hother
      induction sketch with
      | nil =>
        rw [enter_nil, enter_nil, nest_cons, nest_cons]
        by_cases heq : name = second
        · subst heq
          have hcomm := ih hbelow hbelow' .nil
          rw [enter_nil, enter_nil] at hcomm
          rw [enter_of_isGroup (isGroup_group hname), enter_of_isGroup (isGroup_group hname)]
          exact .node _ hcomm .nil
        · rw [enter_of_not_isGroup (not_isGroup_of_ne hname heq),
            enter_of_not_isGroup (not_isGroup_of_ne hsecond (Ne.symm heq)), enter_nil, enter_nil]
          exact .swap ..
      | node value children rest _ ihr =>
        by_cases hgroup : value.isGroup name = true
        · by_cases hgroup' : value.isGroup second = true
          · -- both paths begin with this group
            obtain rfl := eq_of_isGroup hname hgroup
            obtain rfl := SketchNode.group.inj (eq_of_isGroup hsecond hgroup')
            simp only [enter_of_isGroup hgroup]
            exact .node _ (ih hbelow hbelow' children) (.refl rest)
          · rw [enter_of_not_isGroup hgroup', enter_of_isGroup hgroup, enter_of_isGroup hgroup,
              enter_of_not_isGroup hgroup']
            exact .refl _
        · by_cases hgroup' : value.isGroup second = true
          · rw [enter_of_isGroup hgroup', enter_of_not_isGroup hgroup,
              enter_of_not_isGroup hgroup, enter_of_isGroup hgroup']
            exact .refl _
          · rw [enter_of_not_isGroup hgroup', enter_of_not_isGroup hgroup,
              enter_of_not_isGroup hgroup, enter_of_not_isGroup hgroup']
            exact .node value (.refl children) ihr

end Enter

section Entries

variable {sketch sketch' : Forest SketchNode} {entries entries' : List Entry}

/-- Two entries under the same path, with forests that are shuffled. -/
structure Entry.Shuffled (entry other : Entry) : Prop where
  path : entry.1 = other.1
  forest : entry.2.Shuffled other.2

theorem enterAll_shuffled (hentries : ∀ entry ∈ entries, IsTexts entry.1)
    (h : List.Forall₂ Entry.Shuffled entries entries') (hnodup : (paths sketch).Nodup)
    (hsketch : sketch.Shuffled sketch') :
    (enterAll sketch entries).Shuffled (enterAll sketch' entries') := by
  induction h generalizing sketch sketch' with
  | nil => exact hsketch
  | @cons entry entry' _ _ hfirst _ ih =>
    obtain ⟨hentry, hentries⟩ := List.forall_mem_cons.1 hentries
    have hinside : (enter entry.1 (entry.2.map .field) sketch').Shuffled
        (enter entry.1 (entry'.2.map .field) sketch') :=
      enter_shuffled_inside entry.1 sketch' (hfirst.forest.map SketchNode.field)
    rw [enterAll_cons, enterAll_cons, ← hfirst.path]
    exact ih hentries (nodup_paths_enter hentry (paths_map_field _) hnodup)
      ((enter_shuffled hentry _ hnodup hsketch).trans hinside)

theorem enterAll_perm (hentries : ∀ entry ∈ entries, IsTexts entry.1) (h : entries.Perm entries')
    (hnodup : (paths sketch).Nodup) :
    (enterAll sketch entries).Shuffled (enterAll sketch entries') := by
  induction h generalizing sketch with
  | nil => exact .refl _
  | cons entry _ ih =>
    obtain ⟨hentry, hentries⟩ := List.forall_mem_cons.1 hentries
    exact ih hentries (nodup_paths_enter hentry (paths_map_field _) hnodup)
  | swap entry other rest =>
    obtain ⟨hother, hentries⟩ := List.forall_mem_cons.1 hentries
    obtain ⟨hentry, hrest⟩ := List.forall_mem_cons.1 hentries
    have hcomm :=
      enter_comm hentry hother (paths_map_field entry.2) (paths_map_field other.2) sketch
    have hafter := nodup_paths_enter hentry (paths_map_field entry.2)
      (nodup_paths_enter hother (paths_map_field other.2) hnodup)
    have hsame : List.Forall₂ Entry.Shuffled rest rest :=
      List.forall₂_same.2 fun entry _ => ⟨rfl, .refl entry.2⟩
    rw [enterAll_cons, enterAll_cons, enterAll_cons, enterAll_cons]
    exact enterAll_shuffled hrest hsame hafter hcomm
  | trans left _ ihl ihr =>
    have hmiddle := fun entry hentry => hentries entry (left.mem_iff.2 hentry)
    exact (ihl hentries hnodup).trans (ihr hmiddle hnodup)

/-- Entries that come in another order and hold shuffled forests are assembled to shuffled
forests. -/
theorem assemble_shuffled (sheet : String) {middle : List Entry}
    (hentries : ∀ entry ∈ entries, IsTexts entry.1) (hperm : entries.Perm middle)
    (h : List.Forall₂ Entry.Shuffled middle entries') :
    (assemble sheet entries).Shuffled (assemble sheet entries') := by
  have hmiddle := fun entry hentry => hentries entry (hperm.mem_iff.2 hentry)
  have hempty : (paths .nil).Nodup := List.nodup_nil
  exact ((enterAll_perm hentries hperm hempty).trans
    (enterAll_shuffled hmiddle h hempty (.refl _))).map (toNode sheet)

end Entries

end Sketch

end SheetSchema
