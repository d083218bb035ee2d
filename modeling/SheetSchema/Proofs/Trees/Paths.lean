import Mathlib.Data.List.Nodup
import SheetSchema.Proofs.Trees.Assembly

/-! A sketch by the paths of its groups and fields. Entering a row adds the prefixes of its path
that are missing and its field, so the groups of a sheet are the prefixes of its rows' paths, each
once. -/
namespace SheetSchema.Sketch

/-- The paths of the groups. -/
def paths : Forest SketchNode → List (List Value)
  | .nil => []
  | .node (.group name) children rest =>
    [name] :: ((paths children).map (name :: ·) ++ paths rest)
  | .node (.field _) _ rest => paths rest

/-- The fields with the paths of the groups that they stand in, and with what stands below
them. -/
def fields : Forest SketchNode → List (List Value × Node × Forest SketchNode)
  | .nil => []
  | .node (.group name) children rest =>
    (fields children).map (fun field => (name :: field.1, field.2)) ++ fields rest
  | .node (.field node) children rest => ([], node, children) :: fields rest

/-- The paths of the groups that nothing stands in. -/
def barePaths : Forest SketchNode → List (List Value)
  | .nil => []
  | .node (.group name) children rest =>
    (if children = .nil then [[name]] else []) ++
      ((barePaths children).map (name :: ·) ++ barePaths rest)
  | .node (.field _) _ rest => barePaths rest

theorem paths_append (a b : Forest SketchNode) : paths (a ++ b) = paths a ++ paths b := by
  induction a with
  | nil => rfl
  | node value children rest _ ih => cases value <;> simp [paths, ih]

theorem fields_append (a b : Forest SketchNode) : fields (a ++ b) = fields a ++ fields b := by
  induction a with
  | nil => rfl
  | node value children rest _ ih => cases value <;> simp [fields, ih]

theorem ne_nil_of_mem_paths {sketch : Forest SketchNode} {path : List Value}
    (h : path ∈ paths sketch) : path ≠ [] := by
  induction sketch with
  | nil => simp [paths] at h
  | node value children rest _ ih =>
    cases value with
    | group name =>
      rintro rfl
      simp only [paths, List.mem_cons, List.mem_append, List.mem_map, reduceCtorEq, false_or,
        and_false, exists_false] at h
      exact ih h rfl
    | field node => exact ih h

/-- With a group or a field, the group at the top of its path is there. -/
theorem singleton_mem_paths {sketch : Forest SketchNode} {name : Value} {path : List Value}
    (h : name :: path ∈ paths sketch ∨ ∃ field ∈ fields sketch, field.1 = name :: path) :
    [name] ∈ paths sketch := by
  induction sketch with
  | nil => simp [paths, fields] at h
  | node value children rest _ ih =>
    cases value with
    | group other =>
      simp only [paths, List.mem_cons, List.cons.injEq, List.mem_append]
      simp only [paths, fields, List.mem_cons, List.cons.injEq, List.mem_append, List.mem_map] at h
      rcases h with (⟨rfl, _⟩ | ⟨_, _, rfl, _⟩ | h) | ⟨field, ⟨_, _, rfl⟩ | h, heq⟩
      · exact .inl ⟨rfl, trivial⟩
      · exact .inl ⟨rfl, trivial⟩
      · exact .inr (.inr (ih (.inl h)))
      · exact .inl ⟨(List.cons.inj heq).1.symm, trivial⟩
      · exact .inr (.inr (ih (.inr ⟨field, h, heq⟩)))
    | field node =>
      simp only [paths, fields, List.mem_cons] at h ⊢
      rcases h with h | ⟨field, rfl | h, heq⟩
      · exact ih (.inl h)
      · simp at heq
      · exact ih (.inr ⟨field, h, heq⟩)

theorem nodup_paths_group_iff {name : Value} {children rest : Forest SketchNode} :
    (paths (.node (.group name) children rest)).Nodup ↔
      (paths children).Nodup ∧ [name] ∉ paths rest ∧ (paths rest).Nodup := by
  have hinj : Function.Injective (name :: · : List Value → List Value) :=
    fun _ _ h => (List.cons.inj h).2
  simp only [paths, List.nodup_cons, List.nodup_append, List.nodup_map_iff hinj, List.mem_append,
    List.mem_map, not_or, not_exists, not_and]
  constructor
  · rintro ⟨⟨_, hname⟩, hc, hr, _⟩
    exact ⟨hc, hname, hr⟩
  · rintro ⟨hc, hname, hr⟩
    refine ⟨⟨fun path hpath heq => ?_, hname⟩, hc, hr, ?_⟩
    · exact ne_nil_of_mem_paths hpath (List.cons.inj heq).2
    · rintro _ ⟨path, _, rfl⟩ other hother rfl
      exact hname (singleton_mem_paths (.inl hother))

theorem nodup_paths_rest {value : SketchNode} {children rest : Forest SketchNode}
    (h : (paths (.node value children rest)).Nodup) : (paths rest).Nodup := by
  cases value with
  | group name => exact (nodup_paths_group_iff.1 h).2.2
  | field node => exact h

section Enter

variable {path : List Value} {inside : Forest SketchNode}

/-- Whether all names of a path are texts. -/
def IsTexts (path : List Value) : Prop := ∀ name ∈ path, ∃ text, name = .str text

theorem isTexts_map_str (texts : List String) : IsTexts (texts.map Value.str) := by
  intro name hname
  obtain ⟨text, -, rfl⟩ := List.mem_map.1 hname
  exact ⟨text, rfl⟩

/-- A text is the name of the group that it enters. -/
theorem eq_of_isGroup {name : Value} (hname : ∃ text, name = .str text) {value : SketchNode}
    (h : value.isGroup name = true) : value = .group name := by
  obtain ⟨text, rfl⟩ := hname
  cases value with
  | group other => rw [Value.equals_str.1 h]
  | field node => simp [SketchNode.isGroup] at h

theorem isGroup_group {name : Value} (hname : ∃ text, name = .str text) :
    (SketchNode.group name).isGroup name = true := by
  obtain ⟨text, rfl⟩ := hname
  exact Value.equals_str.2 rfl

theorem not_isGroup_of_ne {name other : Value} (hname : ∃ text, name = .str text)
    (h : name ≠ other) : ¬(SketchNode.group other).isGroup name = true :=
  fun hgroup => h (SketchNode.group.inj (eq_of_isGroup hname hgroup)).symm

theorem mem_paths_nest (hinside : paths inside = []) {other : List Value} :
    other ∈ paths (nest path inside) ↔ other ≠ [] ∧ other <+: path := by
  induction path generalizing other with
  | nil =>
    rw [nest, List.foldr_nil, hinside, List.prefix_nil]
    simp
  | cons name path ih =>
    change other ∈ paths (.node (.group name) (nest path inside) .nil) ↔ _
    simp only [paths, List.append_nil, List.mem_cons, List.mem_map, ih]
    cases other with
    | nil => simp
    | cons first other =>
      simp only [List.cons.injEq, ne_eq, reduceCtorEq, not_false_eq_true, true_and,
        List.cons_prefix_cons]
      constructor
      · rintro (⟨rfl, rfl⟩ | ⟨_, ⟨_, hpre⟩, rfl, rfl⟩)
        · exact ⟨rfl, List.nil_prefix⟩
        · exact ⟨rfl, hpre⟩
      · rintro ⟨rfl, hpre⟩
        by_cases hother : other = []
        · exact .inl ⟨rfl, hother⟩
        · exact .inr ⟨other, ⟨hother, hpre⟩, rfl, rfl⟩

/-- Entering adds the groups along the path. -/
theorem mem_paths_enter (htexts : IsTexts path) (hinside : paths inside = [])
    (sketch : Forest SketchNode) {other : List Value} :
    other ∈ paths (enter path inside sketch) ↔
      other ∈ paths sketch ∨ other ≠ [] ∧ other <+: path := by
  fun_induction enter path inside sketch generalizing other with
  | case1 inside sketch =>
    rw [paths_append, hinside, List.append_nil, List.prefix_nil]
    simp
  | case2 path inside _ => simp [mem_paths_nest hinside, paths]
  | case3 name path inside value children rest hgroup ih =>
    obtain rfl := eq_of_isGroup (htexts name (List.mem_cons_self ..)) hgroup
    have ih := @ih (fun other h => htexts other (List.mem_cons_of_mem _ h)) hinside
    simp only [paths, List.mem_cons, List.mem_append, List.mem_map, ih]
    cases other with
    | nil => simp
    | cons first other =>
      simp only [List.cons.injEq, ne_eq, reduceCtorEq, not_false_eq_true, true_and,
        List.cons_prefix_cons]
      constructor
      · rintro (h | ⟨_, h | ⟨_, hpre⟩, rfl, rfl⟩ | h)
        · exact .inl (.inl h)
        · exact .inl (.inr (.inl ⟨_, h, rfl, rfl⟩))
        · exact .inr ⟨rfl, hpre⟩
        · exact .inl (.inr (.inr h))
      · rintro ((h | ⟨_, h, rfl, rfl⟩ | h) | ⟨rfl, hpre⟩)
        · exact .inl h
        · exact .inr (.inl ⟨_, .inl h, rfl, rfl⟩)
        · exact .inr (.inr h)
        · by_cases hother : other = []
          · exact .inl ⟨rfl, hother⟩
          · exact .inr (.inl ⟨_, .inr ⟨hother, hpre⟩, rfl, rfl⟩)
  | case4 name path inside value children rest hgroup ih =>
    cases value <;> simp [paths, ih htexts hinside, or_assoc]

theorem nodup_paths_nest (path : List Value) (hinside : paths inside = []) :
    (paths (nest path inside)).Nodup := by
  induction path with
  | nil => exact hinside ▸ List.nodup_nil
  | cons name path ih =>
    change (paths (.node (.group name) (nest path inside) .nil)).Nodup
    exact nodup_paths_group_iff.2 ⟨ih, List.not_mem_nil, List.nodup_nil⟩

/-- No group is there twice, since a path goes into the groups that it finds. -/
theorem nodup_paths_enter (htexts : IsTexts path) (hinside : paths inside = [])
    {sketch : Forest SketchNode} (h : (paths sketch).Nodup) :
    (paths (enter path inside sketch)).Nodup := by
  fun_induction enter path inside sketch with
  | case1 inside sketch =>
    rw [paths_append, hinside, List.append_nil]
    exact h
  | case2 path inside _ => exact nodup_paths_nest path hinside
  | case3 name path inside value children rest hgroup ih =>
    obtain rfl := eq_of_isGroup (htexts name (List.mem_cons_self ..)) hgroup
    obtain ⟨hchildren, hname, hrest⟩ := nodup_paths_group_iff.1 h
    have ih := ih (fun other hother => htexts other (List.mem_cons_of_mem _ hother)) hinside
    exact nodup_paths_group_iff.2 ⟨ih hchildren, hname, hrest⟩
  | case4 name path inside value children rest hgroup ih =>
    cases value with
    | group other =>
      obtain ⟨hchildren, hother, hrest⟩ := nodup_paths_group_iff.1 h
      refine nodup_paths_group_iff.2 ⟨hchildren, ?_, ih htexts hinside hrest⟩
      rw [mem_paths_enter htexts hinside]
      rintro (hmem | ⟨_, hpre⟩)
      · exact hother hmem
      · obtain ⟨rfl, _⟩ := List.cons_prefix_cons.1 hpre
        exact hgroup (isGroup_group (htexts other (List.mem_cons_self ..)))
    | field node => exact ih htexts hinside h

theorem fields_nest (path : List Value) (inside : Forest SketchNode) :
    fields (nest path inside) = (fields inside).map fun field => (path ++ field.1, field.2) := by
  induction path with
  | nil => exact (List.map_id _).symm
  | cons name path ih =>
    change fields (.node (.group name) (nest path inside) .nil) = _
    rw [fields, ih, fields, List.append_nil, List.map_map]
    rfl

/-- Entering adds the fields that are entered, below the path. -/
theorem fields_enter (htexts : IsTexts path) (sketch : Forest SketchNode) :
    (fields (enter path inside sketch)).Perm
      (fields sketch ++ (fields inside).map fun field => (path ++ field.1, field.2)) := by
  fun_induction enter path inside sketch with
  | case1 inside sketch =>
    rw [fields_append]
    exact (List.map_id _).symm ▸ List.Perm.refl _
  | case2 path inside _ =>
    rw [fields_nest]
    exact List.Perm.refl _
  | case3 name path inside value children rest hgroup ih =>
    obtain rfl := eq_of_isGroup (htexts name (List.mem_cons_self ..)) hgroup
    have ih := ih fun other hother => htexts other (List.mem_cons_of_mem _ hother)
    rw [fields, fields]
    apply ((ih.map _).append_right _).trans
    rw [List.map_append, List.append_assoc, List.append_assoc, List.map_map]
    exact (List.perm_append_comm).append_left _
  | case4 name path inside value children rest hgroup ih =>
    cases value with
    | group other =>
      rw [fields, fields, List.append_assoc]
      exact (ih htexts).append_left _
    | field node => exact (ih htexts).cons _

end Enter

theorem eq_nil_iff {sketch : Forest SketchNode} :
    sketch = .nil ↔ paths sketch = [] ∧ fields sketch = [] := by
  cases sketch with
  | nil => simp [paths, fields]
  | node value children rest => cases value <;> simp [paths, fields]

theorem eq_nil_iff_top {sketch : Forest SketchNode} :
    sketch = .nil ↔ (∀ name, [name] ∉ paths sketch) ∧ ∀ field ∈ fields sketch, field.1 ≠ [] := by
  cases sketch with
  | nil => simp [paths, fields]
  | node value children rest =>
    cases value with
    | group name =>
      simp only [reduceCtorEq, false_iff, not_and]
      intro h
      exact absurd (List.mem_cons_self ..) (h name)
    | field node =>
      simp only [reduceCtorEq, false_iff, not_and]
      intro _ h
      exact h _ (List.mem_cons_self ..) rfl

theorem ne_nil_of_mem_barePaths {sketch : Forest SketchNode} {path : List Value}
    (h : path ∈ barePaths sketch) : path ≠ [] := by
  induction sketch with
  | nil => simp [barePaths] at h
  | node value children rest _ ih =>
    cases value with
    | field node => exact ih h
    | group name =>
      rintro rfl
      simp only [barePaths, List.mem_append, List.mem_map, reduceCtorEq, and_false, exists_false,
        false_or] at h
      rcases h with h | h
      · split at h <;> simp at h
      · exact ih h rfl

section Group

variable {name first : Value} {other : List Value} {children rest : Forest SketchNode}

theorem mem_paths_group :
    first :: other ∈ paths (.node (.group name) children rest) ↔
      first = name ∧ (other = [] ∨ other ∈ paths children) ∨ first :: other ∈ paths rest := by
  simp only [paths, List.mem_cons, List.mem_append, List.mem_map, List.cons.injEq]
  constructor
  · rintro (⟨rfl, rfl⟩ | ⟨_, h, rfl, rfl⟩ | h)
    · exact .inl ⟨rfl, .inl rfl⟩
    · exact .inl ⟨rfl, .inr h⟩
    · exact .inr h
  · rintro (⟨rfl, rfl | h⟩ | h)
    · exact .inl ⟨rfl, rfl⟩
    · exact .inr (.inl ⟨_, h, rfl, rfl⟩)
    · exact .inr (.inr h)

theorem mem_barePaths_group :
    first :: other ∈ barePaths (.node (.group name) children rest) ↔
      first = name ∧ (children = .nil ∧ other = [] ∨ other ∈ barePaths children) ∨
        first :: other ∈ barePaths rest := by
  have hbare : first :: other ∈ (if children = .nil then [[name]] else []) ↔
      first = name ∧ children = .nil ∧ other = [] := by
    by_cases hc : children = .nil <;> simp [hc]
  simp only [barePaths, List.mem_append, List.mem_map, List.cons.injEq, hbare]
  constructor
  · rintro (⟨rfl, h⟩ | ⟨_, h, rfl, rfl⟩ | h)
    · exact .inl ⟨rfl, .inl h⟩
    · exact .inl ⟨rfl, .inr h⟩
    · exact .inr h
  · rintro (⟨rfl, h | h⟩ | h)
    · exact .inl ⟨rfl, h⟩
    · exact .inr (.inl ⟨_, h, rfl, rfl⟩)
    · exact .inr (.inr h)

theorem forall_fields_group :
    (∀ field ∈ fields (.node (.group name) children rest), field.1 ≠ first :: other) ↔
      (first = name → ∀ field ∈ fields children, field.1 ≠ other) ∧
        ∀ field ∈ fields rest, field.1 ≠ first :: other := by
  simp only [fields, List.forall_mem_append, List.forall_mem_map]
  refine and_congr_left fun _ => ?_
  constructor
  · rintro h rfl field hmem rfl
    exact h field hmem rfl
  · intro h field hmem heq
    obtain ⟨hname, heq⟩ := List.cons.inj heq
    exact h hname.symm field hmem heq

end Group

/-- Nothing stands in a group if no group and no field does. -/
theorem mem_barePaths_iff {sketch : Forest SketchNode} (h : (paths sketch).Nodup)
    {path : List Value} :
    path ∈ barePaths sketch ↔ path ∈ paths sketch ∧ (∀ name, path ++ [name] ∉ paths sketch) ∧
      ∀ field ∈ fields sketch, field.1 ≠ path := by
  cases path with
  | nil =>
    constructor
    · exact fun hmem => absurd rfl (ne_nil_of_mem_barePaths hmem)
    · exact fun hmem => absurd rfl (ne_nil_of_mem_paths hmem.1)
  | cons first other =>
    induction sketch generalizing first other with
    | nil => simp [barePaths, paths]
    | node value children rest ihc ihr =>
      cases value with
      | field node =>
        rw [barePaths, paths, fields, ihr h, List.forall_mem_cons]
        simp
      | group name =>
        obtain ⟨hchildren, hname, hrest⟩ := nodup_paths_group_iff.1 h
        rw [mem_barePaths_group, mem_paths_group, forall_fields_group, ihr hrest]
        simp only [List.cons_append, mem_paths_group]
        by_cases hfirst : first = name
        · subst hfirst
          -- the paths of the other groups begin with other names
          have hout (path : List Value) : first :: path ∉ paths rest :=
            fun hmem => hname (singleton_mem_paths (.inl hmem))
          have hfield (field : List Value × Node × Forest SketchNode) (hmem : field ∈ fields rest) :
              field.1 ≠ first :: other :=
            fun heq => hname (singleton_mem_paths (.inr ⟨field, hmem, heq⟩))
          rw [and_iff_left hfield, and_iff_left hfield]
          cases other with
          | nil =>
            have hbare : [] ∉ barePaths children := fun hmem => ne_nil_of_mem_barePaths hmem rfl
            simp [hout, hbare, eq_nil_iff_top]
          | cons second other => simp [hout, ihc hchildren]
        · simp [hfirst]

theorem barePaths_sublist (sketch : Forest SketchNode) :
    (barePaths sketch).Sublist (paths sketch) := by
  induction sketch with
  | nil => exact List.Sublist.refl _
  | node value children rest ihc ihr =>
    cases value with
    | field node => exact ihr
    | group name =>
      have hhead : (if children = .nil then [[name]] else []).Sublist [[name]] := by
        split
        · exact List.Sublist.refl _
        · exact List.nil_sublist _
      exact hhead.append ((ihc.map _).append ihr)

section Entries

variable {entries : List Entry}

@[simp] theorem paths_map_field (forest : Forest Node) : paths (forest.map .field) = [] := by
  induction forest with
  | nil => rfl
  | node value children rest _ ih => exact ih

theorem nodup_paths_enterAll (htexts : ∀ entry ∈ entries, IsTexts entry.1)
    {sketch : Forest SketchNode} (h : (paths sketch).Nodup) :
    (paths (enterAll sketch entries)).Nodup := by
  induction entries generalizing sketch with
  | nil => exact h
  | cons entry entries ih =>
    obtain ⟨hentry, hentries⟩ := List.forall_mem_cons.1 htexts
    exact ih hentries (nodup_paths_enter hentry (paths_map_field _) h)

theorem nodup_paths_ofEntries (htexts : ∀ entry ∈ entries, IsTexts entry.1) :
    (paths (ofEntries entries)).Nodup := by
  have hempty : (paths .nil).Nodup := List.nodup_nil
  exact nodup_paths_enterAll htexts hempty

/-- The groups are the prefixes of the paths that were entered. -/
theorem mem_paths_ofEntries (htexts : ∀ entry ∈ entries, IsTexts entry.1) {path : List Value} :
    path ∈ paths (ofEntries entries) ↔ path ≠ [] ∧ ∃ entry ∈ entries, path <+: entry.1 := by
  have hentered (sketch : Forest SketchNode) : path ∈ paths (enterAll sketch entries) ↔
      path ∈ paths sketch ∨ path ≠ [] ∧ ∃ entry ∈ entries, path <+: entry.1 := by
    induction entries generalizing sketch with
    | nil => simp [enterAll]
    | cons entry entries ih =>
      obtain ⟨hentry, hentries⟩ := List.forall_mem_cons.1 htexts
      rw [enterAll_cons, ih hentries, mem_paths_enter hentry (paths_map_field _), or_assoc,
        ← and_or_left]
      simp only [List.mem_cons, exists_eq_or_imp]
  have h := hentered .nil
  rwa [paths, or_iff_right (List.not_mem_nil)] at h

/-- The fields of an entry, each below its path. -/
def enteredFields (entry : Entry) : List (List Value × Node × Forest SketchNode) :=
  (fields (entry.2.map .field)).map fun field => (entry.1 ++ field.1, field.2)

theorem fields_ofEntries (htexts : ∀ entry ∈ entries, IsTexts entry.1) :
    (fields (ofEntries entries)).Perm (entries.flatMap enteredFields) := by
  have hentered (sketch : Forest SketchNode) : (fields (enterAll sketch entries)).Perm
      (fields sketch ++ entries.flatMap enteredFields) := by
    induction entries generalizing sketch with
    | nil => simp [enterAll]
    | cons entry entries ih =>
      obtain ⟨hentry, hentries⟩ := List.forall_mem_cons.1 htexts
      rw [enterAll_cons, List.flatMap_cons, ← List.append_assoc]
      exact (ih hentries _).trans ((fields_enter hentry sketch).append_right _)
  exact hentered .nil

end Entries

end SheetSchema.Sketch
