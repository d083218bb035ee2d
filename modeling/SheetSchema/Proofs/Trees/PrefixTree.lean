import SheetSchema.Proofs.Trees.Paths

/-! The tree of the prefixes of the paths of some rows: a group for each prefix, the fields in the
groups of their rows, and everything in the order of the rows that introduced it. The sketch of the
rows is this tree. -/
namespace SheetSchema.Sketch

/-- What stands in the group of a path, or on the top level for the empty path. -/
def inside : List Value → Forest SketchNode → Forest SketchNode
  | [], forest => forest
  | _ :: _, .nil => .nil
  | name :: path, .node value children rest =>
    if value.isGroup name then inside path children else inside (name :: path) rest

/-- The name that follows on a path after a place. -/
def next? (place path : List Value) : Option Value :=
  if place <+: path then path[place.length]? else none

/-- The group that a path adds at a place, unless its path is known. -/
def newGroups (known : List Value → Bool) (place path : List Value) : List SketchNode :=
  ((next? place path).toList.filter fun name => !known (place ++ [name])).map .group

/-- The field that an entry adds at a place. -/
def newFields (place : List Value) (entry : Entry) : List SketchNode :=
  if entry.1 = place then entry.2.roots.map .field else []

/-- What entries add at a place, one after another, given the paths before them. -/
def introduced (place : List Value) : (earlier : List (List Value)) → List Entry → List SketchNode
  | _, [] => []
  | earlier, entry :: entries =>
    newGroups (fun path => earlier.any (path.isPrefixOf ·)) place entry.1 ++
      newFields place entry ++ introduced place (earlier ++ [entry.1]) entries

/-- The tree of the prefixes of the entries' paths. -/
structure PrefixTree (entries : List Entry) (sketch : Forest SketchNode) : Prop where
  /-- There is a group for each prefix. -/
  groups : ∀ path, path ∈ paths sketch ↔ path ≠ [] ∧ ∃ entry ∈ entries, path <+: entry.1
  /-- No group is there twice. -/
  nodup : (paths sketch).Nodup
  /-- The fields, with all that stands below them, are those of the entries, each in the group of its
  path. -/
  fields : (fields sketch).Perm (entries.flatMap enteredFields)
  /-- What stands in a group, or on the top level, is in the order in which it was introduced. -/
  order : ∀ place, place = [] ∨ place ∈ paths sketch →
    (inside place sketch).roots = introduced place [] entries

section Step

variable {known : List Value → Bool} {place path : List Value} {inner : Forest SketchNode}

theorem newGroups_nil_right : newGroups known place [] = [] := by
  cases place <;> simp [newGroups, next?]

theorem newGroups_top {name : Value} :
    newGroups known [] (name :: path) = if known [name] then [] else [.group name] := by
  cases h : known [name] <;> simp [newGroups, next?, h]

theorem newGroups_cons {name : Value} :
    newGroups known (name :: place) (name :: path) =
      newGroups (fun path => known (name :: path)) place path := by
  simp [newGroups, next?]

theorem newGroups_ne {name other : Value} (h : name ≠ other) :
    newGroups known (name :: place) (other :: path) = [] := by
  simp [newGroups, next?, h]

/-- Nothing stands in the groups of a forest that has none. -/
theorem inside_append (hinner : paths inner = []) (name : Value) (forest : Forest SketchNode) :
    inside (name :: place) (forest ++ inner) = inside (name :: place) forest := by
  induction forest with
  | nil =>
    rw [Forest.nil_append]
    induction inner with
    | nil => rfl
    | node value children rest _ ih =>
      cases value with
      | group other => simp [paths] at hinner
      | field node => exact ih hinner
  | node value children rest _ ih => rw [Forest.node_append, inside, inside, ih]

theorem inside_of_isGroup {name : Value} {value : SketchNode} {children rest : Forest SketchNode}
    (h : value.isGroup name = true) :
    inside (name :: place) (.node value children rest) = inside place children := by
  rw [inside, if_pos h]

theorem inside_of_not_isGroup {name : Value} {value : SketchNode}
    {children rest : Forest SketchNode} (h : ¬value.isGroup name = true) :
    inside (name :: place) (.node value children rest) = inside (name :: place) rest := by
  rw [inside, if_neg h]

theorem isTexts_cons {name : Value} :
    IsTexts (name :: path) ↔ (∃ text, name = .str text) ∧ IsTexts path :=
  List.forall_mem_cons

/-- What entering a path into nothing adds. -/
theorem roots_inside_nest (hpath : IsTexts path) (hplace : IsTexts place)
    (hinner : paths inner = [])
    (hknown : ∀ other, other ≠ [] → other <+: path → known other = false) :
    (inside place (nest path inner)).roots =
      newGroups known place path ++ if path = place then inner.roots else [] := by
  induction path generalizing place known with
  | nil =>
    rw [newGroups_nil_right, List.nil_append]
    cases place with
    | nil => simp [inside, nest]
    | cons name place =>
      have hnothing : inside (name :: place) inner = .nil := inside_append hinner name .nil
      exact congrArg Forest.roots hnothing
  | cons name path ih =>
    rw [isTexts_cons] at hpath
    change (inside place (.node (.group name) (nest path inner) .nil)).roots = _
    cases place with
    | nil =>
      have hnew : known [name] = false := hknown _ (List.cons_ne_nil _ _) (List.prefix_append [name] _)
      simp [inside, Forest.roots, newGroups_top, hnew]
    | cons first place =>
      rw [isTexts_cons] at hplace
      by_cases heq : first = name
      · subst heq
        have hbelow : ∀ other, other ≠ [] → other <+: path → known (first :: other) = false :=
          fun other _ hprefix =>
            hknown _ (List.cons_ne_nil _ _) ((List.prefix_cons_inj first).2 hprefix)
        rw [inside_of_isGroup (isGroup_group hpath.1), newGroups_cons, ih hpath.2 hplace.2 hbelow]
        simp
      · rw [inside_of_not_isGroup (not_isGroup_of_ne hplace.1 heq), newGroups_ne heq, if_neg]
        · rfl
        · exact fun h => heq (List.cons.inj h).1.symm

/-- What entering a path adds comes last where it is added: the groups that are missing along the path,
and what is entered below it. Only the prefixes of the path are looked up, and they are as known
among the siblings that the path passes by as in the whole sketch. -/
theorem roots_inside_enter (hpath : IsTexts path) (hplace : IsTexts place)
    (hinner : paths inner = []) {sketch : Forest SketchNode} (hnodup : (paths sketch).Nodup)
    (hknown : ∀ other, other ≠ [] → other <+: path → (known other = true ↔ other ∈ paths sketch)) :
    (inside place (enter path inner sketch)).roots =
      (inside place sketch).roots ++
        (newGroups known place path ++ if path = place then inner.roots else []) := by
  fun_induction enter path inner sketch generalizing place known with
  | case1 inner sketch =>
    rw [newGroups_nil_right, List.nil_append]
    cases place with
    | nil => simp [inside]
    | cons name place => simp [inside_append hinner]
  | case2 path inner _ =>
    have hnone : ∀ other, other ≠ [] → other <+: path → known other = false :=
      fun other hne hprefix =>
        Bool.eq_false_iff.2 fun h => List.not_mem_nil ((hknown other hne hprefix).1 h)
    rw [roots_inside_nest hpath hplace hinner hnone]
    cases place <;> rfl
  | case3 name path inner value children rest hgroup ih =>
    rw [isTexts_cons] at hpath
    obtain rfl := eq_of_isGroup hpath.1 hgroup
    obtain ⟨hchildren, hother, -⟩ := nodup_paths_group_iff.1 hnodup
    cases place with
    | nil =>
      have hthere : known [name] = true :=
        (hknown _ (List.cons_ne_nil _ _) (List.prefix_append [name] _)).2 (List.mem_cons_self ..)
      simp [inside, Forest.roots, newGroups_top, hthere]
    | cons first place =>
      rw [isTexts_cons] at hplace
      by_cases heq : first = name
      · subst heq
        have hbelow : ∀ other, other ≠ [] → other <+: path →
            (known (first :: other) = true ↔ other ∈ paths children) := by
          intro other hne hprefix
          -- there is no second group of the name
          have hout : first :: other ∉ paths rest :=
            fun hmem => hother (singleton_mem_paths (.inl hmem))
          rw [hknown _ (List.cons_ne_nil _ _) ((List.prefix_cons_inj first).2 hprefix),
            mem_paths_group]
          simp [hne, hout]
        rw [inside_of_isGroup hgroup, inside_of_isGroup hgroup, newGroups_cons,
          ih hpath.2 hplace.2 hinner hchildren hbelow]
        simp
      · -- the place lies in another group, which the path does not enter
        have hfirst := not_isGroup_of_ne hplace.1 heq
        rw [inside_of_not_isGroup hfirst, inside_of_not_isGroup hfirst, newGroups_ne heq, if_neg]
        · simp
        · exact fun h => heq (List.cons.inj h).1.symm
  | case4 name path inner value children rest hgroup ih =>
    have hname : ∃ text, name = .str text := hpath name (List.mem_cons_self ..)
    have hrest : (paths rest).Nodup := nodup_paths_rest hnodup
    have hbeside : ∀ other, other ≠ [] → other <+: name :: path →
        (known other = true ↔ other ∈ paths rest) := by
      intro other hne hprefix
      rw [hknown other hne hprefix]
      obtain ⟨first, other, rfl⟩ := List.exists_cons_of_ne_nil hne
      obtain ⟨rfl, -⟩ := List.cons_prefix_cons.1 hprefix
      cases value with
      | group second =>
        have hsecond : first ≠ second := fun h => hgroup (h ▸ isGroup_group hname)
        simp [mem_paths_group, hsecond]
      | field node => rfl
    have ih := fun place hplace => @ih known place hpath hplace hinner hrest hbeside
    cases place with
    | nil =>
      have htop := ih [] hplace
      rw [inside, inside] at htop ⊢
      exact congrArg (value :: ·) htop
    | cons first place =>
      by_cases hfirst : value.isGroup first = true
      · have hne : first ≠ name := fun h => hgroup (h ▸ hfirst)
        rw [inside_of_isGroup hfirst, inside_of_isGroup hfirst, newGroups_ne hne, if_neg]
        · simp
        · exact fun h => hne (List.cons.inj h).1.symm
      · rw [inside_of_not_isGroup hfirst, inside_of_not_isGroup hfirst, ih _ hplace]

end Step

section Run

variable {place : List Value} {entries : List Entry}

/-- Entries add what they introduce, in their order. -/
theorem roots_inside_enterAll (hentries : ∀ entry ∈ entries, IsTexts entry.1) (hplace : IsTexts place)
    {sketch : Forest SketchNode} (hnodup : (paths sketch).Nodup) {earlier : List (List Value)}
    (hearlier : ∀ path, path ∈ paths sketch ↔ path ≠ [] ∧ ∃ other ∈ earlier, path <+: other) :
    (inside place (enterAll sketch entries)).roots =
      (inside place sketch).roots ++ introduced place earlier entries := by
  induction entries generalizing sketch earlier with
  | nil => simp [introduced, enterAll]
  | cons entry entries ih =>
    obtain ⟨hentry, hentries⟩ := List.forall_mem_cons.1 hentries
    have hfields : paths (entry.2.map .field) = [] := paths_map_field _
    have hknown : ∀ other, other ≠ [] → other <+: entry.1 →
        (earlier.any (other.isPrefixOf ·) = true ↔ other ∈ paths sketch) := by
      intro other hne _
      simp [hearlier, hne]
    have hafter : ∀ path, path ∈ paths (enter entry.1 (entry.2.map .field) sketch) ↔
        path ≠ [] ∧ ∃ other ∈ earlier ++ [entry.1], path <+: other := by
      intro path
      rw [mem_paths_enter hentry hfields, hearlier, ← and_or_left]
      simp [or_and_right, exists_or]
    rw [enterAll_cons, ih hentries (nodup_paths_enter hentry hfields hnodup) hafter,
      roots_inside_enter hentry hplace hfields hnodup hknown, introduced, newFields,
      Forest.roots_map, List.append_assoc, List.append_assoc]

/-- The sketch of the rows of a sheet is the tree of the prefixes of their paths. -/
theorem prefixTree_ofEntries (hentries : ∀ entry ∈ entries, IsTexts entry.1) :
    PrefixTree entries (ofEntries entries) where
  groups _ := mem_paths_ofEntries hentries
  nodup := nodup_paths_ofEntries hentries
  fields := fields_ofEntries hentries
  order place hplace := by
    have htexts : IsTexts place := by
      rcases hplace with rfl | hplace
      · exact nofun
      · obtain ⟨-, entry, hentry, hpre⟩ := (mem_paths_ofEntries hentries).1 hplace
        exact fun name hname => hentries entry hentry name (hpre.mem hname)
    have hempty : (paths .nil).Nodup := List.nodup_nil
    have hrun : (inside place (ofEntries entries)).roots =
        (inside place .nil).roots ++ introduced place [] entries :=
      roots_inside_enterAll hentries htexts hempty (by simp [paths])
    have hnothing : (inside place .nil).roots = [] := by cases place <;> rfl
    rw [hrun, hnothing, List.nil_append]

end Run

end SheetSchema.Sketch
