import SheetSchema.Proofs.Pages.Contribution

/-! The plain content of pages: the columns of a forest without what stands below its references,
and the references that have content of their own. Expanding a reference adds its page with all
of its columns at once, if there is no such page yet. -/
namespace SheetSchema

/-- A column without its description: its tag, its type and its labels. -/
def Column.signature (column : Column) : Value × Value × Value :=
  (column.tagName, column.dataType, column.labels)

namespace Forest

/-- The columns of a forest below the labels of the groups around it. -/
def columns (above : List Label) : Forest Node → List Column
  | nil => []
  | node value children rest =>
    (if value.type = .structural ∧ children ≠ nil then
        children.columns (above ++ [(value.name, value.description)])
      else [value.column value.type.name above]) ++ rest.columns above

/-- The references with children, by the names of their sheets and with the forests of their
children, in the order of `walk`. -/
def expansions : Forest Node → List (String × Forest Node)
  | nil => []
  | node value children rest =>
    (match value.type with
      | .reference (.str sheet) => if children = nil then [] else [(sheet, children)]
      | _ => []) ++ children.expansions ++ rest.expansions

theorem columns_node (above : List Label) (value : Node) (children rest : Forest Node) :
    (node value children rest).columns above =
      (tree value children).columns above ++ rest.columns above := by
  simp [columns, tree]

theorem expansions_node (value : Node) (children rest : Forest Node) :
    (node value children rest).expansions =
      (tree value children).expansions ++ rest.expansions := by
  simp [expansions, tree]

theorem columns_tree_of_ne {above : List Label} {value : Node} {children : Forest Node}
    (h : ¬(value.type = .structural ∧ children ≠ nil)) :
    (tree value children).columns above = [value.column value.type.name above] := by
  simp only [tree, columns, if_neg h, List.append_nil]

theorem mem_expansions {forest : Forest Node} {sheet : String} {children : Forest Node} :
    (sheet, children) ∈ forest.expansions ↔ children ≠ nil ∧
      ∃ node, node.type = .reference (.str sheet) ∧ (node, children) ∈ forest.branches := by
  induction forest with
  | nil => simp [expansions, branches]
  | node value below rest ihc ihr =>
    have hhead : (sheet, children) ∈ (match value.type with
        | .reference (.str sheet) => if below = nil then [] else [(sheet, below)]
        | _ => []) ↔ children ≠ nil ∧ value.type = .reference (.str sheet) ∧ children = below := by
      split
      next other ht =>
        rw [ht]
        by_cases hb : below = nil <;> aesop
      next hno =>
        simp only [List.not_mem_nil, false_iff]
        rintro ⟨_, ht, _⟩
        exact hno sheet ht
    simp only [expansions, branches, List.mem_append, List.mem_cons, hhead, ihc, ihr, Prod.mk.injEq]
    constructor
    · rintro ((⟨hne, ht, rfl⟩ | ⟨hne, node, ht, hmem⟩) | ⟨hne, node, ht, hmem⟩)
      · exact ⟨hne, value, ht, .inl ⟨rfl, rfl⟩⟩
      · exact ⟨hne, node, ht, .inr (.inl hmem)⟩
      · exact ⟨hne, node, ht, .inr (.inr hmem)⟩
    · rintro ⟨hne, node, ht, ⟨rfl, rfl⟩ | hmem | hmem⟩
      · exact .inl (.inl ⟨hne, ht, rfl⟩)
      · exact .inl (.inr ⟨hne, node, ht, hmem⟩)
      · exact .inr ⟨hne, node, ht, hmem⟩

/-- What an expansion holds has expansions in the whole forest. -/
theorem expansions_subset {forest : Forest Node} {expansion : String × Forest Node}
    (h : expansion ∈ forest.expansions) : expansion.2.expansions ⊆ forest.expansions := by
  obtain ⟨_, node, _, hmem⟩ := mem_expansions.1 h
  rintro ⟨sheet, children⟩ hinner
  obtain ⟨hne, inner, ht, hinner⟩ := mem_expansions.1 hinner
  exact mem_expansions.2 ⟨hne, inner, ht, branches_subset hmem hinner⟩

end Forest

/-- The page of a sheet with the columns of a forest. -/
def Page.ofForest (name : String) (forest : Forest Node) : Page :=
  { name := .str name, rows := forest.columns [] }

/-- The first expansion of every sheet. -/
def firsts (expansions : List (String × Forest Node)) : List (String × Forest Node) :=
  expansions.eraseDupsBy fun expansion first => expansion.1 == first.1

theorem firsts_cons (expansion : String × Forest Node) (rest : List (String × Forest Node)) :
    firsts (expansion :: rest) = expansion :: firsts (rest.filter (·.1 ≠ expansion.1)) := by
  rw [firsts, List.eraseDupsBy_cons]
  congr 2
  exact List.filter_congr fun other _ => by simp

theorem mem_of_mem_firsts {expansions : List (String × Forest Node)}
    {expansion : String × Forest Node} (h : expansion ∈ firsts expansions) :
    expansion ∈ expansions := mem_of_mem_eraseDupsBy h

theorem mem_firsts_names {expansions : List (String × Forest Node)} {name : String} :
    name ∈ (firsts expansions).map (·.1) ↔ name ∈ expansions.map (·.1) := by
  match expansions with
  | [] => rfl
  | first :: rest =>
    have ih : name ∈ (firsts (rest.filter (·.1 ≠ first.1))).map (·.1) ↔
        name ∈ (rest.filter (·.1 ≠ first.1)).map (·.1) := mem_firsts_names
    rw [firsts_cons, List.map_cons, List.map_cons, List.mem_cons, List.mem_cons, ih]
    refine or_congr_right' fun hne => ?_
    simp [hne]
termination_by expansions.length
decreasing_by exact length_filter_lt_cons _ first rest

theorem nodup_firsts_names (expansions : List (String × Forest Node)) :
    ((firsts expansions).map (·.1)).Nodup := by
  match expansions with
  | [] => exact List.nodup_nil
  | first :: rest =>
    rw [firsts_cons, List.map_cons, List.nodup_cons, mem_firsts_names]
    refine ⟨fun hmem => ?_, nodup_firsts_names _⟩
    obtain ⟨other, hother, heq⟩ := List.mem_map.1 hmem
    have hne := (List.mem_filter.1 hother).2
    simp [heq] at hne
termination_by expansions.length
decreasing_by exact length_filter_lt_cons _ first rest

/-- Changing what the expansions hold does not change which ones come first. -/
theorem firsts_map (f : Forest Node → Forest Node) (expansions : List (String × Forest Node)) :
    firsts (expansions.map fun expansion => (expansion.1, f expansion.2)) =
      (firsts expansions).map fun expansion => (expansion.1, f expansion.2) := by
  match expansions with
  | [] => rfl
  | first :: rest =>
    have ih := firsts_map f (rest.filter (·.1 ≠ first.1))
    rw [firsts_cons, List.map_cons, List.map_cons, firsts_cons, ← ih, List.filter_map]
    rfl
termination_by expansions.length
decreasing_by exact length_filter_lt_cons _ first rest

theorem firsts_filter (p : String → Bool) (expansions : List (String × Forest Node)) :
    firsts (expansions.filter fun expansion => p expansion.1) =
      (firsts expansions).filter fun expansion => p expansion.1 := by
  match expansions with
  | [] => rfl
  | expansion :: rest =>
    have ih := firsts_filter p (rest.filter (·.1 ≠ expansion.1))
    rw [firsts_cons, List.filter_cons, List.filter_cons, ← ih, List.filter_filter]
    by_cases h : p expansion.1 = true
    · rw [if_pos h, if_pos h, firsts_cons, List.filter_filter]
      congr 3
      funext other
      rw [Bool.and_comm]
    · rw [if_neg h, if_neg h]
      congr 1
      refine List.filter_congr fun other _ => ?_
      by_cases ho : other.1 = expansion.1
      · simp [ho, h]
      · simp [ho]
termination_by expansions.length
decreasing_by exact length_filter_lt_cons _ expansion rest

namespace PageSet

/-- The set with the page of an expansion, unless there is one of its name. -/
def expand (pages : PageSet) (expansion : String × Forest Node) : PageSet :=
  if pages.contains (.str expansion.1) then pages
  else ⟨pages.pages ++ [.ofForest expansion.1 expansion.2]⟩

def expandAll (pages : PageSet) (expansions : List (String × Forest Node)) : PageSet :=
  expansions.foldl expand pages

@[simp] theorem expandAll_nil (pages : PageSet) : pages.expandAll [] = pages := rfl

@[simp] theorem expandAll_cons (pages : PageSet) (expansion : String × Forest Node)
    (rest : List (String × Forest Node)) :
    pages.expandAll (expansion :: rest) = (pages.expand expansion).expandAll rest := rfl

theorem expandAll_append (pages : PageSet) (first rest : List (String × Forest Node)) :
    pages.expandAll (first ++ rest) = (pages.expandAll first).expandAll rest :=
  List.foldl_append

variable {pages : PageSet} {name : String}

theorem contains_addRows (other : Cell) (rows : List Column) :
    (pages.addRows other rows).contains (.str name) = pages.contains (.str name) := by
  rw [Bool.eq_iff_iff, contains_str, contains_str, names_addRows]

theorem addRows_nil (other : Cell) : pages.addRows other [] = pages := by
  simp [addRows]

theorem addRows_addRows (other : Cell) (first more : List Column) :
    (pages.addRows other first).addRows other more = pages.addRows other (first ++ more) := by
  simp only [addRows, List.map_map, mk.injEq]
  refine List.map_congr_left fun page _ => ?_
  by_cases h : page.name.agrees other = true <;> simp [h]

theorem contains_create {other : String} :
    (pages.create (.str other)).contains (.str name) = true ↔
      pages.contains (.str name) = true ∨ name = other := by
  rw [contains_str, contains_str, names_create]
  by_cases h : pages.contains (.str other) = true
  · rw [if_pos h]
    constructor
    · exact .inl
    · rintro (hname | rfl)
      · exact hname
      · exact contains_str.1 h
  · rw [if_neg h]
    simp

theorem contains_expand (expansion : String × Forest Node) :
    (pages.expand expansion).contains (.str name) = true ↔
      pages.contains (.str name) = true ∨ name = expansion.1 := by
  unfold expand
  by_cases h : pages.contains (.str expansion.1) = true
  · rw [if_pos h]
    constructor
    · exact .inl
    · rintro (hname | rfl)
      · exact hname
      · exact h
  · rw [if_neg h]
    simp [names, Page.ofForest]

theorem contains_expandAll (expansions : List (String × Forest Node)) :
    (pages.expandAll expansions).contains (.str name) = true ↔
      pages.contains (.str name) = true ∨ name ∈ expansions.map (·.1) := by
  induction expansions generalizing pages with
  | nil => simp
  | cons expansion rest ih =>
    rw [expandAll_cons, ih, contains_expand, List.map_cons, List.mem_cons, or_assoc]

theorem expandAll_eq_self {expansions : List (String × Forest Node)}
    (h : ∀ expansion ∈ expansions, pages.contains (.str expansion.1) = true) :
    pages.expandAll expansions = pages := by
  induction expansions with
  | nil => rfl
  | cons expansion rest ih =>
    have hfirst : pages.expand expansion = pages := if_pos (h _ (List.mem_cons_self ..))
    rw [expandAll_cons, hfirst]
    exact ih fun other hother => h other (List.mem_cons_of_mem _ hother)

/-- Expansion adds a page for the first expansion of every sheet that has none. -/
theorem pages_expandAll (pages : PageSet) (expansions : List (String × Forest Node)) :
    (pages.expandAll expansions).pages = pages.pages ++
      ((firsts expansions).filter fun expansion => !pages.contains (.str expansion.1)).map
        fun expansion => .ofForest expansion.1 expansion.2 := by
  induction expansions generalizing pages with
  | nil => exact (List.append_nil _).symm
  | cons expansion rest ih =>
    have hrest : (firsts rest).filter
        (fun other => !(pages.expand expansion).contains (.str other.1)) =
        (firsts (rest.filter (·.1 ≠ expansion.1))).filter
          (fun other => !pages.contains (.str other.1)) := by
      rw [firsts_filter fun name => decide (name ≠ expansion.1), List.filter_filter]
      refine List.filter_congr fun other _ => ?_
      rw [Bool.eq_iff_iff]
      simp only [Bool.not_eq_true', Bool.and_eq_true, decide_eq_true_eq, ← Bool.not_eq_true]
      rw [contains_expand, not_or]
    rw [expandAll_cons, ih, hrest, firsts_cons, List.filter_cons]
    unfold expand
    by_cases h : pages.contains (.str expansion.1) = true
    · simp [h]
    · simp [h]

/-- Rows of a page that is there can be added before or after other pages are expanded. -/
theorem addRows_expandAll (expansions : List (String × Forest Node)) (rows : List Column)
    (h : pages.contains (.str name) = true) :
    (pages.expandAll expansions).addRows (.str name) rows =
      (pages.addRows (.str name) rows).expandAll expansions := by
  induction expansions generalizing pages with
  | nil => rfl
  | cons expansion rest ih =>
    rw [expandAll_cons, expandAll_cons, ih ((contains_expand _).2 (.inl h))]
    congr 1
    unfold expand
    rw [contains_addRows]
    by_cases he : pages.contains (.str expansion.1) = true
    · rw [if_pos he, if_pos he]
    · have hne : expansion.1 ≠ name := by
        rintro rfl
        exact he h
      rw [if_neg he, if_neg he]
      simp [addRows, Page.ofForest, hne]

/-- A page that is created and filled is expanded. -/
theorem addRows_create (forest : Forest Node) (h : ¬pages.contains (.str name) = true) :
    (pages.create (.str name)).addRows (.str name) (forest.columns []) =
      pages.expand (name, forest) := by
  rw [addRows_create_new _ h, expand, if_neg h, Page.ofForest]

/-- The columns of a forest on the page of its sheet, and its references expanded. -/
def fill (pages : PageSet) (sheet : String) (labels : List Label) (forest : Forest Node) :
    PageSet :=
  (pages.addRows (.str sheet) (forest.columns labels)).expandAll forest.expansions

section Fill

variable {sheet : String} {labels : List Label} {value : Node} {children rest : Forest Node}

theorem fill_nil : pages.fill sheet labels .nil = pages := by
  rw [fill, Forest.columns, Forest.expansions, addRows_nil, expandAll_nil]

theorem fill_node (h : pages.contains (.str sheet) = true) :
    (pages.fill sheet labels (.tree value children)).fill sheet labels rest =
      pages.fill sheet labels (.node value children rest) := by
  have hthere : (pages.addRows (.str sheet) ((Forest.tree value children).columns labels)).contains
      (.str sheet) = true := by
    rw [contains_addRows]
    exact h
  rw [fill, fill, fill, addRows_expandAll _ _ hthere, addRows_addRows, ← expandAll_append,
    ← Forest.columns_node, ← Forest.expansions_node]

theorem fill_simple :
    pages.fill sheet labels (.tree value .nil) =
      pages.addRows (.str sheet) [value.column value.type.name labels] := by
  have hexpansions : (Forest.tree value .nil).expansions = [] := by
    simp only [Forest.tree, Forest.expansions, List.append_nil]
    split <;> rfl
  rw [fill, Forest.columns_tree_of_ne fun h => h.2 rfl, hexpansions, expandAll_nil]

theorem fill_group (ht : value.type = .structural) (hne : children ≠ .nil) :
    pages.fill sheet labels (.tree value children) =
      pages.fill sheet (labels ++ [(value.name, value.description)]) children := by
  have hcolumns : (Forest.tree value children).columns labels =
      children.columns (labels ++ [(value.name, value.description)]) := by
    simp [Forest.tree, Forest.columns, ht, hne]
  have hexpansions : (Forest.tree value children).expansions = children.expansions := by
    simp [Forest.tree, Forest.expansions, ht]
  rw [fill, fill, hcolumns, hexpansions]

theorem expansions_reference (ht : value.type = .reference (.str name)) (hne : children ≠ .nil) :
    (Forest.tree value children).expansions = (name, children) :: children.expansions := by
  simp [Forest.tree, Forest.expansions, ht, hne]

theorem columns_reference (ht : value.type = .reference (.str name)) :
    (Forest.tree value children).columns labels = [value.column (.str name) labels] := by
  rw [Forest.columns_tree_of_ne (by simp [ht]), ht]
  rfl

theorem fill_skipped (ht : value.type = .reference (.str name))
    (h : ∀ expansion ∈ (Forest.tree value children).expansions,
      pages.contains (.str expansion.1) = true) :
    pages.fill sheet labels (.tree value children) =
      pages.addRows (.str sheet) [value.column (.str name) labels] := by
  rw [fill, columns_reference ht, expandAll_eq_self]
  intro expansion hexpansion
  rw [contains_addRows]
  exact h expansion hexpansion

theorem fill_entered (ht : value.type = .reference (.str name)) (hne : children ≠ .nil)
    (h : ¬pages.contains (.str name) = true) :
    pages.fill sheet labels (.tree value children) =
      ((pages.addRows (.str sheet) [value.column (.str name) labels]).create (.str name)).fill
        name [] children := by
  have hnew : ¬(pages.addRows (.str sheet) [value.column (.str name) labels]).contains
      (.str name) = true := by
    rwa [contains_addRows]
  rw [fill, fill, columns_reference ht, expansions_reference ht hne, addRows_create children hnew,
    expandAll_cons]

end Fill

end PageSet

end SheetSchema
