import SheetSchema.Proofs.Pages.HandedLabels

/-! Where the templates of the children of a node first appear, and what the node contributes where
all templates are texts and all children have the same one, as it is in every built forest. -/
namespace SheetSchema

section FirstAppearances

variable {α : Type} {r : α → α → Bool}

theorem length_filter_lt_cons (p : α → Bool) (first : α) (rest : List α) :
    (rest.filter p).length < (first :: rest).length :=
  Nat.lt_succ_of_le (List.length_filter_le p rest)

theorem mem_of_mem_eraseDupsBy {items : List α} {item : α} (h : item ∈ items.eraseDupsBy r) :
    item ∈ items := by
  match items with
  | [] => exact h
  | first :: rest =>
    rw [List.eraseDupsBy_cons, List.mem_cons] at h
    rcases h with rfl | h
    · exact List.mem_cons_self ..
    · exact List.mem_cons_of_mem _ (List.mem_filter.1 (mem_of_mem_eraseDupsBy h)).1
termination_by items.length
decreasing_by exact length_filter_lt_cons _ first rest

theorem exists_of_mem_eraseDupsBy (hrefl : ∀ item, r item item = true) {items : List α} {item : α}
    (h : item ∈ items) : ∃ first ∈ items.eraseDupsBy r, r item first = true := by
  match items with
  | [] => exact absurd h List.not_mem_nil
  | head :: rest =>
    rw [List.eraseDupsBy_cons]
    by_cases hhead : r item head = true
    · exact ⟨head, List.mem_cons_self .., hhead⟩
    · have hrest : item ∈ rest := by
        rcases List.mem_cons.1 h with rfl | h
        · exact absurd (hrefl item) hhead
        · exact h
      have hkept : item ∈ rest.filter fun item => r item head = false :=
        List.mem_filter.2 ⟨hrest, decide_eq_true (Bool.eq_false_iff.2 hhead)⟩
      obtain ⟨first, hfirst, hsame⟩ := exists_of_mem_eraseDupsBy hrefl hkept
      exact ⟨first, List.mem_cons_of_mem _ hfirst, hsame⟩
termination_by items.length
decreasing_by exact length_filter_lt_cons _ head rest

end FirstAppearances

/-- Looking at names one after another finds where each of them first appears. -/
theorem distinct_eq_eraseDupsBy (items : List Cell) :
    distinct items = items.eraseDupsBy fun item first => first.agrees item := by
  have hfold (items seen : List Cell) :
      items.foldl (fun seen item => if seen.any (·.agrees item) then seen else seen ++ [item])
          seen =
        seen ++ (items.filter fun item => !seen.any (·.agrees item)).eraseDupsBy
          fun item first => first.agrees item := by
    induction items generalizing seen with
    | nil => exact (List.append_nil seen).symm
    | cons head rest ih =>
      rw [List.foldl_cons, ih]
      by_cases hseen : seen.any (·.agrees head) = true
      · rw [if_pos hseen, List.filter_cons_of_neg (by rw [hseen]; decide)]
      · rw [if_neg hseen, List.filter_cons_of_pos (by simpa using hseen),
          List.eraseDupsBy_cons, List.filter_filter, List.append_assoc, List.singleton_append]
        congr 3
        refine List.filter_congr fun item _ => ?_
        rw [List.any_append, List.any_cons, List.any_nil, Bool.or_false, Bool.not_or,
          Bool.and_comm]
        cases head.agrees item <;> rfl
  rw [distinct, hfold]
  simp

theorem distinct_replicate (c : Cell) (n : Nat) : distinct (List.replicate (n + 1) c) = [c] := by
  have hnone : (List.replicate n c).filter (fun item => c.agrees item = false) = [] :=
    List.filter_eq_nil_iff.2 fun item hitem => by simp [List.eq_of_mem_replicate hitem]
  rw [distinct_eq_eraseDupsBy, List.replicate_succ, List.eraseDupsBy_cons, hnone]
  rfl

/-- Children with one template make a group of a node that has it too, and else a complex node. -/
theorem classify_of_forall_eq {sheet name : String} {childTemplates : List Value}
    (hne : childTemplates ≠ []) (hall : ∀ template ∈ childTemplates, template = .str name) :
    classify (.str sheet) childTemplates =
      some (if name = sheet then .group else .complex [.str name]) := by
  obtain ⟨n, rfl⟩ : ∃ n, childTemplates = List.replicate (n + 1) (.str name) := by
    obtain ⟨n, hn⟩ := Nat.exists_eq_succ_of_ne_zero (mt List.length_eq_zero_iff.1 hne)
    exact ⟨n, List.eq_replicate_iff.2 ⟨hn, hall⟩⟩
  have hany : (List.replicate (n + 1) (Value.str name)).any (·.equals (.str sheet)) =
      decide (name = sheet) := by
    rw [Bool.eq_iff_iff]
    simp
  have hsingle : (List.replicate (n + 1) (Value.str name)).mapM Value.single? =
      some (List.replicate (n + 1) (.str name)) := by
    generalize n + 1 = m
    induction m with
    | zero => rfl
    | succ m ih => simp [List.replicate_succ, List.mapM_cons, ih, Value.single?]
  rw [classify, if_neg hne, hany, hsingle, Option.map_some, distinct_replicate]
  by_cases h : name = sheet <;> simp [h]

namespace Node

variable {node : Node} {sheet : String} {labels : List Label} {pages : PageSet}

theorem contribute_simple (ht : node.template = .str sheet)
    (hp : pages.contains (.str sheet) = true) :
    node.contribute labels [] pages =
      (.ok none, pages.addRows (.str sheet) [node.column node.type.name labels]) := by
  simp [contribute, classify, ht, hp]

theorem contribute_group {childTemplates : List Value} (ht : node.template = .str sheet)
    (hne : childTemplates ≠ []) (hall : ∀ template ∈ childTemplates, template = .str sheet) :
    node.contribute labels childTemplates pages =
      (.ok (some (labels ++ [(node.name, node.description)])), pages) := by
  rw [contribute, ht, classify_of_forall_eq hne hall, if_pos rfl]

theorem contribute_complex {childTemplates : List Value} {name : String}
    (ht : node.template = .str sheet) (hne : childTemplates ≠ [])
    (hall : ∀ template ∈ childTemplates, template = .str name) (hname : name ≠ sheet)
    (hp : pages.contains (.str sheet) = true) :
    node.contribute labels childTemplates pages =
      (.ok (if pages.contains (.str name) then none else some []),
        (pages.addRows (.str sheet) [node.column (.str name) labels]).create (.str name)) := by
  rw [contribute, ht, classify_of_forall_eq hne hall, if_neg hname]
  simp [hp, PageSet.createAll]

end Node

section Project

variable {node : Node} {children rest : Forest Node} {sheet : String} {labels : List Label}
  {pages after : PageSet}

theorem roots_ne_nil (h : children ≠ .nil) : children.roots.map (·.template) ≠ [] := by
  cases children with
  | nil => exact absurd rfl h
  | node value below rest => simp [Forest.roots]

theorem project_simple (ht : node.template = .str sheet)
    (hp : pages.contains (.str sheet) = true) :
    project labels (.node node .nil rest) pages =
      project labels rest
        (pages.addRows (.str sheet) [node.column node.type.name labels]) := by
  rw [project, Forest.roots, List.map_nil, Node.contribute_simple ht hp]

theorem project_group (ht : node.template = .str sheet) (hne : children ≠ .nil)
    (hall : ∀ child ∈ children.roots, child.template = .str sheet)
    (hchildren : project (labels ++ [(node.name, node.description)]) children pages =
      (.ok (), after)) :
    project labels (.node node children rest) pages = project labels rest after := by
  rw [project, Node.contribute_group ht (roots_ne_nil hne) (by simpa using hall)]
  simp only [hchildren]

variable {name : String}

theorem project_skipped (ht : node.template = .str sheet) (hne : children ≠ .nil)
    (hall : ∀ child ∈ children.roots, child.template = .str name) (hname : name ≠ sheet)
    (hp : pages.contains (.str sheet) = true) (hskip : pages.contains (.str name) = true) :
    project labels (.node node children rest) pages =
      project labels rest
        (pages.addRows (.str sheet) [node.column (.str name) labels]) := by
  have hthere : (pages.addRows (.str sheet) [node.column (.str name) labels]).contains
      (.str name) = true := by
    rw [PageSet.contains_str, PageSet.names_addRows, ← PageSet.contains_str]
    exact hskip
  rw [project, Node.contribute_complex ht (roots_ne_nil hne) (by simpa using hall) hname hp,
    if_pos hskip, PageSet.create, if_pos hthere]

theorem project_entered (ht : node.template = .str sheet) (hne : children ≠ .nil)
    (hall : ∀ child ∈ children.roots, child.template = .str name) (hname : name ≠ sheet)
    (hp : pages.contains (.str sheet) = true) (henter : ¬pages.contains (.str name) = true)
    (hchildren : project [] children
      ((pages.addRows (.str sheet) [node.column (.str name) labels]).create (.str name)) =
      (.ok (), after)) :
    project labels (.node node children rest) pages = project labels rest after := by
  rw [project, Node.contribute_complex ht (roots_ne_nil hne) (by simpa using hall) hname hp,
    if_neg henter]
  simp only [hchildren]

end Project

end SheetSchema
