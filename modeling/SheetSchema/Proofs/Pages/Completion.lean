import SheetSchema.Compile
import SheetSchema.Proofs.Pages.Contribution
import SheetSchema.Proofs.Pages.Expansion
import SheetSchema.Proofs.Trees.Kinds

/-! Flattening what was built never fails, over any source and onto any pages. The page of a sheet
is there before the first node of the sheet is visited: that of the root is created first, and a
reference that is entered has created the page of the sheet that it names. Pages are only added, so
a type that names a page does so for good. -/
namespace SheetSchema

open Forest PageSet

namespace PageSet

/-- The types of all columns satisfy a property. -/
def Types (K : Value → Prop) (pages : PageSet) : Prop :=
  ∀ page ∈ pages.pages, ∀ column ∈ page.rows, K column.dataType

/-- The types of all columns are known, or they name pages of the set. -/
def Resolved (known : Value → Prop) (pages : PageSet) : Prop :=
  pages.Types fun dataType => known dataType ∨ ∃ name ∈ pages.names, dataType = .cell name

/-- Pages that are added to and stay resolved. -/
structure Extends (known : Value → Prop) (before after : PageSet) : Prop where
  contains : ∀ name, before.contains (.str name) = true → after.contains (.str name) = true
  resolved : before.Resolved known → after.Resolved known

variable {K known : Value → Prop} {pages : PageSet}

theorem Types.mono {K' : Value → Prop} (h : pages.Types K) (hK : ∀ v, K v → K' v) :
    pages.Types K' :=
  fun page hpage column hcolumn => hK _ (h page hpage column hcolumn)

theorem Types.addRows (h : pages.Types K) (name : Cell) {rows : List Column}
    (hrows : ∀ row ∈ rows, K row.dataType) : (pages.addRows name rows).Types K := by
  intro page hpage column hcolumn
  obtain ⟨old, hold, rfl⟩ := List.mem_map.1 hpage
  by_cases hname : old.name.agrees name = true
  · rw [if_pos hname] at hcolumn
    rcases List.mem_append.1 hcolumn with hcolumn | hcolumn
    · exact h old hold column hcolumn
    · exact hrows column hcolumn
  · rw [if_neg hname] at hcolumn
    exact h old hold column hcolumn

theorem Types.create (h : pages.Types K) (name : Cell) : (pages.create name).Types K := by
  unfold PageSet.create
  by_cases hname : pages.contains name = true
  · rwa [if_pos hname]
  · rw [if_neg hname]
    intro page hpage column hcolumn
    rcases List.mem_append.1 hpage with hpage | hpage
    · exact h page hpage column hcolumn
    · rw [List.mem_singleton.1 hpage] at hcolumn
      simp at hcolumn

theorem names_subset_create (name : Cell) : pages.names ⊆ (pages.create name).names := by
  rw [names_create]
  split
  · exact List.Subset.refl _
  · exact List.subset_append_left _ _

theorem Resolved.create (h : pages.Resolved known) (name : Cell) :
    (pages.create name).Resolved known := by
  refine (Types.create h name).mono fun v => Or.imp_right ?_
  rintro ⟨other, hother, rfl⟩
  exact ⟨other, names_subset_create name hother, rfl⟩

namespace Extends

theorem refl (known : Value → Prop) (pages : PageSet) : pages.Extends known pages :=
  ⟨fun _ => id, id⟩

theorem trans {before mid after : PageSet} (h : before.Extends known mid)
    (h' : mid.Extends known after) : before.Extends known after :=
  ⟨fun name hname => h'.contains name (h.contains name hname), fun hr => h'.resolved (h.resolved hr)⟩

theorem create (name : String) : pages.Extends known (pages.create (.str name)) :=
  ⟨fun _ hother => contains_create.2 (.inl hother), fun h => h.create _⟩

/-- A column of a known type can be written. -/
theorem known_row (name : Cell) {row : Column} (h : known row.dataType) :
    pages.Extends known (pages.addRows name [row]) := by
  refine ⟨fun other hother => ?_, fun hresolved => ?_⟩
  · rwa [contains_addRows]
  · unfold Resolved at hresolved ⊢
    rw [names_addRows]
    exact hresolved.addRows name (by simpa using .inl h)

/-- A column that refers to a page can be written if the page is created. -/
theorem reference_row (sheet : Cell) {name : String} {row : Column}
    (h : row.dataType = .str name) :
    pages.Extends known ((pages.addRows sheet [row]).create (.str name)) := by
  have hnames : pages.names ⊆ ((pages.addRows sheet [row]).create (.str name)).names := by
    rw [← names_addRows pages sheet [row]]
    exact names_subset_create _
  have hpage : Cell.str name ∈ ((pages.addRows sheet [row]).create (.str name)).names :=
    contains_str.1 (contains_create.2 (.inr rfl))
  refine ⟨fun other hother => ?_, fun hresolved => ?_⟩
  · rw [contains_str] at hother ⊢
    exact hnames hother
  · apply Types.create
    apply Types.addRows
    · refine hresolved.mono fun v => Or.imp_right ?_
      rintro ⟨other, hother, rfl⟩
      exact ⟨other, hnames hother, rfl⟩
    · simpa using .inr ⟨_, hpage, h⟩

end Extends

end PageSet

section WellTyped

variable {known : Value → Prop} {sheets : List String} {dataTypes : List Cell}
  {chain : List String} {sheet : String}

/-- A node of a well-typed forest contributes to the page of its sheet. If its children are
flattened, there is a page for their sheet, too. -/
theorem Forest.WellTyped.contribute {node : Node} {children : Forest Node}
    (h : (tree node children).WellTyped sheets dataTypes chain sheet) (hsheet : sheet ∈ chain)
    (hknown : children = .nil → known node.type.name) (labels : List Label) {pages : PageSet}
    (hpage : pages.contains (.str sheet) = true) :
    ∃ next after,
      node.contribute labels (children.roots.map (·.template)) pages = (.ok next, after) ∧
      pages.Extends known after ∧
      (next ≠ none → ∃ chain' sheet', sheet' ∈ chain' ∧
        children.WellTyped sheets dataTypes chain' sheet' ∧
        after.contains (.str sheet') = true) := by
  have htemplate : node.template = .str sheet := h.1
  by_cases hnil : children = .nil
  · subst hnil
    exact ⟨_, _, Node.contribute_simple htemplate hpage, .known_row _ (hknown rfl), by simp⟩
  · have hne := roots_ne_nil hnil
    cases ht : node.type with
    | structural =>
      have hchildren := h.structural ht
      exact ⟨_, _, Node.contribute_group htemplate hne (by simpa using fun _ => hchildren.template_eq),
        .refl _ _, fun _ => ⟨chain, sheet, hsheet, hchildren, hpage⟩⟩
    | leaf dataType => exact absurd (h.leaf ht).2 hnil
    | reference target =>
      obtain ⟨name, rfl, _, _, _, hother, hchildren⟩ := h.reference hsheet ht
      exact ⟨_, _, Node.contribute_complex htemplate hne
        (by simpa using fun _ => hchildren.template_eq) hother hpage, .reference_row _ rfl,
        fun _ => ⟨chain ++ [name], name, by simp, hchildren, contains_create.2 (.inr rfl)⟩⟩

namespace Flattening

/-- A run over a well-typed forest succeeds, whatever labels there are, and extends the pages. -/
theorem run_wellTyped (forest : Forest Vertex) (group : Option Vertex) (state : Flattening)
    (h : (forest.map (·.toNode)).WellTyped sheets dataTypes chain sheet) (hsheet : sheet ∈ chain)
    (hpage : state.pages.contains (.str sheet) = true)
    (hknown : ∀ branch ∈ (forest.map (·.toNode)).branches, branch.2 = .nil →
      known branch.1.type.name) :
    ∃ after, (run group forest).run state = (.ok (), after) ∧
      state.pages.Extends known after.pages := by
  induction forest generalizing group state chain sheet with
  | nil => exact ⟨state, rfl, .refl _ _⟩
  | node vertex children rest ihc ihr =>
    have hroots : (children.map (·.toNode)).roots.map (·.template) =
        children.roots.map (·.template) := by
      rw [Forest.roots_map, List.map_map]
      rfl
    simp only [Forest.map, branches, List.forall_mem_cons, List.forall_mem_append] at hknown
    obtain ⟨hvertex, hbelow, hbeside⟩ := hknown
    obtain ⟨htemplate, htype, hrest⟩ := h
    have htree : (tree vertex.toNode (children.map (·.toNode))).WellTyped sheets dataTypes chain
        sheet := ⟨htemplate, htype, trivial⟩
    obtain ⟨mid, _, hpages, hrun⟩ :=
      run_visit vertex (children.roots.map (·.template)) (entered group vertex state)
    rw [pages_entered] at hpages hrun
    obtain ⟨next, pages, hcontribute, hextends, hnext⟩ := htree.contribute hsheet hvertex
      ((entered group vertex state).labels.get vertex.key) hpage
    rw [hroots] at hcontribute
    rw [hcontribute] at hpages hrun
    dsimp only at hpages hrun
    subst hpages
    -- The rest comes when the pages have been extended by the vertex and what stands below it.
    have htail (later : Flattening) (hlater : state.pages.Extends known later.pages) :
        ∃ after, (run group rest).run later = (.ok (), after) ∧
          state.pages.Extends known after.pages := by
      obtain ⟨after, hafter, hmore⟩ :=
        ihr group later hrest hsheet (hlater.contains _ hpage) hbeside
      exact ⟨after, hafter, hlater.trans hmore⟩
    rw [run, run_bind, run_visitBelow]
    cases next with
    | none =>
      rw [hrun]
      exact htail mid hextends
    | some inner =>
      obtain ⟨below, _, _, hrun⟩ := hrun
      obtain ⟨chain', sheet', hsheet', hchildren, hpage'⟩ := hnext (by simp)
      obtain ⟨later, hlater, hmore⟩ := ihc below mid hchildren hsheet' hpage' hbelow
      rw [hrun]
      dsimp only
      rw [run_bind, hlater]
      exact htail later (hextends.trans hmore)

end Flattening

variable (known)

/-- Flattening a well-typed forest below its sheet succeeds on any pages and with any labels. -/
theorem flattenFrom_wellTyped {forest : Forest Node} {root : String}
    (h : forest.WellTyped sheets dataTypes [root] root)
    (hknown : ∀ branch ∈ forest.branches, branch.2 = .nil → known branch.1.type.name)
    (state : Flattening) :
    ∃ after, flattenFrom (.str root) forest.vertices state = (.ok (), after) ∧
      state.pages.Extends known after.pages := by
  let started : Flattening := { state with pages := state.pages.create (.str root) }
  have hpage : started.pages.contains (.str root) = true := contains_create.2 (.inr rfl)
  rw [← Forest.map_vertices forest] at h hknown
  obtain ⟨after, hrun, hextends⟩ := Flattening.run_wellTyped forest.vertices none started h
    (List.mem_singleton_self root) hpage hknown
  let journaled (state : Flattening) : Flattening :=
    { state with
      journal := state.journal.push
        (.flattened (.str root) state.pages.size state.pages.rowCount) }
  have hfrom : flattenFrom (.str root) forest.vertices state =
      (Flattening.run none forest.vertices >>= fun _ => modify journaled : FlattenM Unit).run
        started := rfl
  rw [hfrom, run_bind, hrun]
  exact ⟨journaled after, rfl, (Extends.create root).trans hextends⟩

/-- A well-typed schema is flattened onto pages of its own, on which the type of every column is
known or names one of them. -/
theorem pagesOf_wellTyped {schema : Schema} {root : String}
    (h : schema.forest.WellTyped sheets dataTypes [root] root)
    (hknown : ∀ branch ∈ schema.forest.branches, branch.2 = .nil → known branch.1.type.name)
    (journal : Journal) :
    ∃ compiled, (Compile.pagesOf root schema journal).1 = .ok compiled ∧
      compiled.schema = schema ∧ compiled.pages.Resolved known := by
  obtain ⟨flat, hflat, hextends⟩ := flattenFrom_wellTyped known h hknown { pages := {}, journal }
  refine ⟨{ schema, pages := flat.pages, labels := flat.labels }, ?_, rfl, hextends.resolved nofun⟩
  unfold Compile.pagesOf
  simp only [hflat, Except.map]

end WellTyped

end SheetSchema
