import SheetSchema.Proofs.Building.GridOutcome

/-! The forests that a grid yields where building succeeds: every data row enters its path and its
field, and what a field refers to has been built below it. `Grid.forest_induction` is the
induction over the nesting of references that follows. -/
namespace SheetSchema

/-- How a row is entered, given which forests are built for its requests. -/
inductive Row.Entered (vocabulary : Vocabulary) (scope : Scope)
    (built : Request → Forest Node → Prop) (row : Row) : Sketch.Entry → Prop
  | bare (meaning : row.hasMeaning vocabulary scope = true)
      (bare : row.node? vocabulary scope = none) :
      Entered vocabulary scope built row (row.path, .nil)
  | field {node : Node} (meaning : row.hasMeaning vocabulary scope = true)
      (field : row.node? vocabulary scope = some node)
      (closed : row.request? vocabulary scope = none) :
      Entered vocabulary scope built row (row.path, .tree node .nil)
  | reference {node : Node} {request : Request} {children : Forest Node}
      (meaning : row.hasMeaning vocabulary scope = true)
      (field : row.node? vocabulary scope = some node)
      (requested : row.request? vocabulary scope = some request)
      (content : built request children) :
      Entered vocabulary scope built row (row.path, .tree node children)

namespace Row

variable {vocabulary : Vocabulary} {scope : Scope} {row : Row} {entry : Sketch.Entry}

theorem Entered.mono {built built' : Request → Forest Node → Prop}
    (h : ∀ request children, row.request? vocabulary scope = some request →
      built request children → built' request children)
    (entered : row.Entered vocabulary scope built entry) :
    row.Entered vocabulary scope built' entry := by
  cases entered with
  | bare meaning bare => exact .bare meaning bare
  | field meaning field closed => exact .field meaning field closed
  | reference meaning field requested content =>
    exact .reference meaning field requested (h _ _ requested content)

theorem Entered.path_eq {built : Request → Forest Node → Prop}
    (entered : row.Entered vocabulary scope built entry) : entry.1 = row.path := by
  cases entered <;> rfl

/-- Only a row with a node requests anything. -/
theorem request?_of_node?_eq_none (h : row.node? vocabulary scope = none) :
    row.request? vocabulary scope = none := by
  unfold node? at h
  unfold request?
  cases hc : row.content vocabulary scope <;> simp_all

theorem entry_eq_ok_iff {content : Request → Except BuildError (Forest Node)} :
    row.entry vocabulary content scope = .ok entry ↔
      row.Entered vocabulary scope (fun request children => content request = .ok children)
        entry := by
  unfold Row.entry
  constructor
  · intro h
    cases hm : row.hasMeaning vocabulary scope with
    | false => simp [hm, bind, Except.bind, throw, throwThe, MonadExceptOf.throw] at h
    | true =>
      cases hn : row.node? vocabulary scope with
      | none =>
        simp [hm, hn, request?_of_node?_eq_none hn, bind, Except.bind, pure, Except.pure] at h
        subst h
        exact .bare hm hn
      | some node =>
        cases hr : row.request? vocabulary scope with
        | none =>
          simp [hm, hn, hr, bind, Except.bind, pure, Except.pure] at h
          subst h
          exact .field hm hn hr
        | some request =>
          cases hc : content request with
          | error e => simp [hm, hr, hc, bind, Except.bind] at h
          | ok children =>
            simp [hm, hn, hr, hc, bind, Except.bind, pure, Except.pure] at h
            subst h
            exact .reference hm hn hr hc
  · intro h
    cases h with
    | bare hm hn =>
      simp [hm, hn, request?_of_node?_eq_none hn, bind, Except.bind, pure, Except.pure]
    | field hm hn hr => simp [hm, hn, hr, bind, Except.bind, pure, Except.pure]
    | reference hm hn hr hc => simp [hm, hn, hr, hc, bind, Except.bind, pure, Except.pure]

end Row

namespace Grid

variable {grid : Grid} {vocabulary : Vocabulary}

theorem forest_eq_ok_iff {content : Request → Except BuildError (Forest Node)} {scope : Scope}
    {forest : Forest Node} :
    grid.forest vocabulary content scope = .ok forest ↔
      ∃ entries,
        List.Forall₂
          (Row.Entered vocabulary scope fun request children => content request = .ok children)
          (grid.dataRows vocabulary scope.isRoot scope.sheet) entries ∧
        forest = Sketch.assemble scope.sheet entries := by
  unfold Grid.forest
  constructor
  · intro h
    cases hm : (grid.dataRows vocabulary scope.isRoot scope.sheet).mapM
        (Row.entry vocabulary content scope) with
    | error e => simp [hm, bind, Except.bind] at h
    | ok entries =>
      simp [hm, bind, Except.bind, pure, Except.pure] at h
      exact ⟨entries, (mapM_eq_ok_iff.1 hm).imp fun _ _ => Row.entry_eq_ok_iff.1, h.symm⟩
  · rintro ⟨entries, hentries, rfl⟩
    have hm := mapM_eq_ok_iff.2 (hentries.imp fun _ _ => Row.entry_eq_ok_iff.2)
    simp [hm, bind, Except.bind, pure, Except.pure]

/-- The content of a request is the forest of an existing sheet that reaches its first data row
and is not being read. -/
theorem content_eq_ok_iff {chain : List String} {request : Request} {forest : Forest Node} :
    grid.content vocabulary chain request = .ok forest ↔
      request.sheet ∉ chain ∧ request.sheet ∈ grid.sheets ∧
        vocabulary.layout.referenceFirstRow ≤ grid.rowExtent request.sheet ∧
        grid.forest vocabulary (grid.content vocabulary (chain ++ [request.sheet]))
          request.scope = .ok forest := by
  rw [Grid.content]
  by_cases hc : request.sheet ∈ chain
  · simp [hc]
  · by_cases hs : request.sheet ∈ grid.sheets
    · by_cases he : grid.rowExtent request.sheet < vocabulary.layout.referenceFirstRow
      · simp only [hc, hs, he, not_false_eq_true, true_and, ↓reduceDIte, ↓reduceIte, reduceCtorEq,
          false_iff, not_and]
        omega
      · simp [hc, hs, he, Int.not_lt.1 he]
    · simp [hc, hs]

theorem schema_eq_ok_iff {root : String} {schema : Schema} :
    grid.schema vocabulary root = .ok schema ↔
      root ∈ grid.sheets ∧ vocabulary.layout.rootFirstRow ≤ grid.rowExtent root ∧
        grid.forest vocabulary (grid.content vocabulary [root]) (rootScope root) =
          .ok schema.forest ∧
        schema.description = grid.shown root vocabulary.layout.descriptionCell.1
          vocabulary.layout.descriptionCell.2 ∧
        schema.version = grid.shown root vocabulary.layout.versionCell.1
          vocabulary.layout.versionCell.2 := by
  unfold Grid.schema
  by_cases hr : root ∈ grid.sheets
  · by_cases he : grid.rowExtent root < vocabulary.layout.rootFirstRow
    · simp only [hr, he, not_true_eq_false, true_and, ↓reduceIte, reduceCtorEq, false_iff, not_and]
      omega
    · cases hf : grid.forest vocabulary (grid.content vocabulary [root]) (rootScope root) with
      | error e => simp [hr, he, bind, Except.bind]
      | ok forest =>
        cases schema
        simp only [hr, he, Int.not_lt.1 he, bind, Except.bind, pure, Except.pure,
          not_true_eq_false, ↓reduceIte, Except.ok.injEq, Schema.mk.injEq, true_and]
        constructor
        · rintro ⟨hdescription, hversion, hforest⟩
          exact ⟨hforest, hdescription.symm, hversion.symm⟩
        · rintro ⟨hforest, hdescription, hversion⟩
          exact ⟨hdescription.symm, hversion.symm, hforest⟩
  · simp [hr]

/-- Induction over the nesting of references: what holds of a sheet's forest whenever it holds of
all the contents that its rows refer to holds of every forest that is built. -/
theorem forest_induction {P : List String → Scope → Forest Node → Prop}
    (step : ∀ chain scope entries,
      List.Forall₂
        (Row.Entered vocabulary scope fun request children =>
          grid.content vocabulary chain request = .ok children ∧
            P (chain ++ [request.sheet]) request.scope children)
        (grid.dataRows vocabulary scope.isRoot scope.sheet) entries →
      P chain scope (Sketch.assemble scope.sheet entries))
    {chain : List String} {scope : Scope} {forest : Forest Node}
    (h : grid.forest vocabulary (grid.content vocabulary chain) scope = .ok forest) :
    P chain scope forest := by
  obtain ⟨entries, hentries, hforest⟩ := forest_eq_ok_iff.1 h
  rw [hforest]
  apply step
  refine hentries.imp fun row entry => Row.Entered.mono fun request children _ hcontent => ?_
  obtain ⟨hc, hs, _, hbelow⟩ := content_eq_ok_iff.1 hcontent
  exact ⟨hcontent, forest_induction step hbelow⟩
termination_by (Build.unopened (grid.source : Source Unit) chain).length
decreasing_by exact Build.length_unopened_lt _ hs hc

end Grid

end SheetSchema
