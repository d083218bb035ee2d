import Mathlib.Data.List.Forall2

/-! Computations that may fail, with or without a state, what it means that a list of them
succeeds, and how a computation that gives a value is taken apart. -/
namespace SheetSchema

/-- A failure skips what follows and keeps the state. -/
theorem run_bind {ε σ α β : Type} (m : ExceptT ε (StateM σ) α) (f : α → ExceptT ε (StateM σ) β)
    (state : σ) :
    (m >>= f).run state =
      match m.run state with
      | (.ok value, after) => (f value).run after
      | (.error error, after) => (.error error, after) := by
  simp only [bind, ExceptT.bind, ExceptT.run, ExceptT.mk, StateT.bind]
  rcases m state with ⟨_ | _, after⟩ <;> rfl

theorem run_bind_eq_ok_iff {ε σ α β : Type} {m : ExceptT ε (StateM σ) α}
    {f : α → ExceptT ε (StateM σ) β} {before after : σ} {result : β} :
    (m >>= f).run before = (.ok result, after) ↔
      ∃ value between, m.run before = (.ok value, between) ∧
        (f value).run between = (.ok result, after) := by
  rw [run_bind]
  rcases m.run before with ⟨error | value, between⟩
  · constructor
    · nofun
    · rintro ⟨_, _, h, -⟩
      cases h
  · constructor
    · exact fun h => ⟨value, between, rfl, h⟩
    · rintro ⟨_, _, ⟨⟩, h⟩
      exact h

theorem run_mapM_cons {ε σ α β : Type} {f : α → ExceptT ε (StateM σ) β} {item : α} {rest : List α}
    {result : β} {results : List β} {before between after : σ}
    (hitem : (f item).run before = (.ok result, between))
    (hrest : (rest.mapM f).run between = (.ok results, after)) :
    ((item :: rest).mapM f).run before = (.ok (result :: results), after) := by
  rw [List.mapM_cons]
  refine run_bind_eq_ok_iff.2 ⟨result, between, hitem, ?_⟩
  exact run_bind_eq_ok_iff.2 ⟨results, after, hrest, rfl⟩

/-- A computation gives a value from one state at least. -/
def Yields {ε σ α : Type} (m : ExceptT ε (StateM σ) α) (value : α) : Prop :=
  ∃ state, (m.run state).1 = .ok value

namespace Yields

variable {ε σ α β : Type} {m : ExceptT ε (StateM σ) α} {f : α → ExceptT ε (StateM σ) β}

theorem of_pure {value other : α} (h : Yields (pure value : ExceptT ε (StateM σ) α) other) :
    other = value := by
  obtain ⟨_, h⟩ := h
  cases h
  rfl

theorem of_throw {error : ε} {value : α} :
    ¬Yields (throw error : ExceptT ε (StateM σ) α) value := by
  rintro ⟨_, h⟩
  cases h

theorem of_bind {result : β} (h : Yields (m >>= f) result) :
    ∃ value, Yields m value ∧ Yields (f value) result := by
  obtain ⟨state, h⟩ := h
  obtain ⟨value, between, hm, hf⟩ := run_bind_eq_ok_iff.1 (Prod.ext h rfl)
  exact ⟨value, ⟨state, congrArg (·.1) hm⟩, between, congrArg (·.1) hf⟩

theorem of_mapM {items : List α} {results : List β} (h : Yields (items.mapM f) results) :
    List.Forall₂ (fun item result => Yields (f item) result) items results := by
  induction items generalizing results with
  | nil =>
    rw [List.mapM_nil] at h
    rw [of_pure h]
    exact .nil
  | cons item rest ih =>
    rw [List.mapM_cons] at h
    obtain ⟨result, hresult, h⟩ := h.of_bind
    obtain ⟨others, hothers, h⟩ := h.of_bind
    rw [of_pure h]
    exact .cons hresult (ih hothers)

end Yields

section Traversal

variable {α β γ : Type} {R : α → β → Prop}

/-- A traversal that may fail succeeds if it does at every item. -/
theorem mapM_eq_ok_iff {ε : Type} {f : α → Except ε β} {items : List α} {results : List β} :
    items.mapM f = .ok results ↔ List.Forall₂ (fun a b => f a = .ok b) items results := by
  induction items generalizing results with
  | nil => cases results <;> simp [pure, Except.pure]
  | cons a rest ih =>
    rw [List.mapM_cons]
    cases ha : f a with
    | error e => cases results <;> simp [bind, Except.bind, ha]
    | ok b =>
      cases hr : rest.mapM f with
      | error e => cases results <;> simp [bind, Except.bind, ha, hr, ← ih]
      | ok bs => cases results <;> simp [bind, Except.bind, pure, Except.pure, ha, hr, ← ih]

/-- A traversal fails as it does at the first item at which it fails. -/
theorem mapM_eq_error_iff {ε : Type} {f : α → Except ε β} {items : List α} {error : ε} :
    items.mapM f = .error error ↔ ∃ before item after, items = before ++ item :: after ∧
      (∀ earlier ∈ before, ∃ result, f earlier = .ok result) ∧ f item = .error error := by
  induction items with
  | nil => simp [pure, Except.pure]
  | cons a rest ih =>
    rw [List.mapM_cons]
    cases ha : f a with
    | error other =>
      constructor
      · intro h
        cases h
        exact ⟨[], a, rest, rfl, nofun, ha⟩
      · rintro ⟨before, item, after, hitems, hbefore, hitem⟩
        cases before with
        | nil =>
          cases hitems
          rw [ha] at hitem
          cases hitem
          rfl
        | cons first before =>
          cases hitems
          obtain ⟨result, hresult⟩ := hbefore a (List.mem_cons_self ..)
          rw [ha] at hresult
          contradiction
    | ok b =>
      have hrest : (do return b :: (← rest.mapM f) : Except ε (List β)) = .error error ↔
          rest.mapM f = .error error := by
        cases rest.mapM f <;> simp [bind, Except.bind, pure, Except.pure]
      refine hrest.trans (ih.trans ?_)
      constructor
      · rintro ⟨before, item, after, rfl, hbefore, hitem⟩
        exact ⟨a :: before, item, after, rfl, List.forall_mem_cons.2 ⟨⟨b, ha⟩, hbefore⟩, hitem⟩
      · rintro ⟨before, item, after, hitems, hbefore, hitem⟩
        cases before with
        | nil =>
          cases hitems
          rw [ha] at hitem
          contradiction
        | cons first before =>
          cases hitems
          exact ⟨before, item, after, rfl, (List.forall_mem_cons.1 hbefore).2, hitem⟩

theorem mapM_eq_ok_map {ε : Type} {f : α → Except ε β} {g : α → β} {items : List α}
    (h : ∀ a ∈ items, f a = .ok (g a)) : items.mapM f = .ok (items.map g) :=
  mapM_eq_ok_iff.2 (List.forall₂_map_right_iff.2 (List.forall₂_same.2 h))

theorem map_eq_ok_iff {ε : Type} {m : Except ε α} {f : α → β} {result : β} :
    m.map f = .ok result ↔ ∃ value, m = .ok value ∧ f value = result := by
  cases m <;> simp [Except.map]

/-- A traversal whose results are mapped one by one is mapped as a whole. -/
theorem mapM_map_results {ε : Type} (f : α → Except ε β) (g : β → γ) (items : List α) :
    items.mapM (fun item => (f item).map g) = (items.mapM f).map (List.map g) := by
  induction items with
  | nil => rfl
  | cons item items ih =>
    rw [List.mapM_cons, List.mapM_cons, ih]
    rcases f item with _ | result
    · rfl
    · rcases items.mapM f with _ | results <;> rfl

theorem exists_forall₂_iff {as : List α} :
    (∃ bs, List.Forall₂ R as bs) ↔ ∀ a ∈ as, ∃ b, R a b := by
  induction as with
  | nil => simp
  | cons a as ih => simp [List.forall₂_cons_left_iff, ← ih]

/-- Two lists that are related to the same list are related item by item. -/
theorem forall₂_of_common {S : α → γ → Prop} {T : β → γ → Prop} {as : List α} {bs : List β}
    {cs : List γ} (h : ∀ a b c, R a b → S a c → T b c) (hb : List.Forall₂ R as bs)
    (hc : List.Forall₂ S as cs) : List.Forall₂ T bs cs := by
  induction hb generalizing cs with
  | nil =>
    cases hc
    exact .nil
  | cons hab _ ih =>
    cases hc with
    | cons hac hrest => exact .cons (h _ _ _ hab hac) (ih hrest)

/-- What every item with a related one has is found for two related lists, item by item. -/
theorem exists_forall₂_of_related {S : α → γ → Prop} {T : β → γ → Prop} {as : List α} {bs : List β}
    (h : ∀ a b, R a b → ∃ c, S a c ∧ T b c) (hb : List.Forall₂ R as bs) :
    ∃ cs, List.Forall₂ S as cs ∧ List.Forall₂ T bs cs := by
  induction hb with
  | nil => exact ⟨[], .nil, .nil⟩
  | cons hab _ ih =>
    obtain ⟨c, hac, hbc⟩ := h _ _ hab
    obtain ⟨cs, has, hbs⟩ := ih
    exact ⟨c :: cs, .cons hac has, .cons hbc hbs⟩

theorem exists_of_forall₂_right {as : List α} {bs : List β} (h : List.Forall₂ R as bs) {b : β}
    (hb : b ∈ bs) : ∃ a ∈ as, R a b := by
  induction h with
  | nil => simp at hb
  | @cons a b' as bs hab _ ih =>
    rcases List.mem_cons.1 hb with rfl | hb
    · exact ⟨a, by simp, hab⟩
    · obtain ⟨a', ha', hab'⟩ := ih hb
      exact ⟨a', by simp [ha'], hab'⟩

theorem exists_of_forall₂_left {as : List α} {bs : List β} (h : List.Forall₂ R as bs) {a : α}
    (ha : a ∈ as) : ∃ b ∈ bs, R a b :=
  exists_of_forall₂_right h.flip ha

end Traversal

end SheetSchema
