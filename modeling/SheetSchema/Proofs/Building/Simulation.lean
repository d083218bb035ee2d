import SheetSchema.Build
import SheetSchema.Proofs.Computation

/-! Builds over two sources that run in step: from related progresses they come to related ones
with the same result, or fail alike with the same sheets recalculated. Where the first fails to
look at a cell or a sheet, its error may be one that the second does not see. -/
namespace SheetSchema.Build

variable {σ τ α β : Type} {Lost : AccessError → Prop} {P Q R : Progress σ → Progress τ → Prop}

/-- `Lost` are the errors that only the first computation fails with. -/
def InStep (Lost : AccessError → Prop) (P Q : Progress σ → Progress τ → Prop) (m : BuildM σ α)
    (n : BuildM τ α) : Prop :=
  ∀ p q, P p q →
    (∃ error p', m.run p = (.error (.access error), p') ∧ Lost error) ∨
    (∃ error p' q', m.run p = (.error error, p') ∧ n.run q = (.error error, q') ∧
      p'.recalculated = q'.recalculated) ∨
    ∃ value p' q', m.run p = (.ok value, p') ∧ n.run q = (.ok value, q') ∧ Q p' q'

namespace InStep

theorem pure (value : α) : InStep Lost P P (Pure.pure value) (Pure.pure value) :=
  fun p q h => .inr (.inr ⟨value, p, q, rfl, rfl, h⟩)

theorem throw (error : BuildError) (h : ∀ p q, P p q → p.recalculated = q.recalculated) :
    InStep Lost P Q (MonadExcept.throw error : BuildM σ α) (MonadExcept.throw error) :=
  fun p q hpq => .inr (.inl ⟨error, p, q, rfl, rfl, h p q hpq⟩)

/-- What follows may rely on the values that the second computation gives. -/
theorem bind_of_yields {m : BuildM σ α} {n : BuildM τ α} {f : α → BuildM σ β} {g : α → BuildM τ β}
    (hm : InStep Lost P Q m n)
    (hf : ∀ value, Yields n value → InStep Lost Q R (f value) (g value)) :
    InStep Lost P R (m >>= f) (n >>= g) := by
  intro p q h
  rw [run_bind, run_bind]
  rcases hm p q h with ⟨error, p', hp, hlost⟩ | ⟨error, p', q', hp, hq, hsame⟩ |
    ⟨value, p', q', hp, hq, hrest⟩
  · rw [hp]
    exact .inl ⟨error, p', rfl, hlost⟩
  · rw [hp, hq]
    exact .inr (.inl ⟨error, p', q', rfl, rfl, hsame⟩)
  · rw [hp, hq]
    exact hf value ⟨q, congrArg (·.1) hq⟩ p' q' hrest

theorem bind {m : BuildM σ α} {n : BuildM τ α} {f : α → BuildM σ β} {g : α → BuildM τ β}
    (hm : InStep Lost P Q m n) (hf : ∀ value, InStep Lost Q R (f value) (g value)) :
    InStep Lost P R (m >>= f) (n >>= g) :=
  hm.bind_of_yields fun value _ => hf value

theorem mono {P' Q' : Progress σ → Progress τ → Prop} {m : BuildM σ α} {n : BuildM τ α}
    (h : InStep Lost P Q m n) (hP : ∀ p q, P' p q → P p q) (hQ : ∀ p q, Q p q → Q' p q) :
    InStep Lost P' Q' m n := by
  intro p q hpq
  rcases h p q (hP p q hpq) with h | h | ⟨value, p', q', hp, hq, hrest⟩
  · exact .inl h
  · exact .inr (.inl h)
  · exact .inr (.inr ⟨value, p', q', hp, hq, hQ p' q' hrest⟩)

theorem mapM {ι : Type} {f : ι → BuildM σ α} {g : ι → BuildM τ α} (items : List ι)
    (h : ∀ item ∈ items, InStep Lost P P (f item) (g item)) :
    InStep Lost P P (items.mapM f) (items.mapM g) := by
  induction items with
  | nil => exact pure []
  | cons item rest ih =>
    obtain ⟨hitem, hrest⟩ := List.forall_mem_cons.1 h
    rw [List.mapM_cons, List.mapM_cons]
    exact hitem.bind fun _ => (ih hrest).bind fun _ => pure _

theorem report (event : Event)
    (h : ∀ p q, P p q →
      P { p with journal := p.journal.push event } { q with journal := q.journal.push event }) :
    InStep Lost P P (Build.report event) (Build.report event) :=
  fun p q hpq => .inr (.inr ⟨(), _, _, rfl, rfl, h p q hpq⟩)

end InStep

end SheetSchema.Build
