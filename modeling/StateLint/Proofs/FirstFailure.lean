import Mathlib.Data.List.Basic

/-! # The first failure in a list

A pass over a list that stops at the first member that fails has nothing to say about the members
after it. -/
namespace StateLint

variable {α : Type} {p : α → Prop} {l : List α} {a x : α}

/-- The first member of a list that does not satisfy `p`. -/
def FirstFailure (p : α → Prop) (l : List α) (x : α) : Prop :=
  ∃ before after, l = before ++ x :: after ∧ (∀ y ∈ before, p y) ∧ ¬ p x

theorem firstFailure_nil : ¬ FirstFailure p [] x := by
  rintro ⟨before, after, h, -⟩
  simp at h

theorem firstFailure_cons :
    FirstFailure p (a :: l) x ↔ x = a ∧ ¬ p a ∨ p a ∧ FirstFailure p l x := by
  constructor
  · rintro ⟨before, after, h, hb, hx⟩
    cases before with
    | nil =>
      obtain ⟨rfl, -⟩ := List.cons.inj h
      exact .inl ⟨rfl, hx⟩
    | cons b before =>
      obtain ⟨rfl, hl⟩ := List.cons.inj h
      obtain ⟨ha, hb⟩ := List.forall_mem_cons.mp hb
      exact .inr ⟨ha, before, after, hl, hb, hx⟩
  · rintro (⟨rfl, hx⟩ | ⟨ha, before, after, rfl, hb, hx⟩)
    · exact ⟨[], l, rfl, by simp, hx⟩
    · exact ⟨a :: before, after, rfl, List.forall_mem_cons.mpr ⟨ha, hb⟩, hx⟩

theorem FirstFailure.mem (h : FirstFailure p l x) : x ∈ l := by
  obtain ⟨before, after, rfl, -, -⟩ := h
  simp

theorem FirstFailure.fails (h : FirstFailure p l x) : ¬ p x := by
  obtain ⟨before, after, -, -, hx⟩ := h
  exact hx

theorem FirstFailure.not_forall (h : FirstFailure p l x) : ¬ ∀ y ∈ l, p y :=
  fun hall => h.fails (hall x h.mem)

theorem exists_firstFailure_iff : (∃ x, FirstFailure p l x) ↔ ¬ ∀ y ∈ l, p y := by
  constructor
  · rintro ⟨x, h⟩
    exact h.not_forall
  · intro h
    induction l with
    | nil => exact absurd (by simp) h
    | cons a l ih =>
      by_cases ha : p a
      · have hl : ¬ ∀ y ∈ l, p y := fun hall => h (List.forall_mem_cons.mpr ⟨ha, hall⟩)
        obtain ⟨x, hx⟩ := ih hl
        exact ⟨x, firstFailure_cons.mpr (.inr ⟨ha, hx⟩)⟩
      · exact ⟨a, firstFailure_cons.mpr (.inl ⟨rfl, ha⟩)⟩

end StateLint
