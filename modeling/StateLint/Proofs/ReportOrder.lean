import Mathlib.Data.List.Perm.Basic
import StateLint.Report

/-! # The order of a report

The order looks at the place of a finding only, so being sorted does not determine a report:
findings at one place stand in the order in which they were made. Two collections of findings give
the same report exactly when they agree at every place. -/
namespace StateLint.Finding

/-- What the order of reports looks at. -/
def place (f : Finding) : String × Nat × String := (f.file.text, f.lineNumber, f.rule.id)

theorem compare_eq_iff {f g : Finding} : compare f g = .eq ↔ f.place = g.place := by
  simp [compare, place, Ordering.then_eq_eq]

instance : Std.TransCmp compare :=
  inferInstanceAs (Std.TransCmp (compareLex (compareOn fun f : Finding => f.file.text)
    (compareLex (compareOn fun f : Finding => f.lineNumber)
      (compareOn fun f : Finding => f.rule.id))))

theorem compare_isLE_trans (f g k : Finding) (h : (compare f g).isLE) (h' : (compare g k).isLE) :
    (compare f k).isLE := Std.TransCmp.isLE_trans h h'

theorem compare_isLE_total (f g : Finding) : (compare f g).isLE || (compare g f).isLE := by
  rw [@Std.OrientedCmp.eq_swap _ compare _ g f]
  cases compare f g <;> rfl

theorem compare_isLE_antisymm {f g : Finding} (h : (compare f g).isLE)
    (h' : (compare g f).isLE) : f.place = g.place :=
  compare_eq_iff.mp (Std.OrientedCmp.isLE_antisymm h h')

/-- In the order of reports. -/
def Sorted (l : List Finding) : Prop := l.Pairwise fun f g => (compare f g).isLE

/-- The same findings in the same order, as far as each single place is concerned. -/
def Agree (l m : List Finding) : Prop :=
  ∀ p, l.filter (·.place = p) = m.filter (·.place = p)

/-- The findings of `l` in the order of reports; at one place they keep their order. -/
structure StableSort (l s : List Finding) : Prop where
  perm : s.Perm l
  sorted : Sorted s
  stable : Agree s l

theorem sort_perm (l : List Finding) : (sort l).Perm l := List.mergeSort_perm l _

theorem sort_sorted (l : List Finding) : Sorted (sort l) :=
  List.pairwise_mergeSort compare_isLE_trans compare_isLE_total l

/-- The findings at one place are sorted as they are, so that sorting leaves them in a row. -/
theorem sort_agree (l : List Finding) : Agree (sort l) l := by
  intro p
  have hp : (l.filter (·.place = p)).Pairwise fun f g => (compare f g).isLE := by
    apply List.pairwise_of_forall_mem_list
    intro f hf g hg
    have hf : f.place = p := by simpa using (List.mem_filter.mp hf).2
    have hg : g.place = p := by simpa using (List.mem_filter.mp hg).2
    rw [compare_eq_iff.mpr (hf.trans hg.symm)]
    rfl
  have hs : (l.filter (·.place = p)).Sublist (sort l) :=
    List.sublist_mergeSort compare_isLE_trans compare_isLE_total hp List.filter_sublist
  have hs : (l.filter (·.place = p)).Sublist ((sort l).filter (·.place = p)) := by
    simpa using hs.filter (·.place = p)
  exact (hs.eq_of_length ((sort_perm l).filter _).length_eq.symm).symm

namespace Agree

variable {l m k : List Finding}

theorem refl (l : List Finding) : Agree l l := fun _ => rfl

theorem symm (h : Agree l m) : Agree m l := fun p => (h p).symm

theorem trans (h : Agree l m) (h' : Agree m k) : Agree l k := fun p => (h p).trans (h' p)

theorem mem (h : Agree l m) {f : Finding} (hf : f ∈ l) : f ∈ m := by
  have hm : f ∈ m.filter (·.place = f.place) := by
    rw [← h]
    simpa using hf
  exact (List.mem_filter.mp hm).1

theorem head_place {f g : Finding} (h : Agree (f :: l) (g :: m)) (hl : Sorted (f :: l))
    (hm : Sorted (g :: m)) : f.place = g.place := by
  rcases List.mem_cons.mp (h.mem List.mem_cons_self) with rfl | hf
  · rfl
  rcases List.mem_cons.mp (h.symm.mem List.mem_cons_self) with rfl | hg
  · rfl
  exact compare_isLE_antisymm (List.rel_of_pairwise_cons hl hg) (List.rel_of_pairwise_cons hm hf)

/-- Sorted lists that agree begin at the same place, and there with the same finding. -/
theorem eq_of_sorted (h : Agree l m) (hl : Sorted l) (hm : Sorted m) : l = m := by
  induction l generalizing m with
  | nil =>
    cases m with
    | nil => rfl
    | cons g m => cases h.symm.mem (List.mem_cons_self (a := g) (l := m))
  | cons f l ih =>
    cases m with
    | nil => cases h.mem (List.mem_cons_self (a := f) (l := l))
    | cons g m =>
      have hp := h.head_place hl hm
      have hfg : f = g := by
        have := h f.place
        simp only [List.filter_cons, hp, decide_true, if_true] at this
        exact (List.cons.inj this).1
      subst g
      have ht : Agree l m := by
        intro p
        have := h p
        by_cases hf : f.place = p
        · simpa [List.filter_cons, hf] using this
        · simpa [List.filter_cons, hf] using this
      rw [ih ht hl.tail hm.tail]

theorem filter (h : Agree l m) (p : Finding → Bool) : Agree (l.filter p) (m.filter p) := by
  intro q
  rw [List.filter_comm, h q, List.filter_comm]

theorem append {l' m' : List Finding} (h : Agree l m) (h' : Agree l' m') :
    Agree (l ++ l') (m ++ m') := by
  intro p
  rw [List.filter_append, List.filter_append, h p, h' p]

theorem flatMap {α : Type*} {xs : List α} {g g' : α → List Finding}
    (h : ∀ x ∈ xs, Agree (g x) (g' x)) : Agree (xs.flatMap g) (xs.flatMap g') := by
  induction xs with
  | nil => exact refl _
  | cons x xs ih =>
    simp only [List.flatMap_cons]
    exact (h x List.mem_cons_self).append (ih fun y hy => h y (List.mem_cons_of_mem x hy))

/-- Parts that meet at no place may change sides. -/
theorem append_comm (h : ∀ f ∈ l, ∀ g ∈ m, f.place ≠ g.place) : Agree (l ++ m) (m ++ l) := by
  intro p
  rw [List.filter_append, List.filter_append]
  by_cases hl : ∃ f ∈ l, f.place = p
  · obtain ⟨f, hf, hp⟩ := hl
    have hm : m.filter (·.place = p) = [] := by
      simp only [List.filter_eq_nil_iff, decide_eq_true_eq]
      intro g hg hgp
      exact h f hf g hg (hp.trans hgp.symm)
    simp [hm]
  · have hl : l.filter (·.place = p) = [] := by
      simp only [List.filter_eq_nil_iff, decide_eq_true_eq]
      exact fun f hf hp => hl ⟨f, hf, hp⟩
    simp [hl]

/-- The two parts of a list come together again, if no place is divided between them. -/
theorem filter_append_filter_not {p : Finding → Bool}
    (h : ∀ f ∈ l, ∀ g ∈ l, f.place = g.place → p f = p g) :
    Agree (l.filter p ++ l.filter fun f => !p f) l := by
  intro q
  rw [List.filter_append, List.filter_comm, List.filter_comm _ (fun f => !p f)]
  have hp : ∀ f ∈ l.filter (·.place = q), ∀ g ∈ l.filter (·.place = q), p f = p g := by
    intro f hf g hg
    obtain ⟨hf, hfq⟩ := List.mem_filter.mp hf
    obtain ⟨hg, hgq⟩ := List.mem_filter.mp hg
    exact h f hf g hg ((of_decide_eq_true hfq).trans (of_decide_eq_true hgq).symm)
  generalize l.filter (·.place = q) = there at hp ⊢
  by_cases hk : ∃ f ∈ there, p f = true
  · obtain ⟨f, hf, hpf⟩ := hk
    have hall : ∀ g ∈ there, p g = true := fun g hg => (hp g hg f hf).trans hpf
    rw [List.filter_eq_self.mpr hall, List.filter_eq_nil_iff.mpr, List.append_nil]
    intro g hg
    simp [hall g hg]
  · have hnone : ∀ g ∈ there, ¬ p g = true := fun g hg hpg => hk ⟨g, hg, hpg⟩
    rw [List.filter_eq_nil_iff.mpr hnone, List.filter_eq_self.mpr, List.nil_append]
    intro g hg
    simp [hnone g hg]

/-- Findings made part by part do not depend on the order of the parts, if no two of them meet. -/
theorem flatMap_perm {α : Type*} {xs ys : List α} (g : α → List Finding) (h : xs.Perm ys)
    (hg : ∀ x ∈ xs, ∀ y ∈ xs, x ≠ y → ∀ f ∈ g x, ∀ k ∈ g y, f.place ≠ k.place) :
    Agree (xs.flatMap g) (ys.flatMap g) := by
  induction h with
  | nil => exact refl _
  | cons x _ ih =>
    simp only [List.flatMap_cons]
    exact (refl _).append (ih fun y hy z hz =>
      hg y (List.mem_cons_of_mem x hy) z (List.mem_cons_of_mem x hz))
  | swap x y xs =>
    simp only [List.flatMap_cons, ← List.append_assoc]
    apply append _ (refl _)
    by_cases hxy : y = x
    · subst y
      exact refl _
    · exact append_comm (hg y (by simp) x (by simp) hxy)
  | trans h₁ _ ih₁ ih₂ =>
    exact (ih₁ hg).trans (ih₂ fun x hx y hy => hg x (h₁.mem_iff.mpr hx) y (h₁.mem_iff.mpr hy))

end Agree

theorem sort_eq_sort_iff {l m : List Finding} : sort l = sort m ↔ Agree l m := by
  constructor
  · intro h
    have hl := sort_agree l
    rw [h] at hl
    exact hl.symm.trans (sort_agree m)
  · intro h
    have hs : Agree (sort l) (sort m) := (sort_agree l).trans (h.trans (sort_agree m).symm)
    exact hs.eq_of_sorted (sort_sorted l) (sort_sorted m)

/-- Findings that are left out do not change the order of the others. -/
theorem sort_filter (l : List Finding) (p : Finding → Bool) :
    sort (l.filter p) = (sort l).filter p := by
  have hs : Sorted ((sort l).filter p) := (sort_sorted l).filter p
  have ha : Agree (sort (l.filter p)) ((sort l).filter p) :=
    (sort_agree _).trans ((sort_agree l).filter p).symm
  exact ha.eq_of_sorted (sort_sorted _) hs

theorem stableSort_iff {l s : List Finding} : StableSort l s ↔ s = sort l := by
  constructor
  · intro h
    exact (h.stable.trans (sort_agree l).symm).eq_of_sorted h.sorted (sort_sorted l)
  · rintro rfl
    exact ⟨sort_perm l, sort_sorted l, sort_agree l⟩

end StateLint.Finding
