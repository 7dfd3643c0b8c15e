import Mathlib.Data.List.Nodup
import Mathlib.Logic.Relation
import StateLint.Registry

/-! # Registries that can come about

A registry starts empty and only grows. Whatever is registered, in whatever order and from whatever
directories, no two rules of it have the same id. -/
namespace StateLint.Registry

variable {r s : Registry}

def ids (r : Registry) : List String := r.rules.map Rule.id

theorem has_iff {id : String} : r.has id = true ↔ id ∈ r.ids := by
  simp [has, ids]

/-- One call on a registry. A directory that cannot be loaded leaves it as it is. -/
inductive Step : Registry → Registry → Prop where
  | register (r : Registry) (rule : Rule) : Step r (r.register rule).2
  | extend (r : Registry) (rules : List Rule) : Step r (r.extend rules).2
  | load {r s : Registry} {fs : FileSystem} {dir : Path} {added : Nat}
      (h : r.loadDirectory fs dir = .ok (added, s)) : Step r s
  | loadFailure {r : Registry} {fs : FileSystem} {dir : Path} {e : RuleDirectoryError}
      (h : r.loadDirectory fs dir = .error e) : Step r r

/-- The registries that calls lead to, from an empty one. -/
def Reachable (r : Registry) : Prop :=
  ∃ config, Relation.ReflTransGen Step (empty config) r

theorem register_ids_nodup (h : r.ids.Nodup) (rule : Rule) : (r.register rule).2.ids.Nodup := by
  unfold register
  split
  · exact h
  · next hn =>
    have hid : rule.id ∉ r.ids := fun hm => hn (has_iff.mpr hm)
    simpa [ids] using h.concat hid

theorem extend_ids_nodup (h : r.ids.Nodup) (rules : List Rule) :
    (r.extend rules).2.ids.Nodup := by
  induction rules generalizing r with
  | nil => exact h
  | cons rule rules ih => exact ih (register_ids_nodup h rule)

theorem register_eq (r : Registry) (rule : Rule) :
    r.register rule = if rule.id ∈ r.ids then (false, r) else (true, ⟨r.config, r.rules ++ [rule]⟩) := by
  simp [register, has_iff]

theorem extend_cons (r : Registry) (rule : Rule) (rules : List Rule) :
    (r.extend (rule :: rules)).2 = ((r.register rule).2.extend rules).2 := rfl

theorem extend_append (r : Registry) (rules more : List Rule) :
    (r.extend (rules ++ more)).2 = ((r.extend rules).2.extend more).2 := by
  induction rules generalizing r with
  | nil => rfl
  | cons rule rules ih => simp only [List.cons_append, extend_cons, ih]

/-- Rules whose ids are all new are all added. -/
theorem extend_of_nodup {rules : List Rule} (h : (r.ids ++ rules.map Rule.id).Nodup) :
    (r.extend rules).2 = ⟨r.config, r.rules ++ rules⟩ := by
  induction rules generalizing r with
  | nil => simp [extend]
  | cons rule rules ih =>
    have hn : rule.id ∉ r.ids := by
      intro hm
      exact (List.disjoint_of_nodup_append h) hm (by simp)
    have hr : (r.register rule).2 = ⟨r.config, r.rules ++ [rule]⟩ := by
      rw [register_eq, if_neg hn]
    rw [extend_cons, hr, ih]
    · simp
    · simpa [ids] using h

theorem loadDirectory_eq_ok {fs : FileSystem} {dir : Path} {added : Nat}
    (h : r.loadDirectory fs dir = .ok (added, s)) :
    ∃ rules, RuleDirectory.load fs dir = .ok rules ∧ r.extend rules = (added, s) := by
  unfold loadDirectory at h
  split at h
  · next rules hl => exact ⟨rules, hl, Except.ok.inj h⟩
  · cases h

theorem step_ids_nodup (h : r.ids.Nodup) (st : Step r s) : s.ids.Nodup := by
  cases st with
  | register rule => exact register_ids_nodup h rule
  | extend rules => exact extend_ids_nodup h rules
  | load hl =>
    obtain ⟨rules, _, he⟩ := loadDirectory_eq_ok hl
    have := extend_ids_nodup h rules
    rwa [he] at this
  | loadFailure => exact h

theorem reachable_ids_nodup (h : Reachable r) : r.ids.Nodup := by
  obtain ⟨config, h⟩ := h
  induction h with
  | refl => exact List.nodup_nil
  | tail _ st ih => exact step_ids_nodup ih st

end StateLint.Registry
