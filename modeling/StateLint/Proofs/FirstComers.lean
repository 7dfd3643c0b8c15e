import Mathlib.Data.List.Induction
import Mathlib.Data.List.Nodup

/-! # First comers

Of the members of a list that share a key, the first one comes before the others. A list is divided
into its first comers and the members that come too late; each keeps its order. -/
namespace StateLint

variable {α κ : Type*}

/-- The members that are chosen in view of the ones before them. -/
def chosenByPast (p : List α → α → Bool) (l : List α) : List α :=
  (l.zipIdx.filter fun e => p (l.take e.2) e.1).map Prod.fst

/-- Whether a member is chosen depends on the ones before it only. -/
theorem chosenByPast_concat (p : List α → α → Bool) (l : List α) (a : α) :
    chosenByPast p (l ++ [a]) = chosenByPast p l ++ if p l a then [a] else [] := by
  have hold : l.zipIdx.filter (fun e => p ((l ++ [a]).take e.2) e.1) =
      l.zipIdx.filter (fun e => p (l.take e.2) e.1) := by
    apply List.filter_congr
    intro e he
    have hlt : e.2 < l.length := by
      have := List.snd_lt_of_mem_zipIdx he
      omega
    rw [List.take_append_of_le_length (Nat.le_of_lt hlt)]
  unfold chosenByPast
  rw [List.zipIdx_append, List.filter_append, hold, List.map_append]
  simp only [List.zipIdx_cons, List.zipIdx_nil, Nat.zero_add, List.filter_cons, List.filter_nil,
    List.take_left]
  by_cases ha : p l a
  · simp [ha]
  · simp [ha]

variable [DecidableEq κ]

/-- The members whose key no earlier member has. -/
def firstsBy (key : α → κ) (l : List α) : List α :=
  (l.zipIdx.filter fun e => key e.1 ∉ (l.take e.2).map key).map Prod.fst

/-- The members whose key an earlier member has. -/
def latecomersBy (key : α → κ) (l : List α) : List α :=
  (l.zipIdx.filter fun e => key e.1 ∈ (l.take e.2).map key).map Prod.fst

variable {key : α → κ} {l : List α}

theorem firstsBy_concat (key : α → κ) (l : List α) (a : α) :
    firstsBy key (l ++ [a]) = firstsBy key l ++ if key a ∈ l.map key then [] else [a] := by
  have h : firstsBy key (l ++ [a]) =
      firstsBy key l ++ if decide (key a ∉ l.map key) then [a] else [] :=
    chosenByPast_concat (fun before a => decide (key a ∉ before.map key)) l a
  rw [h]
  by_cases ha : key a ∈ l.map key
  · simp only [ha, not_true_eq_false, decide_false, Bool.false_eq_true, if_false, if_true]
  · simp only [ha, not_false_eq_true, decide_true, if_true, if_false]

theorem latecomersBy_concat (key : α → κ) (l : List α) (a : α) :
    latecomersBy key (l ++ [a]) = latecomersBy key l ++ if key a ∈ l.map key then [a] else [] := by
  have h : latecomersBy key (l ++ [a]) =
      latecomersBy key l ++ if decide (key a ∈ l.map key) then [a] else [] :=
    chosenByPast_concat (fun before a => decide (key a ∈ before.map key)) l a
  simpa only [decide_eq_true_eq] using h

theorem mem_of_mem_firstsBy {a : α} (h : a ∈ firstsBy key l) : a ∈ l := by
  obtain ⟨e, he, rfl⟩ := List.mem_map.mp h
  exact List.fst_mem_of_mem_zipIdx (List.mem_filter.mp he).1

/-- Every key has a first comer. -/
theorem mem_map_firstsBy {k : κ} : k ∈ (firstsBy key l).map key ↔ k ∈ l.map key := by
  induction l using List.reverseRecOn with
  | nil => rfl
  | append_singleton l a ih =>
    rw [firstsBy_concat, List.map_append, List.map_append, List.mem_append, List.mem_append, ih]
    by_cases ha : key a ∈ l.map key
    · rw [if_pos ha, List.map_nil, List.map_singleton, List.mem_singleton]
      constructor
      · rintro (h | h)
        · exact .inl h
        · cases h
      · rintro (h | rfl)
        · exact .inl h
        · exact .inl ha
    · rw [if_neg ha]

theorem nodup_map_firstsBy (key : α → κ) (l : List α) : ((firstsBy key l).map key).Nodup := by
  induction l using List.reverseRecOn with
  | nil => exact List.nodup_nil
  | append_singleton l a ih =>
    rw [firstsBy_concat]
    by_cases ha : key a ∈ l.map key
    · simpa [ha] using ih
    · have hn : key a ∉ (firstsBy key l).map key := fun h => ha (mem_map_firstsBy.mp h)
      simpa [ha] using ih.concat hn

/-- Members whose keys are all taken add nothing. -/
theorem firstsBy_append_of_taken {m : List α} (h : ∀ a ∈ m, key a ∈ l.map key) :
    firstsBy key (l ++ m) = firstsBy key l := by
  induction m using List.reverseRecOn with
  | nil => rw [List.append_nil]
  | append_singleton m a ih =>
    have hpast : ∀ b ∈ m, key b ∈ l.map key := fun b hb => h b (List.mem_append_left [a] hb)
    have ha : key a ∈ (l ++ m).map key := by
      rw [List.map_append, List.mem_append]
      exact .inl (h a (by simp))
    rw [← List.append_assoc, firstsBy_concat, if_pos ha, List.append_nil, ih hpast]

/-- What comes later meets the first comers only. -/
theorem firstsBy_append_congr {m : List α} (h : firstsBy key l = firstsBy key m) (n : List α) :
    firstsBy key (l ++ n) = firstsBy key (m ++ n) := by
  induction n using List.reverseRecOn with
  | nil => simpa using h
  | append_singleton n a ih =>
    have hkeys : key a ∈ (l ++ n).map key ↔ key a ∈ (m ++ n).map key := by
      rw [← mem_map_firstsBy, ih, mem_map_firstsBy]
    rw [← List.append_assoc, ← List.append_assoc, firstsBy_concat, firstsBy_concat, ih]
    simp only [hkeys]

/-- Of the members with one key the first one stays. -/
theorem filter_firstsBy (key : α → κ) (l : List α) (k : κ) :
    (firstsBy key l).filter (key · = k) = (l.find? (key · = k)).toList := by
  induction l using List.reverseRecOn with
  | nil => rfl
  | append_singleton l a ih =>
    rw [firstsBy_concat, List.filter_append, ih, List.find?_append]
    by_cases ha : key a = k
    · by_cases hin : key a ∈ l.map key
      · obtain ⟨b, hb⟩ : ∃ b, l.find? (key · = k) = some b := by
          obtain ⟨b, hm, he⟩ := List.mem_map.mp hin
          rw [← Option.isSome_iff_exists, List.find?_isSome]
          exact ⟨b, hm, by simp [he, ha]⟩
        rw [if_pos hin, hb]
        rfl
      · have hn : l.find? (key · = k) = none := by
          rw [List.find?_eq_none]
          intro b hm
          have hb : key b ≠ k := fun he => hin (List.mem_map.mpr ⟨b, hm, he.trans ha.symm⟩)
          simp [hb]
        rw [if_neg hin, hn]
        simp [ha]
    · have hskip : (if key a ∈ l.map key then [] else [a]).filter (key · = k) = [] := by
        split
        · rfl
        · simp [ha]
      rw [hskip, List.append_nil]
      simp [ha]

end StateLint
