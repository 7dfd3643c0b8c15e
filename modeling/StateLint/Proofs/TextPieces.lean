import Mathlib.Data.List.DropRight
import Mathlib.Data.List.Infix
import StateLint.Text.Split

/-! # The pieces of a text

There is always a piece, and no piece holds a separator. The piece that an offset falls into is
numbered by the separators before the offset.

A text can also be cut at a marker. Where a marker whose first character does not come again in it
is put behind a text without one, it is found at this place: it cannot begin earlier. -/
namespace StateLint.Text

variable {sep c : Char} {s : List Char}

theorem split_ne_nil (sep : Char) (s : List Char) : split sep s ≠ [] := by
  cases s with
  | nil => simp [split]
  | cons c s =>
    unfold split
    split
    · simp
    · split
      · simp
      · simp

theorem split_cons_self (sep : Char) (s : List Char) : split sep (sep :: s) = [] :: split sep s := by
  simp [split]

/-- Any other character joins the first piece. -/
theorem split_cons_of_ne (h : c ≠ sep) (s : List Char) :
    ∃ p ps, split sep s = p :: ps ∧ split sep (c :: s) = (c :: p) :: ps := by
  obtain ⟨p, ps, hp⟩ := List.exists_cons_of_ne_nil (split_ne_nil sep s)
  exact ⟨p, ps, hp, by simp [split, h, hp]⟩

/-- Cutting at a separator in the middle cuts both sides on their own. -/
theorem split_append_cons (sep : Char) (a b : List Char) :
    split sep (a ++ sep :: b) = split sep a ++ split sep b := by
  induction a with
  | nil => rw [List.nil_append, split_cons_self]; rfl
  | cons c a ih =>
    rw [List.cons_append]
    by_cases hc : c = sep
    · subst c
      rw [split_cons_self, split_cons_self, ih, List.cons_append]
    · obtain ⟨p, ps, hp, hcp⟩ := split_cons_of_ne hc a
      obtain ⟨q, qs, hq, hcq⟩ := split_cons_of_ne hc (a ++ sep :: b)
      rw [hp, hq, List.cons_append] at ih
      obtain ⟨rfl, rfl⟩ := List.cons.inj ih
      rw [hcp, hcq, List.cons_append]

theorem split_of_not_mem (h : sep ∉ s) : split sep s = [s] := by
  induction s with
  | nil => rfl
  | cons c s ih =>
    have hc : c ≠ sep := fun he => h (he ▸ List.mem_cons_self)
    obtain ⟨p, ps, hp, hcp⟩ := split_cons_of_ne hc s
    rw [ih fun hs => h (List.mem_cons_of_mem c hs)] at hp
    obtain ⟨rfl, rfl⟩ := List.cons.inj hp
    exact hcp

theorem length_split (sep : Char) (s : List Char) : (split sep s).length = 1 + s.count sep := by
  induction s with
  | nil => rfl
  | cons c s ih =>
    by_cases hc : c = sep
    · subst c
      rw [split_cons_self, List.length_cons, ih, List.count_cons_self]
      omega
    · obtain ⟨p, ps, hp, hcp⟩ := split_cons_of_ne hc s
      rw [hp] at ih
      rw [hcp, List.count_cons_of_ne hc, ← ih]
      rfl

section Joined

variable {mark : String} (hm : mark.toList = [sep])
include hm

theorem map_split_join (a b : String) :
    (split sep (a ++ mark ++ b).toList).map String.ofList =
      (split sep a.toList).map String.ofList ++ (split sep b.toList).map String.ofList := by
  have ht : (a ++ mark ++ b).toList = a.toList ++ sep :: b.toList := by simp [hm]
  rw [ht, split_append_cons, List.map_append]

/-- Between separators stand the pieces that were put there. -/
theorem split_intercalate {pieces : List String} (hne : pieces ≠ [])
    (h : ∀ piece ∈ pieces, sep ∉ piece.toList) :
    split sep (String.intercalate mark pieces).toList = pieces.map String.toList := by
  induction pieces with
  | nil => exact absurd rfl hne
  | cons a pieces ih =>
    obtain ⟨ha, hpieces⟩ := List.forall_mem_cons.mp h
    cases pieces with
    | nil => simpa using split_of_not_mem ha
    | cons b pieces =>
      have ht : (String.intercalate mark (a :: b :: pieces)).toList =
          a.toList ++ sep :: (String.intercalate mark (b :: pieces)).toList := by
        rw [String.intercalate_cons_cons]
        simp [hm]
      rw [ht, split_append_cons, split_of_not_mem ha, ih (by simp) hpieces]
      rfl

end Joined

theorem not_mem_of_mem_split {p : List Char} (h : p ∈ split sep s) : sep ∉ p := by
  induction s generalizing p with
  | nil => simp_all [split]
  | cons c s ih =>
    by_cases hc : c = sep
    · subst c
      rw [split_cons_self] at h
      rcases List.mem_cons.mp h with rfl | h
      · simp
      · exact ih h
    · obtain ⟨q, qs, hq, hcq⟩ := split_cons_of_ne hc s
      rw [hcq] at h
      rw [hq] at ih
      rcases List.mem_cons.mp h with rfl | h
      · simpa [Ne.symm hc] using ih List.mem_cons_self
      · exact ih (List.mem_cons_of_mem q h)

theorem head?_split (sep : Char) (s : List Char) :
    (split sep s).head? = some (s.takeWhile (· != sep)) := by
  induction s with
  | nil => rfl
  | cons c s ih =>
    by_cases hc : c = sep
    · subst c
      simp [split_cons_self]
    · obtain ⟨p, ps, hp, hcp⟩ := split_cons_of_ne hc s
      rw [hp] at ih
      have hp : p = s.takeWhile (· != sep) := by simpa using ih
      simp [hcp, hc, hp]

theorem forall_ne_of_not_mem (h : sep ∉ s) : ∀ d ∈ s, (d != sep) = true := by
  intro d hd
  have : d ≠ sep := fun he => h (he ▸ hd)
  simpa using this

/-- What stands behind the last separator does not depend on what stands before it. -/
theorem rtakeWhile_cons_of_mem (h : sep ∈ s) (c : Char) :
    (c :: s).rtakeWhile (· != sep) = s.rtakeWhile (· != sep) := by
  have hs : (s.reverse.takeWhile (· != sep)).length ≠ s.reverse.length := by
    intro hl
    have he := (List.takeWhile_prefix (l := s.reverse) (· != sep)).eq_of_length hl
    have := List.takeWhile_eq_self_iff.mp he sep (List.mem_reverse.mpr h)
    simp at this
  rw [List.rtakeWhile, List.reverse_cons, List.takeWhile_append, if_neg hs, List.rtakeWhile]

theorem rtakeWhile_of_not_mem (h : sep ∉ s) : s.rtakeWhile (· != sep) = s :=
  List.rtakeWhile_eq_self_iff.mpr (forall_ne_of_not_mem h)

theorem rtakeWhile_cons_self (sep : Char) (s : List Char) :
    (sep :: s).rtakeWhile (· != sep) = s.rtakeWhile (· != sep) := by
  by_cases hs : sep ∈ s
  · exact rtakeWhile_cons_of_mem hs sep
  · have hr : sep ∉ s.reverse := by simpa using hs
    rw [rtakeWhile_of_not_mem hs, List.rtakeWhile, List.reverse_cons,
      List.takeWhile_append_of_pos (forall_ne_of_not_mem hr)]
    simp

/-- The piece around the border between `a` and `b`. -/
theorem getElem?_split_append (sep : Char) (a b : List Char) :
    (split sep (a ++ b))[a.count sep]? =
      some (a.rtakeWhile (· != sep) ++ b.takeWhile (· != sep)) := by
  induction a with
  | nil =>
    rw [List.nil_append, List.count_nil, ← List.head?_eq_getElem?, head?_split]
    rfl
  | cons c a ih =>
    rw [List.cons_append]
    by_cases hc : c = sep
    · subst c
      rw [split_cons_self, List.count_cons_self, List.getElem?_cons_succ, ih, rtakeWhile_cons_self]
    · obtain ⟨p, ps, hp, hcp⟩ := split_cons_of_ne hc (a ++ b)
      rw [hp] at ih
      rw [hcp, List.count_cons_of_ne hc]
      by_cases ha : sep ∈ a
      · obtain ⟨n, hn⟩ := Nat.exists_eq_add_one.mpr (List.count_pos_iff.mpr ha)
        rw [hn, List.getElem?_cons_succ] at ih ⊢
        rw [ih, rtakeWhile_cons_of_mem ha]
      · have hca : sep ∉ c :: a := by simpa [Ne.symm hc] using ha
        rw [List.count_eq_zero_of_not_mem ha, List.getElem?_cons_zero] at ih ⊢
        rw [rtakeWhile_of_not_mem ha] at ih
        rw [rtakeWhile_of_not_mem hca, Option.some.inj ih]
        rfl

section Marker

variable {marker m p : List Char}

theorem cut?_eq_none_iff : cut? marker s = none ↔ ¬ marker <:+: s := by
  induction s with
  | nil => simp [cut?]
  | cons c s ih =>
    rw [List.infix_cons_iff, not_or, ← ih, cut?]
    by_cases hp : marker.isPrefixOf (c :: s)
    · simp [hp, List.isPrefixOf_iff_prefix.mp hp]
    · simp [hp, mt List.isPrefixOf_iff_prefix.mpr hp]

theorem cut?_append_self (marker s : List Char) : cut? marker (marker ++ s) = some ([], s) := by
  cases marker with
  | nil =>
    cases s with
    | nil => rfl
    | cons c s => rfl
  | cons c m => simp [cut?]

theorem cut?_cons_of_unmarked (h : ¬ marker <+: c :: s) :
    cut? marker (c :: s) = (cut? marker s).map fun (before, after) => (c :: before, after) := by
  rw [cut?, if_neg (mt List.isPrefixOf_iff_prefix.mp h)]

/-- A marker cannot begin before another one and reach into it, since the other one begins with a
character that comes only once in a marker. -/
theorem not_prefix_of_reaching (hc : c ∉ m) (hne : p ≠ []) (hp : ¬ (c :: m) <+: p)
    (rest : List Char) : ¬ (c :: m) <+: p ++ (c :: m ++ rest) := by
  intro h
  rcases List.prefix_or_prefix_of_prefix h (List.prefix_append p _) with hin | hover
  · exact hp hin
  obtain ⟨u, hu⟩ := hover
  nth_rewrite 1 [← hu] at h
  rw [List.prefix_append_right_inj] at h
  cases u with
  | nil =>
    rw [List.append_nil] at hu
    exact hp (hu ▸ List.prefix_rfl)
  | cons d u =>
    obtain ⟨rfl, -⟩ := List.cons_prefix_cons.mp h
    obtain ⟨e, q, rfl⟩ := List.exists_cons_of_ne_nil hne
    obtain ⟨rfl, hq⟩ := List.cons.inj hu
    exact hc (hq ▸ List.mem_append_right q List.mem_cons_self)

theorem cut?_append_marker (hc : c ∉ m) (hp : ¬ (c :: m) <:+: p) (rest : List Char) :
    cut? (c :: m) (p ++ (c :: m ++ rest)) = some (p, rest) := by
  induction p with
  | nil => exact cut?_append_self (c :: m) rest
  | cons d p ih =>
    obtain ⟨hd, hp⟩ := not_or.mp (mt List.infix_cons_iff.mpr hp)
    have hn := not_prefix_of_reaching hc (List.cons_ne_nil d p) hd rest
    rw [List.cons_append] at hn ⊢
    rw [cut?_cons_of_unmarked hn, ih hp]
    rfl

/-- A character at the end that no marker holds makes no marker, and breaks none. -/
theorem cut?_concat (hc : c ∉ marker) (s : List Char) :
    cut? marker (s ++ [c]) = (cut? marker s).map fun (before, after) => (before, after ++ [c]) := by
  induction s with
  | nil =>
    cases marker with
    | nil => rfl
    | cons d m =>
      have hd : d ≠ c := fun he => hc (he ▸ List.mem_cons_self)
      simp [cut?, hd]
  | cons d s ih =>
    by_cases hp : marker <+: d :: s
    · obtain ⟨rest, hr⟩ := hp
      rw [← hr, List.append_assoc, cut?_append_self, cut?_append_self]
      rfl
    · have hpc : ¬ marker <+: d :: s ++ [c] := by
        rw [List.prefix_concat_iff, not_or]
        refine ⟨?_, hp⟩
        rintro rfl
        exact hc (by simp)
      rw [List.cons_append] at hpc ⊢
      rw [cut?_cons_of_unmarked hpc, cut?_cons_of_unmarked hp, ih]
      simp [Option.map_map, Function.comp_def]

end Marker

end StateLint.Text
