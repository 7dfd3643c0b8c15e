import Mathlib.Data.List.DropRight
import Mathlib.Data.List.TakeWhile
import StateLint.Text.Blank

/-! # Blanks, and texts without blanks at their ends

Trimming leaves nothing of a text of blanks. Of any other text it leaves one that begins and ends
with something else, and such a text is not changed any more.

A blank divides the words before it from those behind it, and all that is said here about words comes
from this. -/
namespace StateLint

namespace Text

variable {s : List Char}

theorem trim_eq_nil_iff : trim s = [] ↔ ∀ c ∈ s, isBlank c := by
  have hs : trim s = [] ↔ ∀ c ∈ s.dropWhile isBlank, isBlank c := by
    simp [trim, trimEnd, trimStart, List.dropWhile_eq_nil_iff]
  rw [hs]
  constructor
  · intro h c hc
    rw [← List.takeWhile_append_dropWhile (p := isBlank) (l := s)] at hc
    rcases List.mem_append.mp hc with hc | hc
    · exact List.mem_takeWhile_imp hc
    · exact h c hc
  · intro h c hc
    exact h c ((List.dropWhile_suffix isBlank).subset hc)

theorem trimEnd_eq_rdropWhile (s : List Char) : trimEnd s = s.rdropWhile isBlank := rfl

theorem trim_infix (s : List Char) : trim s <:+: s :=
  (List.rdropWhile_prefix isBlank _).isInfix.trans (List.dropWhile_suffix isBlank).isInfix

theorem not_isBlank_of_head?_trim {c : Char} (h : (trim s).head? = some c) : ¬ isBlank c := by
  -- The first character is the one at which the blanks before the text end.
  obtain ⟨t, ht⟩ : trim s <+: s.dropWhile isBlank := List.rdropWhile_prefix isBlank _
  have hh : (s.dropWhile isBlank).head? = some c := by
    rw [← ht, List.head?_append, h, Option.some_or]
  have hn := List.head?_dropWhile_not isBlank s
  rw [hh] at hn
  simpa using hn

theorem not_isBlank_of_getLast?_trim {c : Char} (h : (trim s).getLast? = some c) :
    ¬ isBlank c := by
  have hne : trim s ≠ [] := by
    intro he
    simp [he] at h
  rw [List.getLast?_eq_some_getLast hne] at h
  rw [← Option.some.inj h]
  exact List.rdropWhile_last_not isBlank _ hne

theorem trim_of_ends (hh : ∀ c, s.head? = some c → ¬ isBlank c)
    (hl : ∀ c, s.getLast? = some c → ¬ isBlank c) : trim s = s := by
  have hs : trimStart s = s := by
    cases s with
    | nil => rfl
    | cons c s => exact List.dropWhile_cons_of_neg (hh c rfl)
  rw [trim, hs, trimEnd_eq_rdropWhile, List.rdropWhile_eq_self_iff]
  intro hne
  exact hl _ (List.getLast?_eq_some_getLast hne)

theorem trimStart_trimEnd_eq_nil_iff : trimStart (trimEnd s) = [] ↔ ∀ c ∈ s, isBlank c := by
  rw [trimStart, List.dropWhile_eq_nil_iff, trimEnd_eq_rdropWhile]
  constructor
  · intro h c hc
    rw [← List.rdropWhile_append_rtakeWhile (p := isBlank) (l := s)] at hc
    rcases List.mem_append.mp hc with hc | hc
    · exact h c hc
    · exact List.mem_rtakeWhile_imp hc
  · intro h c hc
    exact h c ((List.rdropWhile_prefix isBlank s).subset hc)

/-- What a text begins with, if it is no blank, is still there when the end is trimmed. -/
theorem head?_trimEnd_eq_iff {c : Char} (hc : ¬ isBlank c) :
    (trimEnd s).head? = some c ↔ s.head? = some c := by
  have happ := List.rdropWhile_append_rtakeWhile (p := isBlank) (l := s)
  rw [← trimEnd_eq_rdropWhile] at happ
  cases ht : trimEnd s with
  | nil =>
    rw [ht, List.nil_append] at happ
    refine iff_of_false (by simp) ?_
    intro hs
    apply hc
    apply List.mem_rtakeWhile_imp (l := s)
    rw [happ]
    exact List.mem_of_head? hs
  | cons d t =>
    rw [ht] at happ
    rw [← happ]
    rfl

theorem trimEnd_ne_self_iff : trimEnd s ≠ s ↔ ∃ c, s.getLast? = some c ∧ isBlank c := by
  rw [trimEnd_eq_rdropWhile, Ne, List.rdropWhile_eq_self_iff]
  constructor
  · intro h
    obtain ⟨hne, hb⟩ := not_forall.mp h
    exact ⟨s.getLast hne, List.getLast?_eq_some_getLast hne, not_not.mp hb⟩
  · rintro ⟨c, hc, hb⟩ h
    have hne : s ≠ [] := by
      rintro rfl
      cases hc
    rw [List.getLast?_eq_some_getLast hne] at hc
    apply h hne
    rw [Option.some.inj hc]
    exact hb

section Words

variable {c d : Char} {w t : List Char}

theorem words_cons_of_blank (hc : isBlank c) (s : List Char) : words (c :: s) = words s :=
  if_pos hc

theorem words_cons_of_head (hc : ¬ isBlank c) (hs : ∀ d, s.head? = some d → isBlank d) :
    words (c :: s) = [c] :: words s := by
  cases s with
  | nil => exact if_neg hc
  | cons d s => exact (if_neg hc).trans (if_pos (hs d rfl))

theorem words_cons_cons (hc : ¬ isBlank c) (hd : ¬ isBlank d) (s : List Char) :
    words (c :: d :: s) =
      match words (d :: s) with
      | [] => [[c]]
      | w :: ws => (c :: w) :: ws :=
  (if_neg hc).trans (if_neg hd)

theorem words_ne_nil (hc : ¬ isBlank c) (s : List Char) : words (c :: s) ≠ [] := by
  by_cases hs : ∀ d, s.head? = some d → isBlank d
  · rw [words_cons_of_head hc hs]
    exact List.cons_ne_nil _ _
  · cases s with
    | nil => simp at hs
    | cons d s =>
      rw [words_cons_cons hc (by simpa using hs)]
      split
      · exact List.cons_ne_nil _ _
      · exact List.cons_ne_nil _ _

/-- A character that is followed by another of its word joins it. -/
theorem words_cons_of_solid (hc : ¬ isBlank c) (hd : ¬ isBlank d) (s : List Char) :
    ∃ w ws, words (d :: s) = w :: ws ∧ words (c :: d :: s) = (c :: w) :: ws := by
  obtain ⟨w, ws, hw⟩ := List.exists_cons_of_ne_nil (words_ne_nil hd s)
  have hcw := words_cons_cons hc hd s
  rw [hw] at hcw
  exact ⟨w, ws, hw, hcw⟩

theorem words_append_cons (hc : isBlank c) (s t : List Char) :
    words (s ++ c :: t) = words s ++ words t := by
  induction s with
  | nil => exact words_cons_of_blank hc t
  | cons d s ih =>
    rw [List.cons_append]
    by_cases hd : isBlank d
    · rw [words_cons_of_blank hd, words_cons_of_blank hd, ih]
    cases s with
    | nil =>
      rw [List.nil_append, words_cons_of_head hd (by simpa using hc),
        words_cons_of_head hd (by simp), words_cons_of_blank hc]
      rfl
    | cons e s =>
      by_cases he : isBlank e
      · rw [words_cons_of_head hd (by simpa using he), ih, words_cons_of_head hd (by simpa using he)]
        rfl
      · obtain ⟨w, ws, hw, hdw⟩ := words_cons_of_solid hd he s
        obtain ⟨v, vs, hv, hdv⟩ := words_cons_of_solid hd he (s ++ c :: t)
        rw [List.cons_append, hv, hw] at ih
        obtain ⟨rfl, rfl⟩ := List.cons.inj ih
        rw [hdw, List.cons_append, hdv]
        rfl

theorem words_concat_blank (hc : isBlank c) (s : List Char) : words (s ++ [c]) = words s :=
  (words_append_cons hc s []).trans (List.append_nil _)

theorem words_blanks_append (h : ∀ c ∈ t, isBlank c) (s : List Char) :
    words (t ++ s) = words s := by
  induction t with
  | nil => rfl
  | cons c t ih =>
    rw [List.cons_append, words_cons_of_blank (h c List.mem_cons_self)]
    exact ih fun d hd => h d (List.mem_cons_of_mem c hd)

theorem words_of_solid (hne : w ≠ []) (h : ∀ c ∈ w, ¬ isBlank c) : words w = [w] := by
  induction w with
  | nil => exact absurd rfl hne
  | cons c w ih =>
    obtain ⟨hc, hw⟩ := List.forall_mem_cons.mp h
    cases w with
    | nil => exact words_cons_of_head hc (by simp)
    | cons d w =>
      obtain ⟨v, vs, hv, hcv⟩ := words_cons_of_solid hc (hw d List.mem_cons_self) w
      rw [ih (by simp) hw] at hv
      obtain ⟨rfl, rfl⟩ := List.cons.inj hv
      exact hcv

theorem words_append_of_head (hne : w ≠ []) (h : ∀ c ∈ w, ¬ isBlank c)
    (hs : ∀ c, s.head? = some c → isBlank c) : words (w ++ s) = w :: words s := by
  cases s with
  | nil =>
    rw [List.append_nil, words_of_solid hne h]
    rfl
  | cons c s =>
    rw [words_append_cons (hs c rfl), words_of_solid hne h, words_cons_of_blank (hs c rfl)]
    rfl

end Words

end Text

/-- Nothing but blanks. -/
def IsBlankText (s : String) : Prop := ∀ c ∈ s.toList, Text.isBlank c

-- Looks at the characters of the text, and not at all there are.
instance (s : String) : Decidable (IsBlankText s) :=
  decidable_of_iff (s.toList.all Text.isBlank = true) List.all_eq_true

theorem trimmed_eq_empty_iff {s : String} : trimmed s = "" ↔ IsBlankText s := by
  unfold trimmed IsBlankText
  rw [← Text.trim_eq_nil_iff, ← String.toList_inj, String.toList_ofList]
  rfl

/-- No blank at the beginning, and none at the end. -/
structure Bare (s : String) : Prop where
  head : ∀ c, s.toList.head? = some c → ¬ Text.isBlank c
  last : ∀ c, s.toList.getLast? = some c → ¬ Text.isBlank c

theorem bare_trimmed (s : String) : Bare (trimmed s) := by
  unfold trimmed
  constructor
  · intro c hc
    rw [String.toList_ofList] at hc
    exact Text.not_isBlank_of_head?_trim hc
  · intro c hc
    rw [String.toList_ofList] at hc
    exact Text.not_isBlank_of_getLast?_trim hc

theorem Bare.trimmed_eq {s : String} (h : Bare s) : trimmed s = s := by
  rw [trimmed, Text.trim_of_ends h.head h.last, String.ofList_toList]

end StateLint
