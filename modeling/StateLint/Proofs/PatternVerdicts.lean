import Mathlib.Data.List.Induction
import StateLint.PathPatternSet

/-! # What patterns say about a path and the directories above it

The levels of a path are the path itself and the directories above it. At one level the last
pattern that applies decides, and the lowest level with a decision decides for the path. Two facts
about single levels carry over to paths: if no level is answered more leniently then no path is,
and what decides a path is the answer at one of its levels. -/
namespace StateLint.PathPatternSet

variable {ps qs : List PathPattern} {isDir : Bool} {names : List String}

/-- Of two lists of patterns the later one is asked first. -/
theorem verdictAt?_append (ps qs : List PathPattern) (isDir : Bool) (names : List String) :
    verdictAt? (ps ++ qs) isDir names =
      (verdictAt? qs isDir names).or (verdictAt? ps isDir names) := by
  simp only [verdictAt?, List.reverse_append, List.find?_append]
  cases qs.reverse.find? (·.applies isDir names) <;> rfl

theorem verdictAt?_singleton (q : PathPattern) (isDir : Bool) (names : List String) :
    verdictAt? [q] isDir names = if q.applies isDir names then some (!q.negated) else none := by
  cases h : q.applies isDir names <;> simp [verdictAt?, h]

theorem verdictAt?_eq_none_iff :
    verdictAt? ps isDir names = none ↔ ∀ q ∈ ps, q.applies isDir names = false := by
  simp [verdictAt?]

theorem verdictAt?_eq_some {v : Bool} (h : verdictAt? ps isDir names = some v) :
    ∃ q ∈ ps, q.applies isDir names = true ∧ v = !q.negated := by
  obtain ⟨q, hq, rfl⟩ := Option.map_eq_some_iff.mp h
  have hm := List.mem_of_find?_eq_some hq
  have ha : q.applies isDir names = true := by simpa using List.find?_some hq
  exact ⟨q, List.mem_reverse.mp hm, ha, rfl⟩

theorem verdict?_cons (ps : List PathPattern) (isDir : Bool) (name : String)
    (above : List String) :
    verdict? ps isDir (name :: above) =
      (verdictAt? ps isDir (name :: above).reverse).or (verdict? ps true above) := by
  rw [verdict?]
  cases verdictAt? ps isDir (name :: above).reverse <;> rfl

theorem verdict?_of_no_patterns (isDir : Bool) (above : List String) :
    verdict? [] isDir above = none := by
  induction above generalizing isDir with
  | nil => rfl
  | cons name above ih =>
    rw [verdict?_cons, ih]
    rfl

/-- A path is ignored if it has names and the patterns say so. -/
theorem contains_eq_true_iff {set : PathPatternSet} {p : Path} :
    set.contains p = true ↔
      namesFrom set.base p ≠ [] ∧
        verdict? set.patterns false (namesFrom set.base p).reverse = some true := by
  unfold contains isEmpty
  cases hn : namesFrom set.base p with
  | nil => simp
  | cons name names =>
    cases hp : set.patterns with
    | nil => simp [verdict?_of_no_patterns]
    | cons q qs => simp

/-- Answers from the most lenient to the strictest: a path is taken back, nothing is said, it is
ignored. -/
def strictness : Option Bool → Nat
  | some false => 0
  | none => 1
  | some true => 2

theorem strictness_le (v : Option Bool) : strictness v ≤ 2 := by
  rcases v with - | - | - <;> decide

theorem eq_some_true_iff {v : Option Bool} : v = some true ↔ 2 ≤ strictness v := by
  rcases v with - | - | - <;> decide

/-- The decision moves to another level only if nothing is said at this one. -/
theorem strictness_or_mono {a b c d : Option Bool} (hlevel : strictness a ≤ strictness b)
    (habove : strictness c ≤ strictness d) : strictness (a.or c) ≤ strictness (b.or d) := by
  rcases a with - | - | -
  · rcases b with - | - | -
    · exact habove
    · simp [strictness] at hlevel
    · exact strictness_le c
  · exact Nat.zero_le _
  · rw [eq_some_true_iff.mpr hlevel]
    exact Nat.le_refl _

/-- One more pattern makes no level more lenient if it ignores, and none stricter if it takes
back. -/
theorem strictness_verdictAt?_insert (before after : List PathPattern) (q : PathPattern)
    (isDir : Bool) (names : List String) :
    (q.negated = false → strictness (verdictAt? (before ++ after) isDir names) ≤
      strictness (verdictAt? (before ++ q :: after) isDir names)) ∧
    (q.negated = true → strictness (verdictAt? (before ++ q :: after) isDir names) ≤
      strictness (verdictAt? (before ++ after) isDir names)) := by
  rw [← List.singleton_append, verdictAt?_append, verdictAt?_append, verdictAt?_append,
    verdictAt?_singleton]
  cases verdictAt? after isDir names with
  | some v => simp
  | none =>
    by_cases hq : q.applies isDir names
    · have hle := strictness_le (verdictAt? before isDir names)
      constructor
      · intro hn
        simpa [hq, hn, strictness] using hle
      · intro hn
        simp [hq, hn, strictness]
    · simp [hq]

/-- If no level is answered more leniently then no path is. -/
theorem strictness_verdict?_mono
    (h : ∀ isDir names, strictness (verdictAt? ps isDir names) ≤
      strictness (verdictAt? qs isDir names)) (isDir : Bool) (above : List String) :
    strictness (verdict? ps isDir above) ≤ strictness (verdict? qs isDir above) := by
  induction above generalizing isDir with
  | nil => exact h isDir []
  | cons name above ih =>
    rw [verdict?_cons, verdict?_cons]
    exact strictness_or_mono (h isDir _) (ih true)

/-- If no level is answered more leniently, all that was ignored still is. -/
theorem contains_mono {set more : PathPatternSet} (hb : more.base = set.base)
    (h : ∀ isDir names, strictness (verdictAt? set.patterns isDir names) ≤
      strictness (verdictAt? more.patterns isDir names)) {p : Path}
    (hp : set.contains p = true) : more.contains p = true := by
  obtain ⟨hne, hv⟩ := contains_eq_true_iff.mp hp
  rw [contains_eq_true_iff, hb]
  refine ⟨hne, ?_⟩
  have hle := strictness_verdict?_mono h false (namesFrom set.base p).reverse
  rw [eq_some_true_iff] at hv ⊢
  omega

/-- What is said about a directory is said about one of its levels. -/
theorem exists_level_of_verdict? {v : Bool} (h : verdict? ps true names.reverse = some v) :
    ∃ dir, dir <+: names ∧ verdictAt? ps true dir = some v := by
  induction names using List.reverseRecOn with
  | nil => exact ⟨[], List.prefix_refl [], h⟩
  | append_singleton names name ih =>
    rw [List.reverse_concat, verdict?_cons, List.reverse_cons, List.reverse_reverse] at h
    rcases Option.or_eq_some_iff.mp h with h | ⟨-, h⟩
    · exact ⟨names ++ [name], List.prefix_refl _, h⟩
    · obtain ⟨dir, hd, hv⟩ := ih h
      exact ⟨dir, hd.trans (List.prefix_append names [name]), hv⟩

end StateLint.PathPatternSet
