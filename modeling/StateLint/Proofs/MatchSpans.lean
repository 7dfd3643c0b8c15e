import StateLint.Regex

/-! # Where matches are

The threads of a search know where their match began, and no step invents a beginning: it is that of
a thread before the step, or the position at which a search sets out. So matches lie in the text, and
a later match does not begin before an earlier one. -/
namespace StateLint.Regex

/-- The span lies between two offsets. -/
structure Span.Within (m : Span) (lo hi : Nat) : Prop where
  lo_le_start : lo ≤ m.start
  start_le_stop : m.start ≤ m.stop
  stop_le_hi : m.stop ≤ hi

theorem Span.Within.mono {m : Span} {lo lo' hi hi' : Nat} (h : m.Within lo hi) (hlo : lo' ≤ lo)
    (hhi : hi ≤ hi') : m.Within lo' hi' :=
  ⟨Nat.le_trans hlo h.lo_le_start, h.start_le_stop, Nat.le_trans h.stop_le_hi hhi⟩

namespace Program

variable {p : Program} {P : Nat → Prop} {before after : Option Char}

theorem follow_starts {start : Nat} (hs : P start) (fuel : Nat) (stack : List Nat) (f : Frontier)
    (hf : ∀ t ∈ f.threads, P t.start) :
    ∀ t ∈ (p.follow before after start fuel stack f).threads, P t.start := by
  fun_induction follow p before after start fuel stack f with
  | case1 => exact hf
  | case2 => exact hf
  | case3 _ _ _ _ _ ih => exact ih hf
  | case4 _ _ _ _ _ _ _ _ _ ih => exact ih hf
  | case5 _ _ _ _ _ _ _ _ _ ih => exact ih hf
  | case6 fuel a stack f _ f' _ _ _ _ ih =>
    apply ih
    intro t ht
    rcases List.mem_cons.mp ht with rfl | ht
    · exact hs
    · exact hf t ht
  | case7 _ _ _ _ _ _ _ ih => exact ih hf

theorem followAll_starts (p : Program) (before after : Option Char) {threads : List Thread}
    (h : ∀ t ∈ threads, P t.start) :
    ∀ t ∈ p.followAll before after threads, P t.start := by
  have hfold : ∀ (ts : List Thread) (f : Frontier), (∀ t ∈ ts, P t.start) →
      (∀ t ∈ f.threads, P t.start) → ∀ t ∈ (ts.foldl (fun f t =>
        p.follow before after t.start (2 * p.code.size + 2) [t.address] f) f).threads,
        P t.start := by
    intro ts
    induction ts with
    | nil => exact fun f _ hf => hf
    | cons t ts ih =>
      intro f hts hf
      apply ih _ (fun u hu => hts u (List.mem_cons_of_mem t hu))
      exact follow_starts (hts t List.mem_cons_self) _ _ f hf
  intro t ht
  exact hfold threads _ h (by simp) t (List.mem_reverse.mp ht)

theorem advance_starts (p : Program) (pos : Nat) (after : Option Char) {threads : List Thread}
    (h : ∀ t ∈ threads, P t.start) :
    (∀ t ∈ (p.advance pos after threads).1, P t.start) ∧
      ∀ m ∈ (p.advance pos after threads).2, P m.start ∧ m.stop = pos := by
  fun_induction advance p pos after threads with
  | case1 => simp
  | case2 t ts _ => simpa using h t List.mem_cons_self
  | case3 t ts set next _ going found hr _ ih =>
    have ih := ih fun u hu => h u (List.mem_cons_of_mem t hu)
    rw [hr] at ih
    refine ⟨?_, ih.2⟩
    intro u hu
    rcases List.mem_cons.mp hu with rfl | hu
    · exact h t List.mem_cons_self
    · exact ih.1 u hu
  | case4 t ts set next _ going found hr _ ih =>
    have ih := ih fun u hu => h u (List.mem_cons_of_mem t hu)
    rw [hr] at ih
    exact ih
  | case5 t ts _ _ ih => exact ih fun u hu => h u (List.mem_cons_of_mem t hu)

/-- One position of a search: the threads that go on, and the best match after it. -/
def tick (p : Program) (pos : Nat) (before after : Option Char) (threads : List Thread)
    (best : Option Span) : List Thread × Option Span :=
  let r := p.advance pos after (p.followAll before after
    (if best.isSome then threads else threads ++ [⟨p.entry, pos⟩]))
  (r.1, r.2 <|> best)

theorem run_nil (pos : Nat) (threads : List Thread) (best : Option Span) :
    p.run pos before threads best [] = (p.tick pos before none threads best).2 := rfl

theorem run_cons (pos : Nat) (threads : List Thread) (best : Option Span) (c : Char)
    (rest : List Char) :
    p.run pos before threads best (c :: rest) =
      let (going, best) := p.tick pos before (some c) threads best
      if going.isEmpty && best.isSome then best
      else p.run (pos + 1) (some c) going best rest := rfl

/-- What a search that set out at `lo` has at position `pos`. -/
structure Searching (lo pos : Nat) (threads : List Thread) (best : Option Span) : Prop where
  lo_le_pos : lo ≤ pos
  threads_start : ∀ t ∈ threads, lo ≤ t.start ∧ t.start ≤ pos
  best_within : ∀ m ∈ best, m.Within lo pos

variable {lo pos : Nat} {threads : List Thread} {best : Option Span}

theorem Searching.tick (h : Searching lo pos threads best) (p : Program)
    (before after : Option Char) :
    Searching lo pos (p.tick pos before after threads best).1
      (p.tick pos before after threads best).2 := by
  have hentry : ∀ t ∈ (if best.isSome then threads else threads ++ [⟨p.entry, pos⟩]),
      lo ≤ t.start ∧ t.start ≤ pos := by
    split
    · exact h.threads_start
    · intro t ht
      rcases List.mem_append.mp ht with ht | ht
      · exact h.threads_start t ht
      · rw [List.mem_singleton.mp ht]
        exact ⟨h.lo_le_pos, Nat.le_refl pos⟩
  have hfollow := followAll_starts (P := fun n => lo ≤ n ∧ n ≤ pos) p before after hentry
  obtain ⟨hgoing, hfound⟩ := advance_starts (P := fun n => lo ≤ n ∧ n ≤ pos) p pos after hfollow
  refine ⟨h.lo_le_pos, hgoing, ?_⟩
  intro m hm
  rw [Program.tick, Option.orElse_eq_orElse, Option.orElse_eq_or, Option.mem_def,
    Option.or_eq_some_iff] at hm
  rcases hm with hm | ⟨_, hm⟩
  · obtain ⟨⟨hlo, hpos⟩, hstop⟩ := hfound m hm
    exact ⟨hlo, hstop ▸ hpos, Nat.le_of_eq hstop⟩
  · exact h.best_within m hm

theorem Searching.next (h : Searching lo pos threads best) :
    Searching lo (pos + 1) threads best where
  lo_le_pos := Nat.le_succ_of_le h.lo_le_pos
  threads_start t ht := ⟨(h.threads_start t ht).1, Nat.le_succ_of_le (h.threads_start t ht).2⟩
  best_within m hm := (h.best_within m hm).mono (Nat.le_refl lo) (Nat.le_succ pos)

theorem run_within (h : Searching lo pos threads best) (rest : List Char) :
    ∀ m ∈ p.run pos before threads best rest, m.Within lo (pos + rest.length) := by
  induction rest generalizing pos before threads best with
  | nil =>
    intro m hm
    rw [run_nil] at hm
    exact (h.tick p before none).best_within m hm
  | cons c rest ih =>
    intro m hm
    rw [run_cons] at hm
    have ht := h.tick p before (some c)
    dsimp only at hm
    split at hm
    · exact (ht.best_within m hm).mono (Nat.le_refl lo) (Nat.le_add_right pos _)
    · have := ih ht.next m hm
      rw [List.length_cons]
      rwa [Nat.add_right_comm] at this

theorem find?_within {rest : List Char} {m : Span} (h : p.find? pos before rest = some m) :
    m.Within pos (pos + rest.length) :=
  run_within ⟨Nat.le_refl pos, by simp, by simp⟩ rest m h

/-- The match that is reported next: an empty one right behind the last is passed over. -/
def nextMatch? (p : Program) (last : Option Nat) (pos : Nat) (before : Option Char)
    (rest : List Char) : Option Span :=
  match p.find? pos before rest with
  | none => none
  | some m =>
    if m.start = m.stop ∧ last = some m.stop then
      match rest with
      | [] => none
      | c :: rest => p.find? (pos + 1) (some c) rest
    else some m

theorem spansFrom_succ (fuel : Nat) (last : Option Nat) (pos : Nat) (rest : List Char) :
    p.spansFrom (fuel + 1) last pos before rest =
      match p.nextMatch? last pos before rest with
      | none => []
      | some m =>
        m :: p.spansFrom fuel (some m.stop) m.stop ((rest.take (m.stop - pos)).getLast? <|> before)
          (rest.drop (m.stop - pos)) := rfl

theorem nextMatch?_within {last : Option Nat} {rest : List Char} {m : Span}
    (h : p.nextMatch? last pos before rest = some m) : m.Within pos (pos + rest.length) := by
  unfold nextMatch? at h
  split at h
  · cases h
  · next m' hm' =>
    split at h
    · cases rest with
      | nil => cases h
      | cons c rest =>
        have := find?_within h
        rw [Nat.add_right_comm] at this
        exact this.mono (Nat.le_succ pos) (Nat.le_refl _)
    · cases h
      exact find?_within hm'

/-- A match that is reported later begins where the earlier ones ended, or behind. -/
theorem spansFrom_within_and_pairwise (fuel : Nat) (last : Option Nat) (pos : Nat)
    (before : Option Char) (rest : List Char) :
    (∀ m ∈ p.spansFrom fuel last pos before rest, m.Within pos (pos + rest.length)) ∧
      (p.spansFrom fuel last pos before rest).Pairwise fun m m' => m.stop ≤ m'.start := by
  induction fuel generalizing last pos before rest with
  | zero => exact ⟨by simp [spansFrom], .nil⟩
  | succ fuel ih =>
    rw [spansFrom_succ]
    cases hm : p.nextMatch? last pos before rest with
    | none => exact ⟨by simp, .nil⟩
    | some m =>
      have hw := nextMatch?_within hm
      obtain ⟨hin, hpair⟩ := ih (some m.stop) m.stop
        ((rest.take (m.stop - pos)).getLast? <|> before) (rest.drop (m.stop - pos))
      have hend : m.stop + (rest.drop (m.stop - pos)).length = pos + rest.length := by
        have := hw.lo_le_start
        have := hw.start_le_stop
        have := hw.stop_le_hi
        rw [List.length_drop]
        omega
      rw [hend] at hin
      constructor
      · intro m' hm'
        rcases List.mem_cons.mp hm' with rfl | hm'
        · exact hw
        · exact (hin m' hm').mono (Nat.le_trans hw.lo_le_start hw.start_le_stop) (Nat.le_refl _)
      · exact List.pairwise_cons.mpr ⟨fun m' hm' => (hin m' hm').lo_le_start, hpair⟩

end Program

theorem spans_within (r : Regex) (text : String) :
    ∀ m ∈ r.spans text, m.Within 0 text.toList.length := by
  intro m hm
  have := (Program.spansFrom_within_and_pairwise _ none 0 none text.toList).1 m hm
  rwa [Nat.zero_add] at this

theorem spans_starts_sorted (r : Regex) (text : String) :
    (r.spans text).Pairwise fun m m' => m.start ≤ m'.start := by
  have hp := (Program.spansFrom_within_and_pairwise (p := r.program) (text.toList.length + 2)
    none 0 none text.toList).2
  apply List.Pairwise.imp_of_mem _ hp
  intro m m' hm _ hle
  exact Nat.le_trans (spans_within r text m hm).start_le_stop hle

end StateLint.Regex
