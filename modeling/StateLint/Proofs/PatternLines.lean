import StateLint.Proofs.PatternFaults
import StateLint.Proofs.PatternVerdicts

/-! # What a line adds to a set of patterns

A set is made from its lines one after the other, and its patterns are what their texts describe.
Blanks at the end of a line are taken off before it is read. Reading does the same, so this changes
nothing, except where the blank at the end is quoted by a backslash and should have stayed. -/
namespace StateLint

namespace PathPattern

/-- The first character says whether a line takes paths back. -/
theorem outline_negated_iff {s : List Char} :
    (outline s).negated = true ↔ s.head? = some '!' := by
  have hstart : (outline s).negated = (outlineStart s).negated := by
    unfold outline
    dsimp only
    split <;> rfl
  rw [hstart]
  cases s with
  | nil => simp [outlineStart]
  | cons c s =>
    unfold outlineStart
    split <;> simp_all

/-- The pattern is the one that its text describes. -/
structure Described (p : PathPattern) : Prop where
  negated : p.negated = (outline p.text.toList).negated
  dirOnly : p.dirOnly = (outline p.text.toList).dirOnly
  glob : Glob.parse (outline p.text.toList).globText = .ok p.glob

theorem Described.negated_iff {p : PathPattern} (h : p.Described) :
    p.negated = true ↔ p.text.toList.head? = some '!' := by
  rw [h.negated]
  exact outline_negated_iff

theorem ofLine_eq_ok_some {line : String} {p : PathPattern} (h : ofLine line = .ok (some p)) :
    p.text = String.ofList (withoutEnd line.toList) ∧ p.Described := by
  unfold ofLine at h
  split at h
  · cases h
  dsimp only at h
  split at h
  · cases h
  split at h
  · next glob hg =>
    cases h
    refine ⟨rfl, ?_⟩
    constructor
    · rw [String.toList_ofList]
    · rw [String.toList_ofList]
    · rw [String.toList_ofList]
      exact hg
  · cases h

theorem ofLine_of_comment {line : String} (h : line.toList.head? = some '#') :
    ofLine line = .ok none := if_pos h

/-- Apart from comments, only the text without its end counts. -/
theorem ofLine_congr {a b : String} (ha : a.toList.head? ≠ some '#')
    (hb : b.toList.head? ≠ some '#') (h : withoutEnd a.toList = withoutEnd b.toList) :
    ofLine a = ofLine b := by
  unfold ofLine
  rw [if_neg ha, if_neg hb, h]

theorem withoutEnd_trimEnd (s : List Char) : withoutEnd (Text.trimEnd s) = Text.trimEnd s := by
  unfold withoutEnd
  split
  · rfl
  · exact List.rdropWhile_idempotent _ s

end PathPattern

namespace PathPatternSet

/-- The line ends in a blank that belongs to it, because a backslash stands before it. -/
def QuotedBlank (line : String) : Prop := "\\ ".toList <:+ line.toList

instance (line : String) : Decidable (QuotedBlank line) :=
  inferInstanceAs (Decidable (_ <:+ _))

/-- A line that takes paths back. -/
def TakesBack (line : String) : Prop := line.toList.head? = some '!'

instance (line : String) : Decidable (TakesBack line) := inferInstanceAs (Decidable (_ = _))

/-- What a line adds to a set. -/
def added (line : String) : Except Glob.ParseError (Option PathPattern) :=
  if holdsPattern line then PathPattern.ofLine (trimmedEnd line) else .ok none

theorem added_of_skipped {line : String} (h : IsBlankText line ∨ IsComment line) :
    added line = .ok none := by
  apply if_neg
  rw [holdsPattern_iff]
  tauto

theorem passes_iff_added {line : String} : Passes line ↔ ∃ p, added line = .ok p := by
  unfold added Passes Compiles
  by_cases hp : holdsPattern line
  · obtain ⟨hb, hc⟩ := holdsPattern_iff.mp hp
    simp [hp, hb, hc]
  · have hskip : ¬ (¬ IsBlankText line ∧ ¬ IsComment line) := fun h => hp (holdsPattern_iff.mpr h)
    simp only [hp, Bool.false_eq_true, if_false, Except.ok.injEq, exists_eq', iff_true]
    intro hb hc
    exact absurd ⟨hb, hc⟩ hskip

theorem text_of_added {line : String} {p : PathPattern} (h : added line = .ok (some p)) :
    p.text = trimmedEnd line ∧ p.Described := by
  unfold added at h
  split at h
  · obtain ⟨ht, hd⟩ := PathPattern.ofLine_eq_ok_some h
    rw [trimmedEnd, String.toList_ofList, PathPattern.withoutEnd_trimEnd] at ht
    exact ⟨ht, hd⟩
  · cases h

theorem negated_of_added {line : String} {p : PathPattern} (h : added line = .ok (some p)) :
    p.negated = true ↔ TakesBack line := by
  obtain ⟨ht, hd⟩ := text_of_added h
  rw [hd.negated_iff, ht, trimmedEnd, String.toList_ofList]
  exact Text.head?_trimEnd_eq_iff (by decide)

/-- A line adds the pattern that is read from it as it is, if its last blank is not quoted. -/
theorem added_eq_ofLine {line : String} (h : ¬ IsComment line → ¬ QuotedBlank line) :
    added line = PathPattern.ofLine line := by
  -- Both pass over comments first, so that the end of a comment does not matter.
  by_cases hc : IsComment line
  · rw [added_of_skipped (.inr hc), PathPattern.ofLine_of_comment hc]
  have hend : PathPattern.withoutEnd line.toList = Text.trimEnd line.toList := by
    apply if_neg
    rw [List.isSuffixOf_iff_suffix]
    exact h hc
  by_cases hb : IsBlankText line
  · have hnil : Text.trimEnd line.toList = [] := List.rdropWhile_eq_nil_iff.mpr hb
    have hempty : ("" : String).toList.head? ≠ some '#' := by simp
    rw [added_of_skipped (.inl hb), PathPattern.ofLine_congr hc hempty (hend.trans hnil)]
    rfl
  · have hp : holdsPattern line = true := holdsPattern_iff.mpr ⟨hb, hc⟩
    have htrim : (trimmedEnd line).toList = Text.trimEnd line.toList := String.toList_ofList
    have hhead : (trimmedEnd line).toList.head? ≠ some '#' := by
      rw [htrim, Ne, Text.head?_trimEnd_eq_iff (by decide)]
      exact hc
    rw [added, if_pos hp]
    apply PathPattern.ofLine_congr hhead hc
    rw [htrim, PathPattern.withoutEnd_trimEnd, hend]

/-- The patterns that `read` finds on some lines, in order. A line without a pattern adds nothing,
and one that is malformed ends the reading. -/
def gather (read : String → Except Glob.ParseError (Option PathPattern)) :
    List String → Except Glob.ParseError (List PathPattern)
  | [] => .ok []
  | line :: lines =>
    match read line with
    | .error e => .error e
    | .ok p =>
      match gather read lines with
      | .error e => .error e
      | .ok ps => .ok (p.toList ++ ps)

section Gather

variable {read : String → Except Glob.ParseError (Option PathPattern)} {line : String}
  {lines : List String} {ps : List PathPattern}

theorem gather_cons_eq_ok_iff :
    gather read (line :: lines) = .ok ps ↔
      ∃ p more, read line = .ok p ∧ gather read lines = .ok more ∧ ps = p.toList ++ more := by
  cases hl : read line with
  | error e => simp [gather, hl]
  | ok p => cases hr : gather read lines <;> simp [gather, hl, hr, eq_comm]

theorem gather_append_eq_ok_iff {before after : List String} :
    gather read (before ++ after) = .ok ps ↔
      ∃ first rest, gather read before = .ok first ∧ gather read after = .ok rest ∧
        ps = first ++ rest := by
  induction before generalizing ps with
  | nil => simp [gather]
  | cons line before ih =>
    rw [List.cons_append, gather_cons_eq_ok_iff]
    simp only [gather_cons_eq_ok_iff, ih]
    constructor
    · rintro ⟨p, more, hp, ⟨first, rest, hf, hr, rfl⟩, rfl⟩
      exact ⟨p.toList ++ first, rest, ⟨p, first, hp, hf, rfl⟩, hr, by simp⟩
    · rintro ⟨_, rest, ⟨p, first, hp, hf, rfl⟩, hr, rfl⟩
      exact ⟨p, first ++ rest, hp, ⟨first, rest, hf, hr, rfl⟩, by simp⟩

theorem exists_gather_eq_ok_iff :
    (∃ ps, gather read lines = .ok ps) ↔ ∀ line ∈ lines, ∃ p, read line = .ok p := by
  induction lines with
  | nil => simp [gather]
  | cons line lines ih =>
    rw [List.forall_mem_cons, ← ih]
    simp only [gather_cons_eq_ok_iff]
    constructor
    · rintro ⟨_, p, more, hp, hm, -⟩
      exact ⟨⟨p, hp⟩, more, hm⟩
    · rintro ⟨⟨p, hp⟩, more, hm⟩
      exact ⟨_, p, more, hp, hm, rfl⟩

theorem exists_line_of_mem_gather (h : gather read lines = .ok ps) {p : PathPattern}
    (hp : p ∈ ps) : ∃ line ∈ lines, read line = .ok (some p) := by
  induction lines generalizing ps with
  | nil =>
    cases h
    cases hp
  | cons line lines ih =>
    obtain ⟨own, more, ho, hm, rfl⟩ := gather_cons_eq_ok_iff.mp h
    rcases List.mem_append.mp hp with hp | hp
    · exact ⟨line, List.mem_cons_self, Option.mem_toList.mp hp ▸ ho⟩
    · obtain ⟨other, hmem, hr⟩ := ih hm hp
      exact ⟨other, List.mem_cons_of_mem line hmem, hr⟩

theorem gather_congr {other : String → Except Glob.ParseError (Option PathPattern)}
    (h : ∀ line ∈ lines, read line = other line) : gather read lines = gather other lines := by
  induction lines with
  | nil => rfl
  | cons line lines ih =>
    obtain ⟨hl, hr⟩ := List.forall_mem_cons.mp h
    rw [gather, gather, hl, ih hr]

end Gather

variable {base : Option Path} {lines : List String} {set : PathPatternSet} {ps : List PathPattern}

theorem compileLines_eq_ok_iff : compileLines lines = .ok ps ↔ gather added lines = .ok ps := by
  induction lines generalizing ps with
  | nil => simp [compileLines, gather]
  | cons line lines ih =>
    rw [gather_cons_eq_ok_iff]
    simp only [← ih]
    by_cases hp : holdsPattern line
    swap
    · simp [compileLines, added, hp, eq_comm]
    cases hl : PathPattern.ofLine (trimmedEnd line) with
    | error e => simp [compileLines, added, hp, hl]
    | ok p =>
      cases p with
      | none => simp [compileLines, added, hp, hl, eq_comm]
      | some p => cases hr : compileLines lines <;> simp [compileLines, added, hp, hl, hr, eq_comm]

theorem compile_eq_ok_iff :
    compile base lines = .ok set ↔ gather added lines = .ok set.patterns ∧ set.base = base := by
  rw [← compileLines_eq_ok_iff]
  obtain ⟨own, ps⟩ := set
  unfold compile
  cases compileLines lines with
  | error e => simp
  | ok found => simp [and_comm, eq_comm]

theorem described_of_mem (h : compile base lines = .ok set) {p : PathPattern}
    (hp : p ∈ set.patterns) : p.Described := by
  obtain ⟨line, -, hl⟩ := exists_line_of_mem_gather (compile_eq_ok_iff.mp h).1 hp
  exact (text_of_added hl).2

/-- The patterns of lines that are read as they are, with the blanks at their ends. -/
def readLines : List String → Except Glob.ParseError (List PathPattern) :=
  gather PathPattern.ofLine

/-- Unless a blank at the end of a line is quoted, it makes no difference that blanks are taken off
before the lines are read: the same lists are well-formed, and they ignore the same paths. -/
theorem compile_same_as_read (base : Option Path) (lines : List String)
    (hq : ∀ line ∈ lines, ¬ IsComment line → ¬ QuotedBlank line) :
    ((∃ set, compile base lines = .ok set) ↔
      ∀ line ∈ lines, ∃ p, PathPattern.ofLine line = .ok p) ∧
    ∀ set, compile base lines = .ok set → ∃ ps, readLines lines = .ok ps ∧
      ∀ path, set.contains path = true ↔
        namesFrom base path ≠ [] ∧
          verdict? ps false (namesFrom base path).reverse = some true := by
  have hread : gather added lines = readLines lines :=
    gather_congr fun line hl => added_eq_ofLine (hq line hl)
  constructor
  · rw [← exists_gather_eq_ok_iff]
    constructor
    · rintro ⟨set, h⟩
      exact ⟨set.patterns, hread.symm.trans (compile_eq_ok_iff.mp h).1⟩
    · rintro ⟨ps, h⟩
      exact ⟨⟨base, ps⟩, compile_eq_ok_iff.mpr ⟨hread.trans h, rfl⟩⟩
  · intro set h
    obtain ⟨hg, rfl⟩ := compile_eq_ok_iff.mp h
    exact ⟨set.patterns, hread.symm.trans hg, fun path => contains_eq_true_iff⟩

/-- A comment that ends in a quoted blank, a blank line, and two lines with blanks at their ends. -/
def spacedLines : List String := ["# a\\ ", " \t", " #b  ", "web/ \u3000"]

def spacedSet : PathPatternSet := (compile none spacedLines).toOption.getD empty

theorem compile_same_as_read_spaced :
    (∀ line ∈ spacedLines, ¬ IsComment line → ¬ QuotedBlank line) ∧
      compile none spacedLines = .ok spacedSet ∧ spacedSet.contains ⟨"web/a.sls"⟩ = true ∧
      ∃ ps, readLines spacedLines = .ok ps ∧ verdict? ps false ["a.sls", "web"] = some true := by
  have hplain : ∀ line ∈ spacedLines, ¬ IsComment line → ¬ QuotedBlank line := by decide +kernel
  have hset : compile none spacedLines = .ok spacedSet := by rfl
  have hin : spacedSet.contains ⟨"web/a.sls"⟩ = true := by decide +kernel
  obtain ⟨-, hsame⟩ := compile_same_as_read none spacedLines hplain
  obtain ⟨ps, hps, hpaths⟩ := hsame spacedSet hset
  have hnames : namesFrom none ⟨"web/a.sls"⟩ = ["web", "a.sls"] := by decide +kernel
  have hv := ((hpaths ⟨"web/a.sls"⟩).mp hin).2
  rw [hnames] at hv
  exact ⟨hplain, hset, hin, ps, hps, hv⟩

/-- A quoted blank is taken off as well. What is left is refused, or ignores another path. -/
theorem quoted_blank_lost :
    (¬ ∀ (base : Option Path) (lines : List String),
      (∃ set, compile base lines = .ok set) ↔
        ∀ line ∈ lines, ∃ p, PathPattern.ofLine line = .ok p) ∧
    ¬ ∀ (base : Option Path) (lines : List String) (set : PathPatternSet) (ps : List PathPattern)
        (path : Path), compile base lines = .ok set → readLines lines = .ok ps →
      (set.contains path = true ↔ namesFrom base path ≠ [] ∧
        verdict? ps false (namesFrom base path).reverse = some true) := by
  constructor
  · intro h
    have hread : ∀ line ∈ ["a\\ "], ∃ p, PathPattern.ofLine line = .ok p := by
      intro line hl
      rw [List.mem_singleton.mp hl]
      exact ⟨_, rfl⟩
    obtain ⟨set, hs⟩ := (h none ["a\\ "]).mpr hread
    cases hs
  · intro h
    have hin : ((compile none ["a\\\\ "]).toOption.map (·.contains ⟨"a\\"⟩)) = some true := by
      decide +kernel
    have hout : ((readLines ["a\\\\ "]).toOption.map (verdict? · false ["a\\"])) =
        some none := by decide +kernel
    cases hc : compile none ["a\\\\ "] with
    | error e => simp [hc, Except.toOption] at hin
    | ok set =>
      cases hr : readLines ["a\\\\ "] with
      | error e => simp [hr, Except.toOption] at hout
      | ok ps =>
        rw [hc] at hin
        rw [hr] at hout
        obtain ⟨-, hv⟩ := (h none _ set ps ⟨"a\\"⟩ hc hr).mp (Option.some.inj hin)
        have hnames : namesFrom none ⟨"a\\"⟩ = ["a\\"] := by decide +kernel
        have hnone : verdict? ps false ["a\\"] = none := Option.some.inj hout
        rw [hnames, List.reverse_singleton, hnone] at hv
        cases hv

/-- A well-formed line can stand at any place, and adds one pattern there or none. -/
theorem compile_insert {before after : List String} {line : String}
    {own : Option PathPattern} (h : compile base (before ++ after) = .ok set)
    (hl : added line = .ok own) :
    ∃ first rest, set = ⟨base, first ++ rest⟩ ∧
      compile base (before ++ line :: after) = .ok ⟨base, first ++ (own.toList ++ rest)⟩ := by
  obtain ⟨hg, hb⟩ := compile_eq_ok_iff.mp h
  obtain ⟨first, rest, hf, hr, hps⟩ := gather_append_eq_ok_iff.mp hg
  refine ⟨first, rest, by rw [← hb, ← hps], ?_⟩
  rw [compile_eq_ok_iff]
  refine ⟨gather_append_eq_ok_iff.mpr ⟨first, own.toList ++ rest, hf, ?_, rfl⟩, rfl⟩
  exact gather_cons_eq_ok_iff.mpr ⟨own, rest, hl, hr, rfl⟩

/-- One more line, at any place, leaves everything ignored that was so before, unless it takes paths
back. Then nothing is ignored that was not so before. Blank lines and comments change nothing. -/
theorem contains_monotone_in_lines (before after : List String) {line : String}
    (h : compile base (before ++ after) = .ok set) (hl : Passes line) :
    ∃ more, compile base (before ++ line :: after) = .ok more ∧
      (¬ TakesBack line → ∀ p, set.contains p = true → more.contains p = true) ∧
      (TakesBack line → ∀ p, more.contains p = true → set.contains p = true) ∧
      (IsBlankText line ∨ IsComment line → ∀ p, more.contains p = set.contains p) := by
  obtain ⟨own, ho⟩ := passes_iff_added.mp hl
  obtain ⟨first, rest, rfl, hmore⟩ := compile_insert h ho
  refine ⟨_, hmore, ?_⟩
  cases own with
  | none => exact ⟨fun _ _ => id, fun _ _ => id, fun _ _ => rfl⟩
  | some q =>
    have hlevel := strictness_verdictAt?_insert first rest q
    refine ⟨?_, ?_, ?_⟩
    · intro ht p hp
      have hn : q.negated = false := by
        rw [← Bool.not_eq_true, negated_of_added ho]
        exact ht
      refine contains_mono ?_ ?_ hp
      · rfl
      · exact fun isDir names => (hlevel isDir names).1 hn
    · intro ht p hp
      have hn : q.negated = true := (negated_of_added ho).mpr ht
      refine contains_mono ?_ ?_ hp
      · rfl
      · exact fun isDir names => (hlevel isDir names).2 hn
    · intro hskip
      cases (added_of_skipped hskip).symm.trans ho

def webSet : PathPatternSet := (compile none ["web/", "!web/*.sls"]).toOption.getD empty

/-- What is ignored because of its directory stays so when names get a line of their own. -/
theorem contains_monotone_in_lines_web :
    compile none ["web/", "!web/*.sls"] = .ok webSet ∧ Passes "*.txt" ∧ ¬ TakesBack "*.txt" ∧
      webSet.contains ⟨"web/a.txt"⟩ = true ∧
      ∃ more, compile none ["web/", "*.txt", "!web/*.sls"] = .ok more ∧
        more.contains ⟨"web/a.txt"⟩ = true := by
  have hset : compile none ["web/", "!web/*.sls"] = .ok webSet := by rfl
  have hline : Passes "*.txt" := fun _ _ => ⟨_, rfl⟩
  have hkeeps : ¬ TakesBack "*.txt" := by decide
  have hin : webSet.contains ⟨"web/a.txt"⟩ = true := by decide +kernel
  obtain ⟨more, hmore, hmono, -, -⟩ := contains_monotone_in_lines ["web/"] _ hset hline
  exact ⟨hset, hline, hkeeps, hin, more, hmore, hmono hkeeps _ hin⟩

end PathPatternSet

end StateLint
