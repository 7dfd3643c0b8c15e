import StateLint.Proofs.Location
import StateLint.Proofs.SingleReport

/-! # Line findings, line by line

A rule looks at one line after the other, and what it says about a line depends on nothing but the
line and its number. Hence the findings in two texts with a newline between them are those in the
first, and those in the second with later numbers; and another line in the place of one changes what
is said at its number only. -/
namespace StateLint

theorem isComment_iff {line : String} :
    isComment line ↔ line.toList.find? (fun c => !Text.isBlank c) = some '#' := by
  rw [isComment, decide_eq_true_iff, Text.trimStart, List.find?_not_eq_head?_dropWhile]

theorem lines_join (a b : String) : lines (a ++ "\n" ++ b) = lines a ++ lines b :=
  Text.map_split_join rfl a b

theorem length_lines (text : String) : (lines text).length = 1 + text.toList.count '\n' := by
  rw [lines, List.length_map, Text.length_split]

/-- The text with another line at the index `i`. -/
def withLine (text : String) (i : Nat) (line : String) : String :=
  String.intercalate "\n" ((lines text).set i line)

theorem lines_withLine {line : String} (hl : '\n' ∉ line.toList) (text : String) (i : Nat) :
    lines (withLine text i line) = (lines text).set i line := by
  have hne : (lines text).set i line ≠ [] := by
    intro he
    have hlen := congrArg List.length he
    rw [List.length_set, length_lines, List.length_nil] at hlen
    omega
  have hfree : ∀ l ∈ (lines text).set i line, '\n' ∉ l.toList := by
    intro l hm
    rcases List.mem_or_eq_of_mem_set hm with hm | rfl
    · exact not_mem_of_mem_lines hm
    · exact hl
  rw [withLine, lines, Text.split_intercalate rfl hne hfree, List.map_map]
  simp

/-- A file that an input names. -/
def webState : StateFile := ⟨⟨"web.sls"⟩, .state⟩

/-- The same finding, `k` lines further down. -/
def Finding.shift (k : Nat) (f : Finding) : Finding := { f with lineNumber := f.lineNumber + k }

namespace Rule

variable {r : Rule} {file : StateFile} {text line : String} {ls : List String} {f : Finding} {i n : Nat}

theorem lineReport?_isSome_iff : (r.lineReport? file line).isSome ↔
    ¬ isComment line ∧ r.id ∉ SkipDirective.skippedIds line ∧
      (r.matchLine file line).isFlagged := by
  unfold lineReport?
  by_cases hc : isComment line
  · simp [hc]
  by_cases hs : r.id ∈ SkipDirective.skippedIds line
  · simp [hc, hs]
  cases r.matchLine file line with
  | clean => simp [LineVerdict.isFlagged]
  | flagged => simp [LineVerdict.isFlagged, hc, hs]
  | flaggedWith message => simp [LineVerdict.isFlagged, hc, hs]

theorem lineFinding?_shift (r : Rule) (file : StateFile) (n k : Nat) (line : String) :
    r.lineFinding? file (n + k) line = (r.lineFinding? file n line).map (Finding.shift k) := by
  rw [lineFinding?_eq, lineFinding?_eq, Option.map_map]
  rfl

/-- The findings of the rule in some lines, of which the first has the number `n`. -/
def findingsFrom (r : Rule) (file : StateFile) (n : Nat) : List String → List Finding
  | [] => []
  | line :: rest => (r.lineFinding? file n line).toList ++ r.findingsFrom file (n + 1) rest

theorem lineFindings_eq_findingsFrom (r : Rule) (file : StateFile) (text : String) :
    r.lineFindings file text = r.findingsFrom file 1 (lines text) := by
  unfold lineFindings
  -- The number of the first line grows along the text.
  generalize 1 = n
  induction lines text generalizing n with
  | nil => rfl
  | cons line rest ih =>
    rw [List.zipIdx_cons, List.filterMap_cons, ih, findingsFrom]
    cases hf : r.lineFinding? file n line with
    | none => simp [hf]
    | some f => simp [hf]

theorem findingsFrom_append (r : Rule) (file : StateFile) (n : Nat) (ls rest : List String) :
    r.findingsFrom file n (ls ++ rest) =
      r.findingsFrom file n ls ++ r.findingsFrom file (n + ls.length) rest := by
  induction ls generalizing n with
  | nil => rfl
  | cons line ls ih =>
    rw [List.cons_append, findingsFrom, findingsFrom, ih, List.append_assoc, List.length_cons,
      Nat.add_right_comm, Nat.add_assoc]

theorem findingsFrom_shift (r : Rule) (file : StateFile) (n k : Nat) (ls : List String) :
    r.findingsFrom file (n + k) ls = (r.findingsFrom file n ls).map (Finding.shift k) := by
  induction ls generalizing n with
  | nil => rfl
  | cons line ls ih =>
    rw [findingsFrom, findingsFrom, List.map_append, lineFinding?_shift, Nat.add_right_comm, ih,
      Option.toList_map]

theorem lineNumber_of_mem_findingsFrom (h : f ∈ r.findingsFrom file n ls) :
    n ≤ f.lineNumber ∧ f.lineNumber < n + ls.length := by
  induction ls generalizing n with
  | nil => cases h
  | cons line ls ih =>
    rw [List.length_cons]
    rcases List.mem_append.mp h with h | h
    · have := (lineFinding?_eq_some (Option.mem_toList.mp h)).1
      omega
    · have := ih h
      omega

theorem lineFindings_append (r : Rule) (file : StateFile) (a b : String) :
    r.lineFindings file (a ++ "\n" ++ b) = r.lineFindings file a ++
      (r.lineFindings file b).map (Finding.shift (1 + a.toList.count '\n')) := by
  simp only [lineFindings_eq_findingsFrom]
  rw [lines_join, findingsFrom_append, length_lines, findingsFrom_shift]

/-- A line is reported if there is something to say about it. -/
theorem exists_lineNumber_iff (hl : (lines text)[i]? = some line) :
    (∃ f ∈ r.lineFindings file text, f.lineNumber = i + 1) ↔ (r.lineReport? file line).isSome := by
  have hsome : (r.lineReport? file line).isSome = (r.lineFinding? file (i + 1) line).isSome := by
    rw [lineFinding?_eq, Option.isSome_map]
  rw [hsome]
  constructor
  · rintro ⟨f, hf, hn⟩
    obtain ⟨j, line', hl', hf'⟩ := mem_lineFindings hf
    have hj : j = i := by
      have := (lineFinding?_eq_some hf').1
      omega
    subst j
    rw [hl] at hl'
    rw [Option.some.inj hl', hf']
    rfl
  · intro h
    obtain ⟨f, hf⟩ := Option.isSome_iff_exists.mp h
    refine ⟨f, List.mem_filterMap.mpr ⟨(line, i + 1), ?_, hf⟩, (lineFinding?_eq_some hf).1⟩
    exact List.mem_zipIdx_iff_le_and_getElem?_sub.mpr ⟨by omega, by simpa using hl⟩

/-- Of the findings in some lines, a single line decides about those with its number, and about no
others. -/
theorem filter_findingsFrom_append_cons (r : Rule) (file : StateFile) (n : Nat) (before : List String)
    (line : String) (after : List String) :
    ((r.findingsFrom file n (before ++ line :: after)).filter
        fun f => f.lineNumber ≠ n + before.length) =
      r.findingsFrom file n before ++ r.findingsFrom file (n + before.length + 1) after ∧
    ((r.findingsFrom file n (before ++ line :: after)).filter
        fun f => f.lineNumber = n + before.length) =
      (r.lineFinding? file (n + before.length) line).toList := by
  have hb : ∀ f ∈ r.findingsFrom file n before, f.lineNumber ≠ n + before.length := by
    intro f hf
    have := lineNumber_of_mem_findingsFrom hf
    omega
  have hl : ∀ f ∈ (r.lineFinding? file (n + before.length) line).toList,
      f.lineNumber = n + before.length := by
    intro f hf
    exact (lineFinding?_eq_some (Option.mem_toList.mp hf)).1
  have ha : ∀ f ∈ r.findingsFrom file (n + before.length + 1) after,
      f.lineNumber ≠ n + before.length := by
    intro f hf
    have := lineNumber_of_mem_findingsFrom hf
    omega
  simp only [findingsFrom_append, findingsFrom, List.filter_append]
  constructor
  · rw [List.filter_eq_self.mpr (by simpa using hb), List.filter_eq_nil_iff.mpr (by simpa using hl),
      List.filter_eq_self.mpr (by simpa using ha), List.nil_append]
  · rw [List.filter_eq_nil_iff.mpr (by simpa using hb), List.filter_eq_self.mpr (by simpa using hl),
      List.filter_eq_nil_iff.mpr (by simpa using ha), List.nil_append, List.append_nil]

theorem lineFindings_withLine (r : Rule) (file : StateFile) (hi : i < (lines text).length)
    (hl : '\n' ∉ line.toList) :
    ((r.lineFindings file (withLine text i line)).filter fun f => f.lineNumber ≠ i + 1) =
      ((r.lineFindings file text).filter fun f => f.lineNumber ≠ i + 1) ∧
    ((r.lineFindings file (withLine text i line)).filter fun f => f.lineNumber = i + 1) =
      (r.lineFinding? file (i + 1) line).toList := by
  have hset : ∀ l, (lines text).set i l = (lines text).take i ++ l :: (lines text).drop (i + 1) := by
    intro l
    rw [List.set_eq_take_append_cons_drop, if_pos hi]
  have hlen : ((lines text).take i).length = i := List.length_take_of_le hi.le
  have hfilter := fun l => filter_findingsFrom_append_cons r file 1 ((lines text).take i) l
    ((lines text).drop (i + 1))
  simp only [← hset, hlen, Nat.add_comm 1 i] at hfilter
  -- The text as it is has its own line at the index.
  obtain ⟨hold, -⟩ := hfilter (lines text)[i]
  rw [List.set_getElem_self] at hold
  obtain ⟨hnew, hat⟩ := hfilter line
  rw [lineFindings_eq_findingsFrom, lineFindings_eq_findingsFrom, lines_withLine hl]
  exact ⟨hnew.trans hold.symm, hat⟩

/-- Line findings in two texts with a newline between them are those in the one, and those in the
other with their numbers moved behind the first. Their numbers ascend, and to replace a line is to
replace what is said at its number. -/
theorem lineFindings_by_line (r : Rule) (file : StateFile) :
    (∀ a b : String, r.lineFindings file (a ++ "\n" ++ b) = r.lineFindings file a ++
      (r.lineFindings file b).map (Finding.shift (1 + a.toList.count '\n'))) ∧
    (∀ text, (r.lineFindings file text).Pairwise fun f g => f.lineNumber < g.lineNumber) ∧
    ∀ text i line, i < (lines text).length → '\n' ∉ line.toList →
      lines (withLine text i line) = (lines text).set i line ∧
      ((r.lineFindings file (withLine text i line)).filter fun f => f.lineNumber ≠ i + 1) =
        ((r.lineFindings file text).filter fun f => f.lineNumber ≠ i + 1) ∧
      ((r.lineFindings file (withLine text i line)).filter fun f => f.lineNumber = i + 1) =
        (r.lineFinding? file (i + 1) line).toList := by
  refine ⟨lineFindings_append r file, lineFindings_increasing r file, ?_⟩
  intro text i line hi hl
  exact ⟨lines_withLine hl text i, lineFindings_withLine r file hi hl⟩

/-- Quotes each line that is not empty, and names the file. -/
def quoting : Rule where
  id := "901"
  summary := "Line"
  matchLine file line :=
    if line = "" then .clean else .flaggedWith (file.path.text ++ ": " ++ line)

/-- Once the second line is empty, the third one is still reported, and under its old number. -/
theorem lineFindings_by_line_quoting :
    1 < (lines "a\nb\nc").length ∧ '\n' ∉ "".toList ∧
      lines (withLine "a\nb\nc" 1 "") = ["a", "", "c"] ∧
      ((quoting.lineFindings webState (withLine "a\nb\nc" 1 "")).filter
        fun f => f.lineNumber ≠ 2).map (fun f => (f.lineNumber, f.message)) =
          [(1, "web.sls: a"), (3, "web.sls: c")] ∧
      ((quoting.lineFindings webState (withLine "a\nb\nc" 1 "")).filter
        fun f => f.lineNumber = 2) = [] := by
  have hi : 1 < (lines "a\nb\nc").length := by decide +kernel
  have hl : '\n' ∉ "".toList := by decide +kernel
  obtain ⟨hlines, hothers, hat⟩ :=
    (lineFindings_by_line quoting webState).2.2 "a\nb\nc" 1 "" hi hl
  refine ⟨hi, hl, ?_, ?_, hat⟩
  · rw [hlines]
    decide +kernel
  · rw [hothers]
    decide +kernel

end Rule

end StateLint
