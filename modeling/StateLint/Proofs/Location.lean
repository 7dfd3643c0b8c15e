import StateLint.Proofs.MatchSpans
import StateLint.Proofs.ProvidedRules
import StateLint.Proofs.TextPieces

/-! # Findings are where they say

Line `n` of a text is meant in two ways: as the `n`-th piece between newlines, and as what stands
around an offset with `n - 1` newlines before it. Both are the same line, also at a newline and at
the end of the text. -/
namespace StateLint

theorem getElem?_lines (text : String) (i : Nat) :
    (lines text)[i]? = ((Text.split '\n' text.toList)[i]?).map String.ofList := by
  simp [lines]

/-- The finding has the number of a line of the text, and that line. -/
structure Finding.LocatedIn (f : Finding) (text : String) : Prop where
  one_le : 1 ≤ f.lineNumber
  le_length : f.lineNumber ≤ (lines text).length
  line_eq : (lines text)[f.lineNumber - 1]? = some f.line
  no_newline : '\n' ∉ f.line.toList

theorem not_mem_of_mem_lines {text line : String} (h : line ∈ lines text) :
    '\n' ∉ line.toList := by
  obtain ⟨piece, hp, rfl⟩ := List.mem_map.mp h
  simpa using Text.not_mem_of_mem_split hp

theorem Finding.locatedIn_of_getElem? {f : Finding} {text : String} {i : Nat}
    (hn : f.lineNumber = i + 1) (hl : (lines text)[i]? = some f.line) : f.LocatedIn text := by
  obtain ⟨hi, _⟩ := List.getElem?_eq_some_iff.mp hl
  refine ⟨by omega, by omega, ?_, not_mem_of_mem_lines (List.mem_of_getElem? hl)⟩
  rw [hn, Nat.add_sub_cancel]
  exact hl

namespace PatternRule

variable {p : PatternRule} {file : StateFile} {text : String}

/-- The line around an offset is the piece with its number. -/
theorem getElem?_lines_lineAt (text : String) (offset : Nat) :
    (lines text)[(text.toList.take offset).count '\n']? =
      some (String.ofList (lineAt text.toList offset).2) := by
  have h := Text.getElem?_split_append '\n' (text.toList.take offset) (text.toList.drop offset)
  rw [List.take_append_drop] at h
  rw [getElem?_lines, h]
  rfl

theorem matchText_of_text_scope (h : p.scope = .text) (text : String) :
    p.matchText text = (p.regex.spans text).map fun span =>
      ⟨(lineAt text.toList span.start).1, String.ofList (lineAt text.toList span.start).2,
        p.message⟩ := by
  simp only [matchText, h]

theorem getElem?_lines_of_mem_matchText (hs : p.scope = .text) {m : TextMatch}
    (h : m ∈ p.matchText text) : ∃ i, m.lineNumber = i + 1 ∧ (lines text)[i]? = some m.line := by
  rw [matchText_of_text_scope hs] at h
  obtain ⟨span, -, rfl⟩ := List.mem_map.mp h
  exact ⟨_, rfl, getElem?_lines_lineAt text span.start⟩

theorem findings_of_text_scope (h : p.scope = .text) :
    p.toRule.findings file text = (p.regex.spans text).map fun span =>
      p.toRule.finding file.path (lineAt text.toList span.start).1
        (String.ofList (lineAt text.toList span.start).2) p.message := by
  have hline : p.toRule.lineFindings file text = [] := by
    simp [Rule.lineFindings, Rule.lineFinding?, toRule, matchLine, h]
  have htext : p.toRule.matchText file text = _ := matchText_of_text_scope h text
  rw [Rule.findings, hline, List.nil_append, Rule.textFindings, htext, List.map_map]
  rfl

theorem lineNumbers_of_text_scope (h : p.scope = .text) :
    (p.toRule.findings file text).map Finding.lineNumber =
      (p.regex.spans text).map fun span => 1 + (text.toList.take span.start).count '\n' := by
  rw [findings_of_text_scope h, List.map_map]
  apply List.map_congr_left
  intro span _
  exact Nat.add_comm _ _

theorem lineNumbers_sorted_of_text_scope (h : p.scope = .text) :
    ((p.toRule.findings file text).map Finding.lineNumber).Pairwise (· ≤ ·) := by
  rw [lineNumbers_of_text_scope h, List.pairwise_map]
  apply (Regex.spans_starts_sorted p.regex text).imp
  intro m m' hle
  exact Nat.add_le_add_left ((List.take_prefix_take_left hle).sublist.count_le '\n') 1

end PatternRule

theorem Rule.Provided.locatedIn {r : Rule} (hr : r.Provided) {file : StateFile} {text : String}
    {f : Finding} (h : f ∈ r.findings file text) : f.LocatedIn text := by
  rcases List.mem_append.mp h with h | h
  · obtain ⟨i, line, hl, hf⟩ := mem_lineFindings h
    obtain ⟨hn, hline, _⟩ := lineFinding?_eq_some hf
    rw [← hline] at hl
    exact Finding.locatedIn_of_getElem? hn hl
  · obtain ⟨m, hm, rfl⟩ := mem_textFindings h
    rcases hr.byLine_or_text_scope with hb | ⟨p, hs, hp⟩
    · rw [hb] at hm
      cases hm
    · rw [hp.text] at hm
      obtain ⟨i, hn, hl⟩ := PatternRule.getElem?_lines_of_mem_matchText hs hm
      exact Finding.locatedIn_of_getElem? hn hl

/-- Every finding of a report by the rules that the linter provides is one that a registered rule
makes in the file, on a line that the file has. Those of a pattern for whole texts are in the order
of its matches, each at the line on which the match begins. -/
theorem Lint.run_findings_located (registry : Registry)
    (hr : ∀ rule ∈ registry.rules, rule.Provided) (config : Config) (fs : FileSystem)
    (inputs : List Path) :
    (∀ f ∈ (run registry config fs inputs).findings, f.rule ∈ registry.rules ∧
      ∃ (file : StateFile) (text : String), file.path = f.file ∧ fs.read f.file = .ok text ∧
        f ∈ f.rule.findings file text ∧ f.LocatedIn text) ∧
    (∀ p : PatternRule, p.toRule ∈ registry.rules → p.scope = .text →
      ∀ (file : StateFile) (text : String),
        (∀ span ∈ p.regex.spans text, span.start ≤ text.toList.length) ∧
        (p.toRule.findings file text).map Finding.lineNumber =
          (p.regex.spans text).map (fun span => 1 + (text.toList.take span.start).count '\n') ∧
        ((p.toRule.findings file text).map Finding.lineNumber).Pairwise (· ≤ ·)) := by
  constructor
  · intro f hf
    obtain ⟨input, _, hf⟩ := mem_run_findings.mp hf
    obtain ⟨hfile, hm, text, ht, hf⟩ := mem_contribution hf
    exact ⟨hm, _, text, hfile.symm, ht, hf, (hr f.rule hm).locatedIn hf⟩
  · intro p _ hs file text
    refine ⟨?_, PatternRule.lineNumbers_of_text_scope hs,
      PatternRule.lineNumbers_sorted_of_text_scope hs⟩
    intro span hm
    have hw := Regex.spans_within p.regex text span hm
    exact Nat.le_trans hw.start_le_stop hw.stop_le_hi

/-- Fires at each newline, and where the text ends. -/
def breakRule : PatternRule where
  id := "901"
  summary := "Break"
  description := ""
  severity := .medium
  tags := []
  versionAdded := none
  regex := ⟨"\\n|\\z", .ofExpr (.alt (.chars (.ofChar '\n')) (.look .endText))⟩
  scope := .text
  message := none
  hidesExpressions := false

/-- A match that begins with a newline, and an empty one behind the last character. -/
theorem Lint.run_findings_located_at_breaks :
    (∀ rule ∈ [breakRule.toRule], rule.Provided) ∧
    (∀ f ∈ (run ⟨.default, [breakRule.toRule]⟩ .default webFiles [⟨"web"⟩]).findings,
      f.rule ∈ [breakRule.toRule] ∧ ∃ (file : StateFile) (text : String), file.path = f.file ∧
        webFiles.read f.file = .ok text ∧ f ∈ f.rule.findings file text ∧ f.LocatedIn text) ∧
    (run ⟨.default, [breakRule.toRule]⟩ .default webFiles [⟨"web"⟩]).size = 1 ∧
    (breakRule.toRule.findings ⟨⟨"web/init.sls"⟩, .init⟩ "a\nb").map Finding.lineNumber = [1, 2] := by
  have hr : ∀ rule ∈ [breakRule.toRule], rule.Provided := by
    intro rule hm
    obtain rfl := List.mem_singleton.mp hm
    exact .pattern breakRule ⟨rfl, rfl⟩
  obtain ⟨hreport, htext⟩ :=
    run_findings_located ⟨.default, [breakRule.toRule]⟩ hr .default webFiles [⟨"web"⟩]
  obtain ⟨_, hn, _⟩ := htext breakRule (by simp) rfl ⟨⟨"web/init.sls"⟩, .init⟩ "a\nb"
  refine ⟨hr, hreport, ?_, ?_⟩
  · rw [run_size]
    decide +kernel
  · rw [hn]
    decide +kernel

end StateLint
