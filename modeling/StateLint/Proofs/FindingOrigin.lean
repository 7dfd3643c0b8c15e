import StateLint.Proofs.CountedInputs

/-! # Where a finding comes from

A finding in a report was made by a registered rule in the text of a file that was read: either in
one line of that text, or in the text as a whole. -/
namespace StateLint

namespace Rule

variable {r : Rule} {file : StateFile} {text : String} {f : Finding}

/-- What the rule says about a line of a file, wherever it stands: nothing, or that it fires, with or
without a message of its own. -/
def lineReport? (r : Rule) (file : StateFile) (line : String) : Option (Option String) :=
  if isComment line || (SkipDirective.skippedIds line).contains r.id then none
  else
    match r.matchLine file line with
    | .clean => none
    | .flagged => some none
    | .flaggedWith message => some (some message)

theorem lineFinding?_eq (r : Rule) (file : StateFile) (n : Nat) (line : String) :
    r.lineFinding? file n line = (r.lineReport? file line).map (r.finding file.path n line) := by
  unfold lineFinding? lineReport?
  split
  · rfl
  · cases r.matchLine file line with
    | clean => rfl
    | flagged => rfl
    | flaggedWith message => rfl

theorem lineFinding?_eq_some {n : Nat} {line : String} (h : r.lineFinding? file n line = some f) :
    f.lineNumber = n ∧ f.line = line ∧ f.file = file.path ∧ f.rule = r := by
  rw [lineFinding?_eq] at h
  obtain ⟨message, -, rfl⟩ := Option.map_eq_some_iff.mp h
  exact ⟨rfl, rfl, rfl, rfl⟩

theorem mem_lineFindings (h : f ∈ r.lineFindings file text) :
    ∃ i line, (lines text)[i]? = some line ∧ r.lineFinding? file (i + 1) line = some f := by
  obtain ⟨⟨line, n⟩, hm, hf⟩ := List.mem_filterMap.mp h
  obtain ⟨hn, hi⟩ := List.mem_zipIdx_iff_le_and_getElem?_sub.mp hm
  refine ⟨n - 1, line, hi, ?_⟩
  rw [Nat.sub_add_cancel hn]
  exact hf

theorem mem_textFindings (h : f ∈ r.textFindings file text) :
    ∃ m ∈ r.matchText file text, f = r.finding file.path m.lineNumber m.line m.message := by
  obtain ⟨m, hm, rfl⟩ := List.mem_map.mp h
  exact ⟨m, hm, rfl⟩

/-- The rule looks at single lines, and never finds anything in a text as a whole. -/
def IsByLine (r : Rule) : Prop := ∀ file text, r.matchText file text = []

theorem textFindings_of_byLine (h : r.IsByLine) : r.textFindings file text = [] := by
  rw [textFindings, h file text, List.map_nil]

theorem mem_findings (h : f ∈ r.findings file text) : f.file = file.path ∧ f.rule = r := by
  rcases List.mem_append.mp h with h | h
  · obtain ⟨i, line, _, hf⟩ := mem_lineFindings h
    exact (lineFinding?_eq_some hf).2.2
  · obtain ⟨m, _, rfl⟩ := mem_textFindings h
    exact ⟨rfl, rfl⟩

end Rule

namespace Registry

theorem mem_run {registry : Registry} {fs : FileSystem} {file : StateFile}
    {tags skipList : List String} {f : Finding} :
    f ∈ registry.run fs file tags skipList ↔ ∃ text, fs.read file.path = .ok text ∧
      ∃ rule ∈ registry.rules, registry.runs file.path tags skipList rule ∧
        f ∈ rule.findings file text := by
  unfold run
  cases hr : fs.read file.path with
  | error cause => simp
  | ok text => simp [and_assoc]

end Registry

namespace Lint

variable {registry : Registry} {config : Config} {fs : FileSystem} {inputs : List Path}
  {f : Finding}

theorem mem_contribution {p : Path} (h : f ∈ contribution registry config fs p) :
    f.file = fileOf fs p ∧ f.rule ∈ registry.rules ∧
      ∃ text, fs.read f.file = .ok text ∧
        f ∈ f.rule.findings (StateFile.ofInput fs p) text := by
  obtain ⟨text, ht, rule, hr, _, hf⟩ := Registry.mem_run.mp h
  obtain ⟨hfile, rfl⟩ := Rule.mem_findings hf
  refine ⟨hfile, hr, text, ?_, hf⟩
  rw [hfile]
  exact ht

theorem mem_run_findings : f ∈ (run registry config fs inputs).findings ↔
    ∃ p ∈ counted config fs inputs, f ∈ contribution registry config fs p := by
  rw [run_eq, (Finding.sort_perm _).mem_iff, List.mem_flatMap]

end Lint

end StateLint
