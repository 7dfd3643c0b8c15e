import StateLint.Proofs.FindingOrigin
import StateLint.Proofs.RegistryBuild
import StateLint.Proofs.RuleDirectoryFaults
import StateLint.Rule.Pattern

/-! # Rules that the linter provides

A rule may look at the file that a text is from, and find in the text whatever it likes. The rules
that come with the linter and those of rule files do less: they look at texts only, and what they
find in a text as a whole are the matches of a pattern. A registry that is built for a configuration
has no other rules. -/
namespace StateLint

namespace Rule

variable {r s : Rule}

/-- The rules look for the same, whatever they are called. -/
structure FiresAs (r s : Rule) : Prop where
  line : r.matchLine = s.matchLine
  text : r.matchText = s.matchText

/-- The rule never fires, or looks for what a built-in rule or a rule of a file looks for. -/
inductive Provided (r : Rule) : Prop where
  | inert (h : r.FiresAs (.inert "" ""))
  | trailingBlanks (h : r.FiresAs Builtin.trailingBlanks)
  | tabs (h : r.FiresAs Builtin.tabs)
  | longLines (limit : Nat) (h : r.FiresAs (Builtin.longLines limit))
  | pattern (p : PatternRule) (h : r.FiresAs p.toRule)

theorem provided_of_mem_builtin (h : r ∈ Builtin.rules) : r.Provided := by
  simp only [Builtin.rules, List.mem_cons, List.not_mem_nil, or_false] at h
  rcases h with rfl | rfl | rfl
  · exact .trailingBlanks ⟨rfl, rfl⟩
  · exact .tabs ⟨rfl, rfl⟩
  · exact .longLines _ ⟨rfl, rfl⟩

theorem FiresAs.isByLine (h : r.FiresAs s) (hs : s.IsByLine) : r.IsByLine := by
  intro file text
  rw [h.text]
  exact hs file text

theorem isByLine_of_line_scope {p : PatternRule} (h : p.scope = .line) : p.toRule.IsByLine := by
  intro file text
  simp only [PatternRule.toRule, PatternRule.matchText, h]

/-- Only patterns for whole texts find anything in a text as a whole. -/
theorem Provided.byLine_or_text_scope (h : r.Provided) :
    r.IsByLine ∨ ∃ p : PatternRule, p.scope = .text ∧ r.FiresAs p.toRule := by
  cases h with
  | inert h => exact .inl (h.isByLine fun _ _ => rfl)
  | trailingBlanks h => exact .inl (h.isByLine fun _ _ => rfl)
  | tabs h => exact .inl (h.isByLine fun _ _ => rfl)
  | longLines limit h => exact .inl (h.isByLine fun _ _ => rfl)
  | pattern p h =>
    cases hs : p.scope with
    | line => exact .inl (h.isByLine (isByLine_of_line_scope hs))
    | text => exact .inr ⟨p, hs, h⟩

/-- The rule says the same about a text whatever file it is from. -/
structure IgnoresFile (r : Rule) : Prop where
  line : ∀ file file', r.matchLine file = r.matchLine file'
  text : ∀ file file', r.matchText file = r.matchText file'

theorem FiresAs.ignoresFile (h : r.FiresAs s) (hs : s.IgnoresFile) : r.IgnoresFile where
  line file file' := by rw [h.line, hs.line file file']
  text file file' := by rw [h.text, hs.text file file']

theorem Provided.ignoresFile (h : r.Provided) : r.IgnoresFile := by
  cases h with
  | inert h => exact h.ignoresFile ⟨fun _ _ => rfl, fun _ _ => rfl⟩
  | trailingBlanks h => exact h.ignoresFile ⟨fun _ _ => rfl, fun _ _ => rfl⟩
  | tabs h => exact h.ignoresFile ⟨fun _ _ => rfl, fun _ _ => rfl⟩
  | longLines limit h => exact h.ignoresFile ⟨fun _ _ => rfl, fun _ _ => rfl⟩
  | pattern p h => exact h.ignoresFile ⟨fun _ _ => rfl, fun _ _ => rfl⟩

end Rule

/-- The same finding in another file. -/
def Finding.moveTo (file : Path) (f : Finding) : Finding := { f with file := file }

namespace Rule.IgnoresFile

variable {r : Rule}

theorem lineFinding?_moveTo (h : r.IgnoresFile) (old file : StateFile) (n : Nat) (line : String) :
    r.lineFinding? file n line = (r.lineFinding? old n line).map (Finding.moveTo file.path) := by
  have hreport : r.lineReport? file line = r.lineReport? old line := by
    rw [lineReport?, lineReport?, h.line file old]
  rw [lineFinding?_eq, lineFinding?_eq, hreport, Option.map_map]
  rfl

/-- The file is only told in the findings. -/
theorem findings_moveTo (h : r.IgnoresFile) (old file : StateFile) (text : String) :
    r.findings file text = (r.findings old text).map (Finding.moveTo file.path) := by
  have hlines : r.lineFindings file text =
      (r.lineFindings old text).map (Finding.moveTo file.path) := by
    simp only [lineFindings, List.map_filterMap, h.lineFinding?_moveTo old file]
  have htext : r.textFindings file text =
      (r.textFindings old text).map (Finding.moveTo file.path) := by
    rw [textFindings, textFindings, h.text file old, List.map_map]
    rfl
  rw [findings, findings, List.map_append, hlines, htext]

theorem findings_congr (h : r.IgnoresFile) {old file : StateFile} (hp : old.path = file.path) :
    r.findings old = r.findings file := by
  funext text
  have hsame : ∀ f ∈ r.findings old text, f.moveTo file.path = f := by
    intro f hf
    rw [Finding.moveTo, ← hp, ← (mem_findings hf).1]
  rw [h.findings_moveTo old file, List.map_congr_left hsame, List.map_id']

end Rule.IgnoresFile

namespace RuleDirectory

variable {fs : FileSystem}

theorem provided_of_mem_rulesIn {file : Path} {rule : Rule} (h : rule ∈ rulesIn fs file) :
    rule.Provided := by
  unfold rulesIn at h
  split at h
  · cases h
  split at h
  · cases h
  · next rules hp =>
    unfold RuleFile.parse at hp
    split at hp
    · cases hp
    split at hp
    · cases hp
      obtain ⟨p, -, rfl⟩ := List.mem_map.mp h
      exact .pattern p ⟨rfl, rfl⟩
    · cases hp

theorem provided_of_load {dir : Path} {rules : List Rule} (h : load fs dir = .ok rules) :
    ∀ rule ∈ rules, rule.Provided := by
  have hd : fs.isDir dir = true := by
    by_contra hd
    rw [load, if_neg hd] at h
    cases h
  rcases load_cases hd with ⟨-, hok⟩ | ⟨_, _, _, _, -, -, -, herr⟩
  · obtain rfl := Except.ok.inj (hok.symm.trans h)
    intro rule hm
    obtain ⟨file, -, hm⟩ := List.mem_flatMap.mp hm
    exact provided_of_mem_rulesIn hm
  · cases herr.symm.trans h

end RuleDirectory

namespace Registry

variable {registry : Registry} {config : Config} {fs : FileSystem}

theorem provided_of_mem_candidates {rule : Rule} (h : rule ∈ candidates fs config) :
    rule.Provided := by
  rcases List.mem_append.mp h with h | h
  · obtain ⟨dir, -, h⟩ := List.mem_flatMap.mp h
    cases hl : RuleDirectory.load fs dir with
    | error cause => simp [offeredBy, Call.offered, hl] at h
    | ok rules =>
      rw [offeredBy_of_ok hl] at h
      exact RuleDirectory.provided_of_load hl rule h
  · split at h
    · exact Rule.provided_of_mem_builtin h
    · cases h

theorem provided_of_build (h : build fs config = .ok registry) :
    ∀ rule ∈ registry.rules, rule.Provided := by
  intro rule hm
  rw [(build_eq_ok h).2, empty_extend_rules] at hm
  exact provided_of_mem_candidates (mem_of_mem_firstsBy hm)

end Registry

end StateLint
