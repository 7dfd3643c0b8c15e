import StateLint.FileSystem.Tree
import StateLint.Proofs.FindingOrigin
import StateLint.Proofs.RegistryGrowth
import StateLint.Rule.Builtin

/-! # A line is reported once

A rule that looks at single lines fires at most once on a line, no two rules share an id, and a file
is checked under one spelling. Together: such a finding is never in a report twice. -/
namespace StateLint

/-- What can be read has a canonical path. -/
def FileSystem.ReadableCanonical (fs : FileSystem) : Prop :=
  ∀ p text, fs.read p = .ok text → (fs.canonical? p).isSome

theorem FileTree.view_readableCanonical (t : FileTree) : t.view.ReadableCanonical := by
  intro p text h
  change t.read p = .ok text at h
  change (t.canonical? p).isSome
  unfold FileTree.read at h
  unfold FileTree.canonical?
  cases hf : t.find p with
  | error e => simp [hf] at h
  | ok found => rfl

theorem FileSystem.key_eq_of_canonical_eq {fs : FileSystem} {p q : Path}
    (hp : (fs.canonical? p).isSome) (h : fs.canonical? p = fs.canonical? q) :
    fs.key p = fs.key q := by
  obtain ⟨real, hr⟩ := Option.isSome_iff_exists.mp hp
  rw [hr] at h
  simp [key, keyPath, hr, ← h]

/-- Two findings say the same: the same line of one file, and a rule by line with the same id. -/
structure Finding.Repeats (fs : FileSystem) (f g : Finding) : Prop where
  byLine : f.rule.IsByLine
  byLine' : g.rule.IsByLine
  file : fs.canonical? f.file = fs.canonical? g.file
  lineNumber : f.lineNumber = g.lineNumber
  id : f.rule.id = g.rule.id

theorem Finding.Repeats.symm {fs : FileSystem} {f g : Finding} (h : f.Repeats fs g) :
    g.Repeats fs f :=
  ⟨h.byLine', h.byLine, h.file.symm, h.lineNumber.symm, h.id.symm⟩

namespace Rule

variable {r : Rule} {file : StateFile} {text : String}

theorem lineFindings_increasing (r : Rule) (file : StateFile) (text : String) :
    (r.lineFindings file text).Pairwise fun f g => f.lineNumber < g.lineNumber := by
  have hz : ((lines text).zipIdx 1).Pairwise fun a b => a.2 < b.2 := by
    rw [← List.pairwise_map (f := Prod.snd) (R := (· < ·)), List.zipIdx_map_snd]
    exact List.pairwise_lt_range'
  rw [lineFindings, List.pairwise_filterMap]
  apply hz.imp
  intro a b hab f hf g hg
  rw [(lineFinding?_eq_some hf).1, (lineFinding?_eq_some hg).1]
  exact hab

/-- A rule by line fires at most once on each line. -/
theorem findings_not_repeats (fs : FileSystem) (r : Rule) (file : StateFile) (text : String) :
    (r.findings file text).Pairwise fun f g => ¬ f.Repeats fs g := by
  by_cases h : r.IsByLine
  · rw [findings, textFindings_of_byLine h, List.append_nil]
    apply (lineFindings_increasing r file text).imp
    intro f g hlt hr
    exact Nat.ne_of_lt hlt hr.lineNumber
  · apply List.pairwise_of_forall_mem_list
    intro f hf g _ hr
    have := hr.byLine
    rw [(mem_findings hf).2] at this
    exact h this

end Rule

namespace Registry

/-- Rules with different ids say different things about a file. -/
theorem run_not_repeats {registry : Registry} (h : registry.ids.Nodup) (fs : FileSystem)
    (file : StateFile) (tags skipList : List String) :
    (registry.run fs file tags skipList).Pairwise fun f g => ¬ f.Repeats fs g := by
  unfold run
  split
  · exact .nil
  · next text _ =>
    rw [List.pairwise_flatMap]
    refine ⟨fun rule _ => Rule.findings_not_repeats fs rule file text, ?_⟩
    have hid : registry.rules.Pairwise fun a b => a.id ≠ b.id := List.pairwise_map.mp h
    apply (hid.filter _).imp
    intro a b hab f hf g hg hr
    apply hab
    rw [← (Rule.mem_findings hf).2, ← (Rule.mem_findings hg).2]
    exact hr.id

end Registry

namespace Lint

/-- Findings behind two inputs that count are in different files. -/
theorem contributions_not_repeat {registry : Registry} {config : Config} {fs : FileSystem}
    (hfs : fs.ReadableCanonical) {p q : Path} (hk : keyOf fs p ≠ keyOf fs q) {f g : Finding}
    (hf : f ∈ contribution registry config fs p) (hg : g ∈ contribution registry config fs q) :
    ¬ f.Repeats fs g := by
  intro hr
  obtain ⟨hfp, _, text, ht, _⟩ := mem_contribution hf
  obtain ⟨hgq, _⟩ := mem_contribution hg
  have he := FileSystem.key_eq_of_canonical_eq (hfs f.file text ht) hr.file
  rw [hfp, hgq] at he
  exact hk he

theorem run_not_repeats {registry : Registry} (h : registry.ids.Nodup) (config : Config)
    {fs : FileSystem} (hfs : fs.ReadableCanonical) (inputs : List Path) :
    (run registry config fs inputs).findings.Pairwise fun f g => ¬ f.Repeats fs g := by
  rw [run_eq, (Finding.sort_perm _).pairwise_iff fun hfg hr => hfg hr.symm, List.pairwise_flatMap]
  refine ⟨fun p _ => Registry.run_not_repeats h fs _ _ _, ?_⟩
  have hk : (counted config fs inputs).Pairwise fun p q => keyOf fs p ≠ keyOf fs q :=
    List.pairwise_map.mp (counted_keys_nodup inputs)
  apply hk.imp
  intro p q hpq f hf g hg
  exact contributions_not_repeat hfs hpq hf hg

/-- No two positions of a report hold findings that repeat each other. -/
theorem line_findings_reported_once {registry : Registry} (hr : Registry.Reachable registry)
    (config : Config) {fs : FileSystem} (hfs : fs.ReadableCanonical) (inputs : List Path) :
    ∀ (i j : Nat) (f g : Finding), (run registry config fs inputs).findings[i]? = some f →
      (run registry config fs inputs).findings[j]? = some g → f.Repeats fs g → i = j := by
  intro i j f g hi hj hrep
  have hp := run_not_repeats (Registry.reachable_ids_nodup hr) config hfs inputs
  obtain ⟨hil, rfl⟩ := List.getElem?_eq_some_iff.mp hi
  obtain ⟨hjl, rfl⟩ := List.getElem?_eq_some_iff.mp hj
  rcases Nat.lt_trichotomy i j with hij | hij | hij
  · exact (List.pairwise_iff_getElem.mp hp i j hil hjl hij hrep).elim
  · exact hij
  · exact (List.pairwise_iff_getElem.mp hp j i hjl hil hij hrep.symm).elim

/-- Two rules, one of which was registered twice. -/
def webRegistry : Registry :=
  ((Registry.empty .default).extend [Builtin.tabs, Builtin.trailingBlanks, Builtin.tabs]).2

/-- One file, four times. -/
def webInputs : List Path := [⟨"web"⟩, ⟨"./web/init.sls"⟩, ⟨"web/init.sls"⟩, ⟨"web"⟩]

theorem line_findings_reported_once_web :
    Registry.Reachable webRegistry ∧ webFiles.ReadableCanonical ∧
      (run webRegistry .default webFiles webInputs).size = 2 ∧
      ∀ (i j : Nat) (f g : Finding),
        (run webRegistry .default webFiles webInputs).findings[i]? = some f →
        (run webRegistry .default webFiles webInputs).findings[j]? = some g →
        f.Repeats webFiles g → i = j := by
  have hr : Registry.Reachable webRegistry := ⟨.default, .single (.extend _ _)⟩
  have hfs : webFiles.ReadableCanonical := by
    intro p text ht
    by_cases hp : p.text ∈ ["web/init.sls", "./web/init.sls"]
    · simp only [webFiles, if_pos hp, Option.isSome_some]
    · simp only [webFiles, if_neg hp] at ht
      cases ht
  refine ⟨hr, hfs, ?_, line_findings_reported_once hr .default hfs webInputs⟩
  rw [run_size]
  decide +kernel

end Lint

end StateLint
