import StateLint.Proofs.FindingOrigin
import StateLint.Proofs.RegistryGrowth
import StateLint.Proofs.RuleSelection

/-! # Reports of fewer rules

When fewer rules are run, the report loses the findings of the others and nothing else changes:
which files are checked does not depend on the rules, and a stable sort keeps what is left in its
order. So a rule that is added disturbs no finding of the others, and picking rules by keys and
skipping them by the same keys divide a report in two. -/
namespace StateLint

/-- All findings of a rule stay or none. -/
theorem Rule.findings_filter (r : Rule) (file : StateFile) (text : String) (p : Rule → Bool) :
    (r.findings file text).filter (fun f => p f.rule) =
      if p r then r.findings file text else [] := by
  split
  · next hp =>
    rw [List.filter_eq_self]
    intro f hf
    rw [(mem_findings hf).2]
    exact hp
  · next hp =>
    rw [List.filter_eq_nil_iff]
    intro f hf
    rw [(mem_findings hf).2]
    exact hp

namespace Registry

theorem findings_of_filter (rules : List Rule) (file : StateFile) (text : String) (p : Rule → Bool) :
    (rules.filter p).flatMap (fun rule => rule.findings file text) =
      (rules.flatMap fun rule => rule.findings file text).filter fun f => p f.rule := by
  induction rules with
  | nil => rfl
  | cons rule rules ih =>
    rw [List.flatMap_cons, List.filter_append, Rule.findings_filter, ← ih]
    by_cases hp : p rule
    · simp [hp]
    · simp [hp]

/-- If the rules that are run are those of another registry that fulfil `p`, so are the findings. -/
theorem run_of_filter {registry registry' : Registry} {fs : FileSystem} {file : StateFile}
    {tags tags' skipList skipList' : List String} {p : Rule → Bool}
    (h : registry'.rules.filter (registry'.runs file.path tags' skipList') =
      (registry.rules.filter (registry.runs file.path tags skipList)).filter p) :
    registry'.run fs file tags' skipList' =
      (registry.run fs file tags skipList).filter fun f => p f.rule := by
  unfold run
  split
  · rfl
  · rw [h, findings_of_filter]

end Registry

namespace Lint

variable {registry registry' : Registry} {config config' : Config} {fs : FileSystem}
  {inputs : List Path}

/-- Which inputs count depends on what is excluded, and on no rule. -/
theorem counted_congr (h : config'.excludePaths = config.excludePaths) :
    counted config' fs inputs = counted config fs inputs := by
  have ha : ∀ p, Admitted config' fs p ↔ Admitted config fs p := by
    intro p
    unfold Admitted Config.isExcluded
    rw [h]
  unfold counted
  congr 1
  apply List.filter_congr
  intro e _
  rw [decide_eq_decide]
  simp only [Counts, ha]

theorem run_of_filter {p : Rule → Bool} (he : config'.excludePaths = config.excludePaths)
    (h : ∀ file, registry'.rules.filter (registry'.runs file config'.tags config'.skipList) =
      (registry.rules.filter (registry.runs file config.tags config.skipList)).filter p) :
    (run registry' config' fs inputs).findings =
      (run registry config fs inputs).findings.filter fun f => p f.rule := by
  have hc : contribution registry' config' fs =
      fun input => (contribution registry config fs input).filter fun f => p f.rule := by
    funext input
    exact Registry.run_of_filter (h (StateFile.ofInput fs input).path)
  rw [run_eq, run_eq, counted_congr he, hc, ← List.filter_flatMap, Finding.sort_filter]

theorem run_sorted (registry : Registry) (config : Config) (fs : FileSystem) (inputs : List Path) :
    Finding.Sorted (run registry config fs inputs).findings := by
  rw [run_eq]
  exact Finding.sort_sorted _

/-- In a report the id tells which rule it was. -/
theorem rule_eq_of_id_eq (hn : registry.ids.Nodup) {f g : Finding}
    (hf : f ∈ (run registry config fs inputs).findings)
    (hg : g ∈ (run registry config fs inputs).findings) (h : f.rule.id = g.rule.id) :
    f.rule = g.rule := by
  obtain ⟨_, _, hf⟩ := mem_run_findings.mp hf
  obtain ⟨_, _, hg⟩ := mem_run_findings.mp hg
  exact List.inj_on_of_nodup_map hn (mem_contribution hf).2.1 (mem_contribution hg).2.1 h

end Lint

namespace Registry

/-- The rules of a registry, registered anew with one more at place `i`. -/
def withRuleAt (r : Registry) (i : Nat) (rule : Rule) : Registry :=
  ((empty r.config).extend (r.rules.take i ++ rule :: r.rules.drop i)).2

theorem withRuleAt_eq {r : Registry} (hr : r.ids.Nodup) {rule : Rule} (hn : rule.id ∉ r.ids)
    (i : Nat) :
    r.withRuleAt i rule = ⟨r.config, r.rules.take i ++ rule :: r.rules.drop i⟩ := by
  have hp : (r.rules.take i ++ rule :: r.rules.drop i).Perm (rule :: r.rules) := by
    refine List.perm_middle.trans ?_
    rw [List.take_append_drop]
  have hids : ((r.rules.take i ++ rule :: r.rules.drop i).map Rule.id).Nodup := by
    rw [(hp.map Rule.id).nodup_iff, List.map_cons, List.nodup_cons]
    exact ⟨hn, hr⟩
  exact extend_of_nodup hids

/-- Without the rule that was added, the rules are the ones from before. -/
theorem filter_withRuleAt {r : Registry} {rule : Rule} (hn : rule.id ∉ r.ids) (i : Nat) :
    (r.rules.take i ++ rule :: r.rules.drop i).filter (fun other => other.id ≠ rule.id) =
      r.rules := by
  have hne : ∀ other ∈ r.rules, other.id ≠ rule.id := by
    intro other ho he
    exact hn (he ▸ List.mem_map_of_mem ho)
  rw [List.filter_append, List.filter_cons_of_neg (by simp), ← List.filter_append,
    List.take_append_drop, List.filter_eq_self]
  intro other ho
  exact decide_eq_true (hne other ho)

end Registry

/-- A rule with an id of its own may be registered anywhere among the others: the report without its
findings is the report from before. -/
theorem Lint.run_undisturbed_by_added_rule {registry : Registry} (hr : Registry.Reachable registry)
    {rule : Rule} (hn : registry.has rule.id = false) (i : Nat) (config : Config) (fs : FileSystem)
    (inputs : List Path) :
    (registry.withRuleAt i rule).rules =
        registry.rules.take i ++ rule :: registry.rules.drop i ∧
      (run (registry.withRuleAt i rule) config fs inputs).findings.filter
          (fun f => f.rule.id ≠ rule.id) =
        (run registry config fs inputs).findings := by
  have hid : rule.id ∉ registry.ids := by
    intro hm
    rw [Registry.has_iff.mpr hm] at hn
    cases hn
  have he := Registry.withRuleAt_eq (Registry.reachable_ids_nodup hr) hid i
  constructor
  · rw [he]
  · symm
    apply run_of_filter (p := fun other => decide (other.id ≠ rule.id)) rfl
    intro file
    rw [he, List.filter_comm, Registry.filter_withRuleAt hid]
    rfl

/-- A third rule is put between two others, and fires. -/
theorem Lint.run_undisturbed_by_added_rule_web :
    let registry := ((Registry.empty .default).extend [Builtin.tabs, Builtin.longLines 160]).2
    Registry.Reachable registry ∧ registry.has Builtin.trailingBlanks.id = false ∧
      (run (registry.withRuleAt 1 Builtin.trailingBlanks) .default webFiles [⟨"web"⟩]).findings.filter
          (fun f => f.rule.id ≠ Builtin.trailingBlanks.id) =
        (run registry .default webFiles [⟨"web"⟩]).findings ∧
      (run (registry.withRuleAt 1 Builtin.trailingBlanks) .default webFiles [⟨"web"⟩]).size = 2 ∧
      (run registry .default webFiles [⟨"web"⟩]).size = 1 := by
  intro registry
  have hr : Registry.Reachable registry := ⟨.default, .single (.extend _ _)⟩
  have hn : registry.has Builtin.trailingBlanks.id = false := by decide +kernel
  refine ⟨hr, hn,
    (run_undisturbed_by_added_rule hr hn 1 .default webFiles [⟨"web"⟩]).2, ?_, ?_⟩
  · rw [run_size]
    decide +kernel
  · rw [run_size]
    decide +kernel

/-- The same configuration with other filters. -/
def Config.withFilters (config : Config) (tags skipList : List String) : Config :=
  { config with tags := tags, skipList := skipList }

namespace Registry

variable {registry : Registry} {file : Path} {keys skipList : List String} {rule : Rule}

theorem runs_of_tags (hk : keys ≠ []) :
    registry.runs file keys skipList rule =
      (hasKeyIn rule keys && registry.runs file [] skipList rule) := by
  have he : keys.isEmpty = false := by simpa using hk
  simp [runs, isSelected, he, Bool.and_assoc]

theorem hasKeyIn_union :
    hasKeyIn rule (Keys.ofList (skipList ++ keys)) =
      (hasKeyIn rule skipList || hasKeyIn rule keys) := by
  rw [Bool.eq_iff_iff, Bool.or_eq_true]
  simp only [hasKeyIn_iff, Keys.mem_ofList, List.mem_append, and_or_left, exists_or]

theorem runs_of_skips :
    registry.runs file [] (Keys.ofList (skipList ++ keys)) rule =
      (!hasKeyIn rule keys && registry.runs file [] skipList rule) := by
  simp only [runs, hasKeyIn_union, Bool.not_or]
  cases hasKeyIn rule keys <;> simp

end Registry

namespace Lint

variable {registry : Registry} {config : Config} {fs : FileSystem} {inputs : List Path}
  {keys skipList : List String}

/-- To pick rules by some keys keeps the findings of the rules that go by one of them. -/
theorem run_of_tags (hk : keys ≠ []) :
    (run registry (config.withFilters keys skipList) fs inputs).findings =
      (run registry (config.withFilters [] skipList) fs inputs).findings.filter fun f =>
        Registry.hasKeyIn f.rule keys := by
  refine run_of_filter (p := fun rule => Registry.hasKeyIn rule keys) ?_ ?_
  · rfl
  · intro file
    rw [List.filter_filter]
    exact List.filter_congr fun rule _ => Registry.runs_of_tags hk

/-- To skip rules by the same keys keeps the other findings. -/
theorem run_of_skips :
    (run registry (config.withFilters [] (Keys.ofList (skipList ++ keys))) fs inputs).findings =
      (run registry (config.withFilters [] skipList) fs inputs).findings.filter fun f =>
        !Registry.hasKeyIn f.rule keys := by
  refine run_of_filter (p := fun rule => !Registry.hasKeyIn rule keys) ?_ ?_
  · rfl
  · intro file
    rw [List.filter_filter]
    exact List.filter_congr fun rule _ => Registry.runs_of_skips

/-- Picking rules by some keys and skipping them by the same keys divide a report: no rule is in both
parts, and the one stable sort of the parts together is the report. -/
theorem run_divided_by_keys (hr : Registry.Reachable registry) (config : Config) (fs : FileSystem)
    (inputs : List Path) (skipList keys : List String) (hk : keys ≠ []) :
    let picked := run registry (config.withFilters keys skipList) fs inputs
    let others := run registry (config.withFilters [] (Keys.ofList (skipList ++ keys))) fs inputs
    let all := run registry (config.withFilters [] skipList) fs inputs
    (∀ f ∈ picked.findings, ∀ g ∈ others.findings, f.rule.id ≠ g.rule.id) ∧
      ∀ l, Finding.StableSort (picked.findings ++ others.findings) l ↔ l = all.findings := by
  intro picked others all
  have hn := Registry.reachable_ids_nodup hr
  have hp : picked.findings = all.findings.filter fun f => Registry.hasKeyIn f.rule keys :=
    run_of_tags hk
  have ho : others.findings = all.findings.filter fun f => !Registry.hasKeyIn f.rule keys :=
    run_of_skips
  constructor
  · intro f hf g hg hid
    rw [hp] at hf
    rw [ho] at hg
    obtain ⟨hf, hfk⟩ := List.mem_filter.mp hf
    obtain ⟨hg, hgk⟩ := List.mem_filter.mp hg
    rw [rule_eq_of_id_eq hn hf hg hid] at hfk
    simp [hfk] at hgk
  · -- Findings at one place have one id, hence one rule, and stand on one side.
    have ha : Finding.Agree (picked.findings ++ others.findings) all.findings := by
      rw [hp, ho]
      apply Finding.Agree.filter_append_filter_not
      intro f hf g hg hfg
      have hid : f.rule.id = g.rule.id := congrArg (fun place => place.2.2) hfg
      rw [rule_eq_of_id_eq hn hf hg hid]
    have hs : Finding.sort (picked.findings ++ others.findings) = all.findings :=
      ((Finding.sort_agree _).trans ha).eq_of_sorted (Finding.sort_sorted _) (run_sorted ..)
    intro l
    rw [Finding.stableSort_iff, hs]

/-- A tab and a blank at the end of its line fall on different sides. -/
theorem run_divided_by_keys_web :
    let registry := ((Registry.empty .default).extend Builtin.rules).2
    let picked := run registry (Config.default.withFilters ["203"] ["204"]) webFiles [⟨"web"⟩]
    let others := run registry
      (Config.default.withFilters [] (Keys.ofList (["204"] ++ ["203"]))) webFiles [⟨"web"⟩]
    let all := run registry (Config.default.withFilters [] ["204"]) webFiles [⟨"web"⟩]
    Registry.Reachable registry ∧ picked.size = 1 ∧ others.size = 1 ∧
      Finding.StableSort (picked.findings ++ others.findings) all.findings := by
  intro registry picked others all
  have hr : Registry.Reachable registry := ⟨.default, .single (.extend _ _)⟩
  have hs := (run_divided_by_keys hr .default webFiles [⟨"web"⟩] ["204"] ["203"] (by decide)).2
  refine ⟨hr, ?_, ?_, (hs _).mpr rfl⟩
  · rw [run_size]
    decide +kernel
  · rw [run_size]
    decide +kernel

end Lint

end StateLint
