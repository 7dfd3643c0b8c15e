import StateLint.Proofs.FirstComers
import StateLint.Proofs.RegistryCalls
import StateLint.Proofs.RuleFilePaths
import StateLint.Registry.Build

/-! # The registry of a configuration

Within one directory a repeated id is an error, but between directories, and between a directory and
the built-in rules, the first rule with an id is taken and the others are told in the log. So a
registry is built from the first comers among the rules that its configuration asks for, and there
is one warning for each of the others. -/
namespace StateLint

namespace RuleDirectory

/-- A directory whose rules can be used. -/
def Loadable (fs : FileSystem) (dir : Path) : Prop := ∃ rules, load fs dir = .ok rules

theorem loadLog_warnings (fs : FileSystem) (dir : Path) :
    (loadLog fs dir).filter (·.level = .warn) = [] := by
  unfold loadLog
  split
  · simp [LogLine.debug]
  · rfl

end RuleDirectory

namespace Registry

open RuleDirectory (Loadable)

variable {r s : Registry} {fs : FileSystem} {dirs : List Path}

/-- What is told about a rule whose id is taken. -/
def repetition (rule : Rule) : LogLine :=
  .warn ("Rule " ++ rule.id ++ " is already registered, skipping duplicate")

theorem registerLog_eq (r : Registry) (rule : Rule) :
    r.registerLog rule = if rule.id ∈ r.ids then [repetition rule] else [] := by
  simp [registerLog, has_iff, repetition]

theorem extendLog_append (r : Registry) (rules more : List Rule) :
    r.extendLog (rules ++ more) = r.extendLog rules ++ (r.extend rules).2.extendLog more := by
  induction rules generalizing r with
  | nil => rfl
  | cons rule rules ih =>
    simp only [List.cons_append, extendLog, extend_cons, ih, List.append_assoc]

theorem extendLog_warnings (r : Registry) (rules : List Rule) :
    (r.extendLog rules).filter (·.level = .warn) = r.extendLog rules := by
  induction rules generalizing r with
  | nil => rfl
  | cons rule rules ih =>
    rw [extendLog, List.filter_append, ih, registerLog_eq]
    split
    · rfl
    · rfl

theorem extend_config (r : Registry) (rules : List Rule) :
    (r.extend rules).2.config = r.config := by
  induction rules generalizing r with
  | nil => rfl
  | cons rule rules ih =>
    rw [extend_cons, ih, register_eq]
    split
    · rfl
    · rfl

theorem empty_extend_rules (config : Config) (rules : List Rule) :
    ((empty config).extend rules).2.rules = firstsBy Rule.id rules := by
  induction rules using List.reverseRecOn with
  | nil => rfl
  | append_singleton rules rule ih =>
    -- An id is taken if and only if it was offered: the first comers have all ids.
    have hids : rule.id ∈ ((empty config).extend rules).2.ids ↔ rule.id ∈ rules.map Rule.id := by
      rw [ids, ih, mem_map_firstsBy]
    rw [extend_append, extend_cons, register_eq, firstsBy_concat, ← ih]
    by_cases hm : rule.id ∈ rules.map Rule.id
    · rw [if_pos (hids.mpr hm), if_pos hm, List.append_nil]
      rfl
    · rw [if_neg (mt hids.mp hm), if_neg hm]
      rfl

theorem empty_extendLog (config : Config) (rules : List Rule) :
    (empty config).extendLog rules = (latecomersBy Rule.id rules).map repetition := by
  induction rules using List.reverseRecOn with
  | nil => rfl
  | append_singleton rules rule ih =>
    have hids : rule.id ∈ ((empty config).extend rules).2.ids ↔ rule.id ∈ rules.map Rule.id := by
      rw [ids, empty_extend_rules, mem_map_firstsBy]
    rw [extendLog_append, ih, latecomersBy_concat, List.map_append, extendLog, extendLog,
      List.append_nil, registerLog_eq]
    by_cases hm : rule.id ∈ rules.map Rule.id
    · rw [if_pos (hids.mpr hm), if_pos hm]
      rfl
    · rw [if_neg (mt hids.mp hm), if_neg hm]
      rfl

/-- The rules that a directory offers, none if it cannot be loaded. -/
def offeredBy (fs : FileSystem) (dir : Path) : List Rule := (Call.load fs dir).offered

theorem offeredBy_of_ok {dir : Path} {rules : List Rule}
    (h : RuleDirectory.load fs dir = .ok rules) : offeredBy fs dir = rules := by
  simp only [offeredBy, Call.offered, h]

theorem loadDirectory_of_ok {dir : Path} {rules : List Rule}
    (h : RuleDirectory.load fs dir = .ok rules) : r.loadDirectory fs dir = .ok (r.extend rules) := by
  simp only [loadDirectory, h]

/-- Directories are loaded one after the other, up to the first that cannot be loaded. -/
theorem loadDirectories_cases (r : Registry) (fs : FileSystem) (dirs : List Path) :
    ((∀ dir ∈ dirs, Loadable fs dir) ∧
        r.loadDirectories fs dirs = .ok (r.extend (dirs.flatMap (offeredBy fs))).2) ∨
      ∃ before dir after cause, dirs = before ++ dir :: after ∧
        (∀ d ∈ before, Loadable fs d) ∧ RuleDirectory.load fs dir = .error cause ∧
        r.loadDirectories fs dirs = .error ⟨dir, cause⟩ := by
  induction dirs generalizing r with
  | nil => exact .inl ⟨by simp, rfl⟩
  | cons dir dirs ih =>
    cases hl : RuleDirectory.load fs dir with
    | error cause =>
      refine .inr ⟨[], dir, dirs, cause, rfl, by simp, hl, ?_⟩
      simp only [loadDirectories, loadDirectory, hl]
    | ok rules =>
      have hfirst : Loadable fs dir := ⟨rules, hl⟩
      have hstep : r.loadDirectories fs (dir :: dirs) = (r.extend rules).2.loadDirectories fs dirs := by
        simp only [loadDirectories, loadDirectory_of_ok hl]
      rcases ih (r.extend rules).2 with ⟨hall, hok⟩ | ⟨before, bad, after, cause, rfl, hb, hbad, he⟩
      · refine .inl ⟨List.forall_mem_cons.mpr ⟨hfirst, hall⟩, ?_⟩
        rw [hstep, hok, List.flatMap_cons, extend_append, offeredBy_of_ok hl]
      · exact .inr ⟨dir :: before, bad, after, cause, rfl, List.forall_mem_cons.mpr ⟨hfirst, hb⟩,
          hbad, hstep.trans he⟩

theorem loadDirectories_of_loadable (h : ∀ dir ∈ dirs, Loadable fs dir) (r : Registry) :
    r.loadDirectories fs dirs = .ok (r.extend (dirs.flatMap (offeredBy fs))).2 := by
  rcases loadDirectories_cases r fs dirs with ⟨-, hok⟩ | ⟨before, dir, after, _, rfl, -, hbad, -⟩
  · exact hok
  · obtain ⟨rules, hl⟩ := h dir (by simp)
    cases hbad.symm.trans hl

theorem loadDirectories_congr {fs' : FileSystem}
    (h : ∀ dir ∈ dirs, RuleDirectory.load fs' dir = RuleDirectory.load fs dir) (r : Registry) :
    r.loadDirectories fs' dirs = r.loadDirectories fs dirs := by
  induction dirs generalizing r with
  | nil => rfl
  | cons dir dirs ih =>
    obtain ⟨hdir, hrest⟩ := List.forall_mem_cons.mp h
    simp only [loadDirectories, loadDirectory, hdir, ih hrest]

theorem build_congr {fs' : FileSystem} {config : Config}
    (h : ∀ dir ∈ config.rulesDirs, RuleDirectory.load fs' dir = RuleDirectory.load fs dir) :
    build fs' config = build fs config := by
  unfold build
  rw [loadDirectories_congr h]

theorem loadDirectoriesLog_warnings (h : ∀ dir ∈ dirs, Loadable fs dir) (r : Registry) :
    (r.loadDirectoriesLog fs dirs).filter (·.level = .warn) =
      r.extendLog (dirs.flatMap (offeredBy fs)) := by
  induction dirs generalizing r with
  | nil => rfl
  | cons dir dirs ih =>
    obtain ⟨⟨rules, hl⟩, hrest⟩ := List.forall_mem_cons.mp h
    rw [List.flatMap_cons, extendLog_append, offeredBy_of_ok hl, ← ih hrest]
    simp only [loadDirectoriesLog, loadDirectoryLog, loadDirectory_of_ok hl, hl, List.filter_append,
      RuleDirectory.loadLog_warnings, List.nil_append]
    rw [List.filter_cons_of_neg (by simp [LogLine.debug]), extendLog_warnings]

/-- The rules that a configuration asks for: those of its directories in order, then the built-in
ones on request or if there is no directory. -/
def candidates (fs : FileSystem) (config : Config) : List Rule :=
  config.rulesDirs.flatMap (offeredBy fs) ++
    if config.useDefaultRules = true ∨ config.rulesDirs = [] then Builtin.rules else []

theorem usesBuiltinRules_iff {config : Config} :
    config.usesBuiltinRules = true ↔ config.useDefaultRules = true ∨ config.rulesDirs = [] := by
  simp [Config.usesBuiltinRules]

theorem withBuiltinRules_eq (r : Registry) :
    r.withBuiltinRules =
      (r.extend (if r.config.useDefaultRules = true ∨ r.config.rulesDirs = [] then
        Builtin.rules else [])).2 := by
  unfold withBuiltinRules
  by_cases h : r.config.useDefaultRules = true ∨ r.config.rulesDirs = []
  · rw [if_pos (usesBuiltinRules_iff.mpr h), if_pos h]
  · rw [if_neg (mt usesBuiltinRules_iff.mp h), if_neg h]
    rfl

theorem build_of_loadable {config : Config} (h : ∀ dir ∈ config.rulesDirs, Loadable fs dir) :
    build fs config = .ok ((empty config).extend (candidates fs config)).2 := by
  simp only [build, loadDirectories_of_loadable h]
  rw [withBuiltinRules_eq, extend_config, ← extend_append]
  rfl

theorem build_cases (fs : FileSystem) (config : Config) :
    ((∀ dir ∈ config.rulesDirs, Loadable fs dir) ∧
        build fs config = .ok ((empty config).extend (candidates fs config)).2) ∨
      ∃ before dir after cause, config.rulesDirs = before ++ dir :: after ∧
        (∀ d ∈ before, Loadable fs d) ∧ RuleDirectory.load fs dir = .error cause ∧
        build fs config = .error ⟨dir, cause⟩ := by
  rcases loadDirectories_cases (empty config) fs config.rulesDirs with
    ⟨hall, -⟩ | ⟨before, dir, after, cause, hsplit, hb, hbad, he⟩
  · exact .inl ⟨hall, build_of_loadable hall⟩
  · refine .inr ⟨before, dir, after, cause, hsplit, hb, hbad, ?_⟩
    simp only [build, he]

theorem build_eq_error {config : Config} {e : RegistryError} (h : build fs config = .error e) :
    ∃ before after, config.rulesDirs = before ++ e.dir :: after ∧
      (∀ dir ∈ before, Loadable fs dir) ∧ RuleDirectory.load fs e.dir = .error e.cause := by
  rcases build_cases fs config with
    ⟨-, hok⟩ | ⟨before, dir, after, cause, hsplit, hb, hbad, he⟩
  · cases hok.symm.trans h
  · obtain rfl := Except.error.inj (he.symm.trans h)
    exact ⟨before, after, hsplit, hb, hbad⟩

theorem build_eq_ok {config : Config} (h : build fs config = .ok s) :
    (∀ dir ∈ config.rulesDirs, Loadable fs dir) ∧
      s = ((empty config).extend (candidates fs config)).2 := by
  rcases build_cases fs config with ⟨hall, hok⟩ | ⟨_, _, _, _, -, -, -, he⟩
  · exact ⟨hall, Except.ok.inj (h.symm.trans hok)⟩
  · cases he.symm.trans h

theorem buildLog_warnings {config : Config} (h : ∀ dir ∈ config.rulesDirs, Loadable fs dir) :
    (buildLog fs config).filter (·.level = .warn) =
      (empty config).extendLog (candidates fs config) := by
  simp only [buildLog, loadDirectories_of_loadable h]
  rw [List.filter_append, loadDirectoriesLog_warnings h, List.filter_append, candidates,
    extendLog_append]
  congr 1
  rw [List.filter_cons_of_neg (by simp [LogLine.debug]), List.filter_nil, List.append_nil]
  by_cases hu : config.useDefaultRules = true ∨ config.rulesDirs = []
  · rw [if_pos (usesBuiltinRules_iff.mpr hu), if_pos hu, extendLog_warnings]
  · rw [if_neg (mt usesBuiltinRules_iff.mp hu), if_neg hu]
    rfl

/-- A directory that is listed again adds nothing. -/
theorem firstsBy_candidates_again {config : Config} {before after : List Path} {dir : Path}
    (hdirs : config.rulesDirs = before ++ after) (hd : dir ∈ before) :
    firstsBy Rule.id (candidates fs { config with rulesDirs := before ++ dir :: after }) =
      firstsBy Rule.id (candidates fs config) := by
  have hne : before ≠ [] := List.ne_nil_of_mem hd
  have htaken : ∀ rule ∈ offeredBy fs dir,
      rule.id ∈ (before.flatMap (offeredBy fs)).map Rule.id := by
    intro rule hr
    exact List.mem_map_of_mem (List.mem_flatMap.mpr ⟨dir, hd, hr⟩)
  have hagain := firstsBy_append_congr (firstsBy_append_of_taken htaken)
    (after.flatMap (offeredBy fs) ++ if config.useDefaultRules = true then Builtin.rules else [])
  simpa [candidates, hdirs, hne] using hagain

/-- A registry is built if and only if every directory can be loaded. Its rules are then the first
comers among the rules that the configuration asks for, so one rule has each id and a directory
that is listed again adds nothing; there is one warning for each of the others. Otherwise the error
is about the first directory that cannot be loaded. -/
theorem build_first_of_each_id (fs : FileSystem) (config : Config) :
    Builtin.rules.map Rule.id = ["201", "203", "204"] ∧
    ((∃ registry, build fs config = .ok registry) ↔
      ∀ dir ∈ config.rulesDirs, Loadable fs dir) ∧
    (∀ registry, build fs config = .ok registry →
      registry.config = config ∧
      registry.rules = firstsBy Rule.id (candidates fs config) ∧
      (buildLog fs config).filter (·.level = .warn) =
        (latecomersBy Rule.id (candidates fs config)).map repetition ∧
      (∀ id, registry.rules.filter (·.id = id) =
        ((candidates fs config).find? (·.id = id)).toList) ∧
      (∀ before after dir, config.rulesDirs = before ++ after → dir ∈ before →
        ∃ again, build fs { config with rulesDirs := before ++ dir :: after } = .ok again ∧
          again.rules = registry.rules)) ∧
    (∀ e, build fs config = .error e →
      e.message = "Failed to load rules from " ++ e.dir.text ∧
      ∃ before after, config.rulesDirs = before ++ e.dir :: after ∧
        (∀ dir ∈ before, Loadable fs dir) ∧ RuleDirectory.load fs e.dir = .error e.cause) := by
  refine ⟨rfl, ⟨fun ⟨_, h⟩ => (build_eq_ok h).1, fun hall => ⟨_, build_of_loadable hall⟩⟩, ?_,
    fun e h => ⟨rfl, build_eq_error h⟩⟩
  intro registry h
  obtain ⟨hall, rfl⟩ := build_eq_ok h
  have hrules := empty_extend_rules config (candidates fs config)
  refine ⟨extend_config _ _, hrules, ?_, ?_, ?_⟩
  · rw [buildLog_warnings hall, empty_extendLog]
  · intro id
    rw [hrules]
    exact filter_firstsBy Rule.id (candidates fs config) id
  · intro before after dir hdirs hd
    have hagain : ∀ d ∈ before ++ dir :: after, Loadable fs d := by
      intro d hm
      apply hall
      rw [hdirs, List.mem_append]
      rcases List.mem_append.mp hm with hm | hm
      · exact .inl hm
      rcases List.mem_cons.mp hm with rfl | hm
      · exact .inl hd
      · exact .inr hm
    refine ⟨_, build_of_loadable hagain, ?_⟩
    rw [empty_extend_rules, hrules]
    exact firstsBy_candidates_again hdirs hd

/-- A directory with one rule, which has the id of a built-in one. -/
def ownTabs : FileSystem where
  workingDir := ⟨"/srv"⟩
  canonical? _ := none
  isDir p := p.text = "rules"
  isFile p := p.text = "rules/tabs.toml"
  read p :=
    if p.text = "rules/tabs.toml" then
      .ok "[[rule]]\nid = \"203\"\nshortdesc = \"Tab\"\npattern = '\\t'\n"
    else .error .notFound
  names p := if p.text = "rules" then ["tabs.toml"] else []

theorem load_ownTabs :
    ∃ rule : Rule, RuleDirectory.load ownTabs ⟨"rules"⟩ = .ok [rule] ∧
      rule.id = "203" ∧ rule.summary = "Tab" := by
  have hfiles : RuleDirectory.files ownTabs ⟨"rules"⟩ = [⟨"rules/tabs.toml"⟩] := by
    rw [RuleDirectory.files_of_ascending (by decide)]
    rfl
  have hread : (RuleDirectory.loadFiles ownTabs [] [⟨"rules/tabs.toml"⟩]).toOption.map
      (List.map fun rule => (rule.id, rule.summary)) = some [("203", "Tab")] := by decide +kernel
  rw [RuleDirectory.load, if_pos (by decide), hfiles]
  cases hload : RuleDirectory.loadFiles ownTabs [] [⟨"rules/tabs.toml"⟩] with
  | error e =>
    rw [hload] at hread
    cases hread
  | ok rules =>
    rw [hload] at hread
    obtain ⟨rule, rfl, hrule⟩ := List.map_eq_singleton_iff.mp (Option.some.inj hread)
    exact ⟨rule, rfl, Prod.mk.inj hrule⟩

/-- The rule of the directory is taken for the built-in one, and the directory is listed twice. -/
theorem build_first_of_each_id_ownTabs :
    let config : Config :=
      { Config.default with rulesDirs := [⟨"rules"⟩, ⟨"rules"⟩], useDefaultRules := true }
    let told : LogLine := .warn "Rule 203 is already registered, skipping duplicate"
    ∃ registry, build ownTabs config = .ok registry ∧
      registry.rules.map (fun rule => (rule.id, rule.summary)) =
        [("203", "Tab"), ("201", "Trailing whitespace"),
          ("204", "Lines should be no longer that 160 chars")] ∧
      (buildLog ownTabs config).filter (·.level = .warn) = [told, told] := by
  intro config told
  obtain ⟨rule, hload, hid, hsummary⟩ := load_ownTabs
  obtain ⟨-, hiff, hbuilt, -⟩ := build_first_of_each_id ownTabs config
  have hall : ∀ dir ∈ config.rulesDirs, Loadable ownTabs dir := by
    intro dir hd
    obtain rfl : dir = ⟨"rules"⟩ := by simpa [config] using hd
    exact ⟨_, hload⟩
  obtain ⟨registry, hok⟩ := hiff.mpr hall
  obtain ⟨-, hrules, hlog, -, -⟩ := hbuilt registry hok
  have hcand : candidates ownTabs config = [rule, rule] ++ Builtin.rules := by
    simp [candidates, config, offeredBy_of_ok hload]
  obtain ⟨id, summary, description, severity, tags, versionAdded, check⟩ := rule
  obtain rfl : id = "203" := hid
  obtain rfl : summary = "Tab" := hsummary
  refine ⟨registry, hok, ?_, ?_⟩
  · rw [hrules, hcand]
    rfl
  · rw [hlog, hcand]
    rfl

end Registry

end StateLint
