import StateLint.Program
import StateLint.Proofs.RegistryBuild
import StateLint.Proofs.ReportDecoding

/-! # How a run ends

A run fails, prints a listing, or checks its inputs, and its exit code tells which: 1 for a failure,
0 for a listing, 2 or 0 for a check that finds something or nothing. What makes a run fail is said
without the order in which the program finds out. -/
namespace StateLint

namespace Report

theorem renderFinding_ne_empty (withSeverity colored : Bool) (f : Finding) :
    renderFinding withSeverity colored f ≠ "" := by
  simp [renderFinding, String.append_eq_empty_iff]

theorem join_renderFinding_eq_empty_iff {withSeverity colored : Bool} {fs : List Finding} :
    String.join (fs.map (renderFinding withSeverity colored)) = "" ↔ fs = [] := by
  cases fs with
  | nil => simp
  | cons f fs => simp [String.join_cons, String.append_eq_empty_iff, renderFinding_ne_empty]

theorem render_eq_empty_iff {r : Report} {format : Format} {colored : Bool}
    (h : format ≠ .json) : r.render format colored = "" ↔ r.findings = [] := by
  cases format with
  | json => exact (h rfl).elim
  | plain => exact join_renderFinding_eq_empty_iff
  | severity => exact join_renderFinding_eq_empty_iff

end Report

namespace Program

variable {env : Environment} {c : CommandLine} {text : String} {config : Config}
  {registry : Registry}

/-- The files of a run. A text that is piped in is one of them, unless it is empty. -/
def files (env : Environment) (text : String) : FileSystem :=
  if text = "" then env.fs else env.fs.withFile env.stdinPath text

/-- What a run checks. -/
def allInputs (env : Environment) (c : CommandLine) (text : String) : List Path :=
  if text = "" then c.states else c.states ++ [env.stdinPath]

/-- Why a run fails. -/
inductive Fails (env : Environment) (c : CommandLine) : Prop where
  | input (h : ¬env.stdin.IsValidUTF8)
  | config {e : ConfigError} (h : (source env c).load env.fs (c.options env.onTerminal) = .error e)
  | idle (hs : c.states = []) (hi : env.stdin = ByteArray.empty) (hr : c.listRules = false)
      (ht : c.listTags = false)
  | rules {text : String} {config : Config} {dir : Path} {e : RuleDirectoryError}
      (hi : text.toByteArray = env.stdin)
      (hc : (source env c).load env.fs (c.options env.onTerminal) = .ok config)
      (hd : dir ∈ config.rulesDirs) (h : RuleDirectory.load (files env text) dir = .error e)

/-- The text, the configuration and the rules of a run that does not fail. -/
structure Ready (env : Environment) (c : CommandLine) (text : String) (config : Config)
    (registry : Registry) : Prop where
  input : text.toByteArray = env.stdin
  loaded : (source env c).load env.fs (c.options env.onTerminal) = .ok config
  work : c.listRules = true ∨ c.listTags = true ∨ allInputs env c text ≠ []
  built : Registry.build (files env text) config = .ok registry

theorem allInputs_eq_nil_iff : allInputs env c text = [] ↔ c.states = [] ∧ text = "" := by
  unfold allInputs
  split
  · next ht => simp [ht]
  · next ht => simp [ht]

theorem Ready.not_fails (h : Ready env c text config registry) : ¬Fails env c := by
  intro hf
  cases hf with
  | input hi => exact hi (h.input ▸ text.isValidUTF8)
  | config hc => cases h.loaded.symm.trans hc
  | idle hs hi hr ht =>
    have htext : text = "" := String.toByteArray_inj.mp (h.input.trans hi)
    rcases h.work with hw | hw | hw
    · simp [hr] at hw
    · simp [ht] at hw
    · exact hw (allInputs_eq_nil_iff.mpr ⟨hs, htext⟩)
  | rules hi hc hd he =>
    obtain rfl := String.toByteArray_inj.mp (hi.trans h.input.symm)
    obtain rfl := Except.ok.inj (hc.symm.trans h.loaded)
    obtain ⟨rules, hok⟩ := (Registry.build_eq_ok h.built).1 _ hd
    cases he.symm.trans hok

theorem stdinText_cases (env : Environment) :
    (¬env.stdin.IsValidUTF8 ∧ stdinText env = .error .badInput) ∨
      ∃ text : String, text.toByteArray = env.stdin ∧
        stdinText env = .ok (if text = "" then none else some text) := by
  by_cases hv : env.stdin.IsValidUTF8
  · refine .inr ⟨String.fromUTF8 env.stdin hv, rfl, ?_⟩
    simp [stdinText, String.fromUTF8?, hv]
  · exact .inl ⟨hv, by simp [stdinText, String.fromUTF8?, hv]⟩

theorem filesWith_eq : filesWith env (if text = "" then none else some text) = files env text := by
  unfold files
  split <;> rfl

theorem inputs_eq : inputs env c (if text = "" then none else some text) = allInputs env c text := by
  unfold inputs allInputs
  split <;> simp

/-- What is told before the rules are used. -/
def preparationLog (env : Environment) (c : CommandLine) (text : String) (config : Config) :
    List LogLine :=
  ((source env c).path?.toList.map fun p => LogLine.info ("Using config: " ++ p.text)) ++
    Registry.buildLog (files env text) config

/-- The end of a run that does not fail. -/
def ending (env : Environment) (c : CommandLine) (text : String) (config : Config)
    (registry : Registry) : Outcome where
  code := (answer registry config c (files env text) (allInputs env c text)).1
  stdout := (answer registry config c (files env text) (allInputs env c text)).2
  log := LogLine.upTo (threshold env.logFilter config.verbosity)
    (preparationLog env c text config ++
      answerLog registry config c (files env text) (allInputs env c text))
  failure := none

theorem run_cases (env : Environment) (c : CommandLine) :
    (Fails env c ∧ ∃ failure log, run env c = .failed failure log) ∨
      ∃ text config registry, Ready env c text config registry ∧
        run env c = ending env c text config registry := by
  rcases stdinText_cases env with ⟨hv, ht⟩ | ⟨text, hi, ht⟩
  · exact .inl ⟨.input hv, _, _, by rw [run, ht]⟩
  cases hl : (source env c).load env.fs (c.options env.onTerminal) with
  | error e => exact .inl ⟨.config hl, _, _, by simp only [run, ht, hl]; rfl⟩
  | ok config =>
    have hrun : run env c = runWith env c (if text = "" then none else some text) config := by
      simp only [run, ht, hl]
    simp only [runWith, filesWith_eq, inputs_eq] at hrun
    split at hrun
    next hw =>
      simp only [Bool.and_eq_true, List.isEmpty_iff, Bool.not_eq_true', allInputs_eq_nil_iff] at hw
      obtain ⟨⟨⟨hs, rfl⟩, hrules⟩, htags⟩ := hw
      exact .inl ⟨.idle hs hi.symm hrules htags, _, _, hrun⟩
    next hw =>
      split at hrun
      next e hb =>
        obtain ⟨before, after, hd, -, he⟩ := Registry.build_eq_error hb
        exact .inl ⟨.rules hi hl (by simp [hd]) he, _, _, hrun⟩
      next registry hb =>
        have hwork : c.listRules = true ∨ c.listTags = true ∨ allInputs env c text ≠ [] := by
          by_contra hn
          simp_all
        exact .inr ⟨text, config, registry, ⟨hi, hl, hwork, hb⟩, hrun⟩

theorem Ready.run_eq (h : Ready env c text config registry) :
    run env c = ending env c text config registry := by
  rcases run_cases env c with ⟨hf, -⟩ | ⟨text', config', registry', h', he⟩
  · exact (h.not_fails hf).elim
  · obtain rfl := String.toByteArray_inj.mp (h'.input.trans h.input.symm)
    obtain rfl := Except.ok.inj (h'.loaded.symm.trans h.loaded)
    obtain rfl := Except.ok.inj (h'.built.symm.trans h.built)
    exact he

theorem ending_of_listing (h : c.listRules = true ∨ c.listTags = true) :
    ending env c text config registry =
      .success ((if c.listRules then registry.listing else registry.tagListing) ++ "\n")
        (LogLine.upTo (threshold env.logFilter config.verbosity)
          (preparationLog env c text config)) := by
  have hlog : answerLog registry config c (files env text) (allInputs env c text) = [] := by
    simpa [answerLog] using fun hr ht => absurd h (by simp [hr, ht])
  have hanswer : answer registry config c (files env text) (allInputs env c text) =
      (0, (if c.listRules then registry.listing else registry.tagListing) ++ "\n") := by
    unfold answer
    split
    · rfl
    · next hr => rw [if_pos (h.resolve_left hr)]
  rw [ending, hlog, hanswer, List.append_nil]
  rfl

/-- A listing does not depend on the inputs. -/
theorem Ready.with_states (h : Ready env c text config registry)
    (hlist : c.listRules = true ∨ c.listTags = true) (states : List Path) :
    Ready env { c with states := states } text config registry where
  input := h.input
  loaded := h.loaded
  work := hlist.imp_right .inl
  built := h.built

theorem Ready.run_with_states (h : Ready env c text config registry)
    (hlist : c.listRules = true ∨ c.listTags = true) (states : List Path) :
    run env { c with states := states } = run env c := by
  rw [(h.with_states hlist states).run_eq, h.run_eq, ending_of_listing hlist]
  exact ending_of_listing hlist

theorem answer_of_check (hrules : c.listRules = false) (htags : c.listTags = false)
    (fs : FileSystem) (inputs : List Path) :
    answer registry config c fs inputs = check registry config fs inputs := by
  simp [answer, hrules, htags]

theorem check_code (fs : FileSystem) (inputs : List Path) :
    (check registry config fs inputs).1 =
      if (Lint.run registry config fs inputs).findings = [] then 0 else 2 := by
  simp [check, Report.isEmpty]

theorem answer_code_ne_one (fs : FileSystem) (inputs : List Path) :
    (answer registry config c fs inputs).1 ≠ 1 := by
  unfold answer
  split
  · exact Nat.zero_ne_one
  split
  · exact Nat.zero_ne_one
  rw [check_code]
  split <;> decide

theorem check_stdout_eq_empty_iff (hj : config.json = false) (fs : FileSystem)
    (inputs : List Path) :
    (check registry config fs inputs).2 = "" ↔ (check registry config fs inputs).1 = 0 := by
  have hformat : config.reportFormat ≠ .json := by
    unfold Config.reportFormat
    split
    · next h => simp [hj] at h
    · split <;> decide
  rw [check_code, check, Report.render_eq_empty_iff hformat]
  split
  · next h => simp [h]
  · next h => simp [h]

theorem check_stdout_json (hj : config.json = true) (fs : FileSystem) (inputs : List Path) :
    ∃ items : List Json, (∀ v, Json.IsText (check registry config fs inputs).2.toList v ↔
        v = .array items) ∧
      items.length = (Lint.run registry config fs inputs).findings.length := by
  refine ⟨(Lint.run registry config fs inputs).findings.map Report.findingJson, fun v => ?_,
    List.length_map _⟩
  have hformat : config.reportFormat = .json := if_pos hj
  rw [check, hformat, Report.render, String.toList_append]
  exact Json.isText_render_append_iff _ _ (.more rfl .none)

/-- A run exits with 1 and prints nothing if and only if it fails. Otherwise it prints a listing if
one is asked for, whatever the inputs are, and else checks them: it then exits with 2 if something
is found. Nothing is printed if nothing is found, except in JSON: that is always one list of what
is found. -/
theorem run_exit_code (env : Environment) (c : CommandLine) :
    ((run env c).code = 1 ↔ Fails env c) ∧ (Fails env c → (run env c).stdout = "") ∧
    (¬Fails env c → ∃ text config registry, Ready env c text config registry ∧
      ((c.listRules = true ∨ c.listTags = true) →
        run env c = .success
          ((if c.listRules then registry.listing else registry.tagListing) ++ "\n")
          (LogLine.upTo (threshold env.logFilter config.verbosity)
            (preparationLog env c text config)) ∧
        ∀ states, run env { c with states := states } = run env c) ∧
      (c.listRules = false → c.listTags = false →
        let findings := (Lint.run registry config (files env text) (allInputs env c text)).findings
        (run env c).code = (if findings = [] then 0 else 2) ∧
        (config.json = false → ((run env c).stdout = "" ↔ (run env c).code = 0)) ∧
        (config.json = true → ∃ items : List Json,
          (∀ v, Json.IsText (run env c).stdout.toList v ↔ v = .array items) ∧
          items.length = findings.length))) := by
  rcases run_cases env c with ⟨hf, failure, log, hrun⟩ | ⟨text, config, registry, hready, hrun⟩
  · rw [hrun]
    exact ⟨iff_of_true rfl hf, fun _ => rfl, fun hn => (hn hf).elim⟩
  have hcode : (run env c).code ≠ 1 := by
    rw [hrun]
    exact answer_code_ne_one _ _
  refine ⟨iff_of_false hcode hready.not_fails, fun hf => (hready.not_fails hf).elim,
    fun _ => ⟨text, config, registry, hready, ?_, ?_⟩⟩
  · intro hlist
    exact ⟨hrun.trans (ending_of_listing hlist), hready.run_with_states hlist⟩
  · intro hrules htags
    rw [hrun]
    simp only [ending, answer_of_check hrules htags]
    exact ⟨check_code _ _, fun hj => check_stdout_eq_empty_iff hj _ _,
      fun hj => check_stdout_json hj _ _⟩

/-- A line with a tab is piped in, and there are no files. -/
def tabbed : Environment where
  fs := ⟨⟨"/srv"⟩, fun _ => none, fun _ => false, fun _ => false, fun _ => .error .notFound,
    fun _ => []⟩
  configDir := none
  home := none
  logFilter := none
  stdin := "a:\tb\n".toUTF8
  stdinPath := ⟨"/tmp/piped.sls"⟩
  onTerminal := false

theorem run_exit_code_tabbed :
    ¬Fails tabbed {} ∧ (run tabbed {}).code = 2 ∧ Fails tabbed { rulesDirs := [⟨"rules"⟩] } := by
  have hcode : (run tabbed {}).code = 2 := by decide +kernel
  refine ⟨fun hf => ?_, hcode, (run_exit_code tabbed _).1.mp (by decide +kernel)⟩
  have hone := (run_exit_code tabbed {}).1.mpr hf
  rw [hcode] at hone
  contradiction

end Program

end StateLint
