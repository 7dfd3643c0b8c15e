import StateLint.Proofs.ProvidedRules

/-! # The order of inputs and rules does not matter

Findings at one place were made by one rule in one file, so no order outside of that pair can be seen
in a report. Which spelling of a file is checked does depend on the order of the inputs: the files
that are checked are the same only if all admitted spellings of a file stand for one path. One path
can still be checked for itself or for its directory, and rules that look at the file could tell. -/
namespace StateLint.Lint

variable {registry : Registry} {config : Config} {fs : FileSystem} {inputs : List Path}

/-- Admitted inputs with the same key stand for the same path. -/
def OneSpelling (config : Config) (fs : FileSystem) (inputs : List Path) : Prop :=
  ∀ p ∈ inputs, ∀ q ∈ inputs, Admitted config fs p → Admitted config fs q →
    keyOf fs p = keyOf fs q → (fileOf fs p).text = (fileOf fs q).text

/-- The findings in a file, whatever input it was reached by. -/
def findingsIn (registry : Registry) (config : Config) (fs : FileSystem) (file : Path) :
    List Finding :=
  registry.run fs ⟨file, .state⟩ config.tags config.skipList

/-- The files that are checked, in the order of the inputs that count. -/
def countedFiles (config : Config) (fs : FileSystem) (inputs : List Path) : List Path :=
  (counted config fs inputs).map (fileOf fs)

theorem mem_counted {p : Path} (h : p ∈ counted config fs inputs) :
    p ∈ inputs ∧ Admitted config fs p := by
  obtain ⟨e, he, rfl⟩ := List.mem_map.mp h
  obtain ⟨he, hc⟩ := List.mem_filter.mp he
  exact ⟨List.fst_mem_of_mem_zipIdx he, (of_decide_eq_true hc).1⟩

/-- Rules that do not look at the file find the same, whatever input it was reached by. -/
theorem contribution_eq (hp : ∀ rule ∈ registry.rules, rule.Provided) (input : Path) :
    contribution registry config fs input = findingsIn registry config fs (fileOf fs input) := by
  unfold contribution findingsIn Registry.run fileOf
  cases fs.read (StateFile.ofInput fs input).path with
  | error cause => rfl
  | ok text =>
    apply List.flatMap_congr
    intro rule hm
    have hsame : rule.findings (StateFile.ofInput fs input) =
        rule.findings ⟨(StateFile.ofInput fs input).path, .state⟩ :=
      (hp rule (List.mem_filter.mp hm).1).ignoresFile.findings_congr rfl
    exact congrFun hsame text

theorem contributions_eq (hp : ∀ rule ∈ registry.rules, rule.Provided) :
    (counted config fs inputs).flatMap (contribution registry config fs) =
      (countedFiles config fs inputs).flatMap (findingsIn registry config fs) := by
  rw [countedFiles, List.flatMap_map]
  exact List.flatMap_congr fun input _ => contribution_eq hp input

theorem countedFiles_nodup (inputs : List Path) : (countedFiles config fs inputs).Nodup := by
  apply List.Nodup.of_map fs.key
  rw [countedFiles, List.map_map]
  exact counted_keys_nodup inputs

theorem mem_countedFiles (h : OneSpelling config fs inputs) {file : Path} :
    file ∈ countedFiles config fs inputs ↔
      ∃ p ∈ inputs, Admitted config fs p ∧ fileOf fs p = file := by
  constructor
  · intro hf
    obtain ⟨p, hp, rfl⟩ := List.mem_map.mp hf
    obtain ⟨hi, ha⟩ := mem_counted hp
    exact ⟨p, hi, ha, rfl⟩
  · rintro ⟨p, hp, ha, rfl⟩
    obtain ⟨q, hq, hk⟩ := List.mem_map.mp (mem_counted_keys.mpr ⟨p, hp, ha, rfl⟩)
    obtain ⟨hi, hqa⟩ := mem_counted hq
    have he : fileOf fs q = fileOf fs p := congrArg Path.mk (h q hi p hp hqa ha hk)
    exact List.mem_map.mpr ⟨q, hq, he⟩

theorem countedFiles_perm {inputs' : List Path} (h : inputs.Perm inputs')
    (hs : OneSpelling config fs inputs) :
    (countedFiles config fs inputs).Perm (countedFiles config fs inputs') := by
  have hs' : OneSpelling config fs inputs' := fun p hp q hq =>
    hs p (h.mem_iff.mpr hp) q (h.mem_iff.mpr hq)
  rw [List.perm_ext_iff_of_nodup (countedFiles_nodup inputs) (countedFiles_nodup inputs')]
  intro file
  rw [mem_countedFiles hs, mem_countedFiles hs']
  simp only [h.mem_iff]

/-- The findings of two files are at different places. -/
theorem findingsIn_place_ne {a b : Path} (h : a ≠ b) {f g : Finding}
    (hf : f ∈ findingsIn registry config fs a) (hg : g ∈ findingsIn registry config fs b) :
    f.place ≠ g.place := by
  obtain ⟨_, _, _, _, _, hf⟩ := Registry.mem_run.mp hf
  obtain ⟨_, _, _, _, _, hg⟩ := Registry.mem_run.mp hg
  intro he
  have ht : f.file.text = g.file.text := congrArg Prod.fst he
  rw [(Rule.mem_findings hf).1, (Rule.mem_findings hg).1] at ht
  exact h (congrArg Path.mk ht)

theorem findingsIn_agree {registry' : Registry} (hc : registry.config = registry'.config)
    (hr : registry.rules.Perm registry'.rules) (hid : (registry.rules.map Rule.id).Nodup)
    (file : Path) :
    Finding.Agree (findingsIn registry config fs file) (findingsIn registry' config fs file) := by
  unfold findingsIn Registry.run
  cases fs.read file with
  | error cause => exact .refl _
  | ok text =>
    have hruns : registry.runs = registry'.runs := by
      unfold Registry.runs
      rw [hc]
    rw [hruns]
    apply Finding.Agree.flatMap_perm _ (hr.filter _)
    intro a ha b hb hab f hf g hg he
    have hi : a.id = b.id := by
      have := congrArg (fun p => p.2.2) he
      simpa [Finding.place, (Rule.mem_findings hf).2, (Rule.mem_findings hg).2] using this
    exact hab (List.inj_on_of_nodup_map hid (List.mem_filter.mp ha).1 (List.mem_filter.mp hb).1 hi)

/-- Neither the order of the inputs nor that of the rules can be seen in a report by the rules that
the linter provides. -/
theorem run_order_independent {registry registry' : Registry} {inputs inputs' : List Path}
    (hp : ∀ rule ∈ registry.rules, rule.Provided)
    (hc : registry.config = registry'.config) (hr : registry.rules.Perm registry'.rules)
    (hid : (registry.rules.map Rule.id).Nodup) (hi : inputs.Perm inputs')
    (hs : OneSpelling config fs inputs) :
    run registry config fs inputs = run registry' config fs inputs' := by
  have hrules : Finding.Agree
      ((countedFiles config fs inputs).flatMap (findingsIn registry config fs))
      ((countedFiles config fs inputs).flatMap (findingsIn registry' config fs)) :=
    .flatMap fun file _ => findingsIn_agree hc hr hid file
  have hfiles : Finding.Agree
      ((countedFiles config fs inputs).flatMap (findingsIn registry' config fs))
      ((countedFiles config fs inputs').flatMap (findingsIn registry' config fs)) :=
    .flatMap_perm _ (countedFiles_perm hi hs) fun a _ b _ hab f hf g hg =>
      findingsIn_place_ne hab hf hg
  have hp' : ∀ rule ∈ registry'.rules, rule.Provided := fun rule hm => hp rule (hr.mem_iff.mpr hm)
  rw [run_eq, run_eq, contributions_eq hp, contributions_eq hp',
    Finding.sort_eq_sort_iff.mpr (hrules.trans hfiles)]

/-- The directory and its file, each given first once, under both orders of two rules that fire. -/
theorem run_order_independent_web :
    (∀ rule ∈ [Builtin.tabs, Builtin.trailingBlanks], rule.Provided) ∧
      OneSpelling .default webFiles [⟨"web"⟩, ⟨"web/init.sls"⟩] ∧
      run ⟨.default, [Builtin.tabs, Builtin.trailingBlanks]⟩ .default webFiles
          [⟨"web"⟩, ⟨"web/init.sls"⟩] =
        run ⟨.default, [Builtin.trailingBlanks, Builtin.tabs]⟩ .default webFiles
          [⟨"web/init.sls"⟩, ⟨"web"⟩] ∧
      (run ⟨.default, [Builtin.tabs, Builtin.trailingBlanks]⟩ .default webFiles
        [⟨"web"⟩, ⟨"web/init.sls"⟩]).size = 2 := by
  have hp : ∀ rule ∈ [Builtin.tabs, Builtin.trailingBlanks], rule.Provided := by
    intro rule hm
    rcases List.mem_pair.mp hm with rfl | rfl
    · exact .tabs ⟨rfl, rfl⟩
    · exact .trailingBlanks ⟨rfl, rfl⟩
  have hf : ∀ p ∈ [(⟨"web"⟩ : Path), ⟨"web/init.sls"⟩], fileOf webFiles p = ⟨"web/init.sls"⟩ := by
    decide
  have hs : OneSpelling .default webFiles [⟨"web"⟩, ⟨"web/init.sls"⟩] := by
    intro p hp q hq _ _ _
    rw [hf p hp, hf q hq]
  refine ⟨hp, hs,
    run_order_independent hp rfl (.swap _ _ _) (by decide) (.swap _ _ _) hs, ?_⟩
  rw [run_size]
  decide +kernel

end StateLint.Lint
