import Mathlib.Data.List.Forall2
import StateLint.Proofs.ExitCodes
import StateLint.Proofs.ProvidedRules
import StateLint.Proofs.RuleSelection

/-! # Findings do not depend on where a text is stored

Two files with the same text, neither of them excluded and both open to every rule, have the same
findings, up to the name of the file. The name goes through every stage of a run, but the filters
are all that looks at it: the rules that the linter provides do not, and within one file it does not
even matter to the order of a report. A text that is piped in is stored under a name of its own, and
is no different. -/
namespace StateLint

namespace Finding

/-- Two findings that differ at most in their files. -/
structure SaysSame (f g : Finding) : Prop where
  lineNumber : f.lineNumber = g.lineNumber
  line : f.line = g.line
  id : f.rule.id = g.rule.id
  message : f.message = g.message

theorem saysSame_moveTo (file : Path) (f : Finding) : SaysSame f (f.moveTo file) :=
  ⟨rfl, rfl, rfl, rfl⟩

theorem compare_moveTo {f g : Finding} (h : f.file = g.file) (file : Path) :
    compare (f.moveTo file) (g.moveTo file) = compare f g := by
  simp [compare, moveTo, h]

/-- The order of the findings in one file does not depend on its name. -/
theorem sort_map_moveTo {l : List Finding} {old : Path} (h : ∀ f ∈ l, f.file = old) (file : Path) :
    sort (l.map (moveTo file)) = (sort l).map (moveTo file) := by
  unfold sort
  rw [List.map_mergeSort]
  intro f hf g hg
  rw [compare_moveTo ((h f hf).trans (h g hg).symm)]

end Finding

namespace Lint

variable {registry : Registry} {config : Config} {fs fs' : FileSystem} {p q : Path} {text : String}

/-- Neither the file nor any rule for it is taken out. -/
structure Unfiltered (registry : Registry) (config : Config) (file : Path) : Prop where
  admitted : config.isExcluded file = false
  applies : ∀ rule ∈ registry.rules, registry.config.Applies file rule

instance (registry : Registry) (config : Config) (file : Path) :
    Decidable (Unfiltered registry config file) :=
  decidable_of_iff (config.isExcluded file = false ∧
      ∀ rule ∈ registry.rules, registry.config.Applies file rule)
    ⟨fun h => ⟨h.1, h.2⟩, fun h => ⟨h.admitted, h.applies⟩⟩

/-- The file of an input holds a text, to which every rule is open. -/
structure Holds (registry : Registry) (config : Config) (fs : FileSystem) (input : Path)
    (text : String) : Prop where
  read : fs.read (fileOf fs input) = .ok text
  unfiltered : Unfiltered registry config (fileOf fs input)

theorem runs_eq_of_applies {file file' : Path} {tags skipList : List String} {rule : Rule}
    (h : registry.config.Applies file rule) (h' : registry.config.Applies file' rule) :
    registry.runs file' tags skipList rule = registry.runs file tags skipList rule := by
  unfold Registry.runs
  rw [Registry.ignoringKey?_isNone_iff.mpr h, Registry.ignoringKey?_isNone_iff.mpr h']

theorem contribution_of_holds (h : Holds registry config fs p text) :
    contribution registry config fs p =
      (registry.rules.filter (registry.runs (fileOf fs p) config.tags config.skipList)).flatMap
        fun rule => rule.findings (StateFile.ofInput fs p) text := by
  have hread : fs.read (StateFile.ofInput fs p).path = .ok text := h.read
  simp only [contribution, Registry.run, hread]
  rfl

theorem contribution_moveTo (hr : ∀ rule ∈ registry.rules, rule.Provided)
    (hp : Holds registry config fs p text) (hq : Holds registry config fs' q text) :
    contribution registry config fs' q =
      (contribution registry config fs p).map (Finding.moveTo (fileOf fs' q)) := by
  have hrules : registry.rules.filter
        (registry.runs (fileOf fs' q) config.tags config.skipList) =
      registry.rules.filter (registry.runs (fileOf fs p) config.tags config.skipList) := by
    -- Tags and the skip list do not look at the path, and no ignore pattern fits either of the two.
    apply List.filter_congr
    intro rule hm
    exact runs_eq_of_applies (hp.unfiltered.applies rule hm) (hq.unfiltered.applies rule hm)
  rw [contribution_of_holds hp, contribution_of_holds hq, hrules, List.map_flatMap]
  apply List.flatMap_congr
  intro rule hm
  exact (hr rule (List.mem_filter.mp hm).1).ignoresFile.findings_moveTo _ _ text

theorem run_singleton (h : Admitted config fs p) :
    (run registry config fs [p]).findings = Finding.sort (contribution registry config fs p) := by
  have hc : Counts config fs [] p := ⟨h, by simp⟩
  have hcounted : counted config fs [p] = [p] := by
    rw [← List.nil_append [p], counted_concat, if_pos hc, counted_nil]
  rw [run_eq, hcounted, List.flatMap_singleton]

/-- The report on one text is that on the same text elsewhere, under another name. -/
theorem run_moveTo (hr : ∀ rule ∈ registry.rules, rule.Provided)
    (hp : Holds registry config fs p text) (hq : Holds registry config fs' q text) :
    (run registry config fs' [q]).findings =
      (run registry config fs [p]).findings.map (Finding.moveTo (fileOf fs' q)) := by
  have hfile : ∀ f ∈ contribution registry config fs p, f.file = fileOf fs p :=
    fun f hf => (mem_contribution hf).1
  rw [run_singleton hp.unfiltered.admitted, run_singleton hq.unfiltered.admitted,
    contribution_moveTo hr hp hq, Finding.sort_map_moveTo hfile]

theorem run_saysSame (hr : ∀ rule ∈ registry.rules, rule.Provided)
    (hp : Holds registry config fs p text) (hq : Holds registry config fs' q text) :
    List.Forall₂ Finding.SaysSame (run registry config fs [p]).findings
      (run registry config fs' [q]).findings := by
  rw [run_moveTo hr hp hq, List.forall₂_map_right_iff, List.forall₂_same]
  intro f _
  exact Finding.saysSame_moveTo _ f

end Lint

namespace RuleDirectory

theorem filePath_ne_of_state {dir path : Path} {name stem : String} (hn : isRuleFileName name = true)
    (hp : path.text = stem ++ ".sls") : filePath dir name ≠ path := by
  intro he
  obtain ⟨lead, -, hlead⟩ := exists_lead dir
  obtain ⟨l, hl⟩ := List.isSuffixOf_iff_suffix.mp hn
  have htext : lead ++ name = stem ++ ".sls" := by
    rw [← hp, ← he, hlead]
  -- One of them ends with `l`, the other with `s`.
  have hlast := congrArg (fun s : String => s.toList.getLast?) htext
  simp [← hl] at hlast

/-- A state file that is put where nothing was makes no difference to the rules. -/
theorem load_withFile {fs : FileSystem} {path : Path} {stem text : String}
    (hv : fs.isDir path = false) (hp : path.text = stem ++ ".sls") (dir : Path) :
    load (fs.withFile path text) dir = load fs dir := by
  have hother : ∀ file ∈ (((fs.names dir).filter isRuleFileName).mergeSort fun a b => a ≤ b).map
      (filePath dir), file ≠ path := by
    intro file hf
    obtain ⟨name, hname, rfl⟩ := List.mem_map.mp hf
    exact filePath_ne_of_state (List.mem_filter.mp (List.mem_mergeSort.mp hname)).2 hp
  apply load_congr
  · by_cases hd : dir = path
    · simp [FileSystem.withFile, hd, hv]
    · simp [FileSystem.withFile, hd]
  · unfold files
    apply List.filter_congr
    intro file hf
    simp [FileSystem.withFile, hother file hf]
  · intro file hf
    simp [FileSystem.withFile, hother file (List.mem_filter.mp hf).1]

end RuleDirectory

namespace Program

variable {env : Environment} {c : CommandLine} {text : String} {config : Config}
  {registry : Registry} {p : Path}

/-- A piped text is stored where nothing was, under the name of a state file. -/
structure StoresState (env : Environment) : Prop where
  vacant : env.fs.isDir env.stdinPath = false
  named : ∃ stem, env.stdinPath.text = stem ++ ".sls"

def unpiped (env : Environment) : Environment := { env with stdin := ByteArray.empty }

theorem Ready.named (h : Ready env c text config registry) (hs : StoresState env) (p : Path) :
    Ready (unpiped env) { c with states := [p] } "" config registry where
  input := rfl
  loaded := h.loaded
  work := .inr (.inr (by simp [allInputs]))
  built := by
    have hload : ∀ dir ∈ config.rulesDirs,
        RuleDirectory.load env.fs dir = RuleDirectory.load (files env text) dir := by
      intro dir _
      unfold files
      split
      · rfl
      · obtain ⟨stem, hstem⟩ := hs.named
        exact (RuleDirectory.load_withFile hs.vacant hstem dir).symm
    have hfiles : files (unpiped env) "" = env.fs := if_pos rfl
    rw [hfiles, Registry.build_congr hload]
    exact h.built

theorem Ready.check_eq (h : Ready env c text config registry) (hrules : c.listRules = false)
    (htags : c.listTags = false) :
    ((run env c).code, (run env c).stdout) =
      check registry config (files env text) (allInputs env c text) := by
  rw [h.run_eq]
  simp only [ending, answer_of_check hrules htags]

theorem holds_piped (ht : text ≠ "") (h : Lint.Unfiltered registry config env.stdinPath) :
    Lint.Holds registry config (files env text) env.stdinPath text := by
  have hfiles : files env text = env.fs.withFile env.stdinPath text := if_neg ht
  have hfile : Lint.fileOf (files env text) env.stdinPath = env.stdinPath := by
    simp [Lint.fileOf, StateFile.ofInput, hfiles, FileSystem.withFile]
  constructor
  · rw [hfile, hfiles]
    simp [FileSystem.withFile]
  · rw [hfile]
    exact h

/-- Inputs whose files hold the same text, with every rule open to them, have the same findings by
the rules that the linter provides. So have a text that is piped in and a file that holds it: both
runs report the same findings, and they exit with the same code. -/
theorem same_text_same_findings :
    (∀ (registry : Registry) (config : Config) (fs : FileSystem) (p q : Path) (text : String),
      (∀ rule ∈ registry.rules, rule.Provided) →
      Lint.Holds registry config fs p text → Lint.Holds registry config fs q text →
      List.Forall₂ Finding.SaysSame (Lint.run registry config fs [p]).findings
        (Lint.run registry config fs [q]).findings) ∧
    (∀ (env : Environment) (c : CommandLine) (text : String) (config : Config)
        (registry : Registry) (p : Path),
      StoresState env → Ready env c text config registry → text ≠ "" → c.states = [] →
      c.listRules = false → c.listTags = false →
      Lint.Unfiltered registry config env.stdinPath → Lint.Holds registry config env.fs p text →
      let piped := Lint.run registry config (files env text) [env.stdinPath]
      let named := Lint.run registry config env.fs [p]
      let namedRun := run (unpiped env) { c with states := [p] }
      (run env c).stdout = piped.render config.reportFormat config.colored ∧
        namedRun.stdout = named.render config.reportFormat config.colored ∧
        (run env c).code = namedRun.code ∧
        List.Forall₂ Finding.SaysSame piped.findings named.findings) := by
  constructor
  · intro registry config fs p q text hr hp hq
    exact Lint.run_saysSame hr hp hq
  intro env c text config registry p hs hready ht hstates hrules htags hopen hp piped named namedRun
  have hsame : List.Forall₂ Finding.SaysSame piped.findings named.findings :=
    Lint.run_saysSame (Registry.provided_of_build hready.built) (holds_piped ht hopen) hp
  have hpiped := hready.check_eq hrules htags
  have hnamed := (hready.named hs p).check_eq hrules htags
  have hinputs : allInputs env c text = [env.stdinPath] := by simp [allInputs, ht, hstates]
  rw [hinputs] at hpiped
  obtain ⟨hcode, hout⟩ := Prod.ext_iff.mp hpiped
  obtain ⟨hcode', hout'⟩ := Prod.ext_iff.mp hnamed
  refine ⟨hout, hout', ?_, hsame⟩
  have hempty : piped.findings = [] ↔ named.findings = [] := by
    rw [← List.length_eq_zero_iff, ← List.length_eq_zero_iff, hsame.length_eq]
  calc (run env c).code = if piped.findings = [] then 0 else 2 := hcode.trans (check_code _ _)
    _ = if named.findings = [] then 0 else 2 := by simp only [hempty]
    _ = namedRun.code := (hcode'.trans (check_code _ _)).symm

/-- The text of the file behind `web`, piped in. -/
def pipedWeb : Environment where
  fs := Lint.webFiles
  configDir := none
  home := none
  logFilter := none
  stdin := "nginx:\t \n".toUTF8
  stdinPath := ⟨"/tmp/piped.sls"⟩
  onTerminal := false

def webConfig : Config := { Config.default with excludePaths := ⟨some ⟨"/srv"⟩, []⟩ }

/-- The input `web`, another spelling of its file, and the same text on standard input. -/
theorem same_text_same_findings_web :
    let registry : Registry := ⟨webConfig, Builtin.rules⟩
    let byDirectory := Lint.run registry webConfig Lint.webFiles [⟨"web"⟩]
    let byName := Lint.run registry webConfig Lint.webFiles [⟨"./web/init.sls"⟩]
    let piped := Lint.run registry webConfig (files pipedWeb "nginx:\t \n") [⟨"/tmp/piped.sls"⟩]
    byDirectory.size = 2 ∧
      List.Forall₂ Finding.SaysSame byDirectory.findings byName.findings ∧
      (run pipedWeb {}).stdout = piped.render .plain false ∧
      (run (unpiped pipedWeb) { states := [⟨"web"⟩] }).stdout = byDirectory.render .plain false ∧
      List.Forall₂ Finding.SaysSame piped.findings byDirectory.findings := by
  intro registry byDirectory byName piped
  have hopen : ∀ file ∈ [(⟨"web/init.sls"⟩ : Path), ⟨"./web/init.sls"⟩, ⟨"/tmp/piped.sls"⟩],
      Lint.Unfiltered registry webConfig file := by decide
  have hdir : Lint.Holds registry webConfig Lint.webFiles ⟨"web"⟩ "nginx:\t \n" :=
    ⟨rfl, hopen _ (by decide)⟩
  have hname : Lint.Holds registry webConfig Lint.webFiles ⟨"./web/init.sls"⟩ "nginx:\t \n" :=
    ⟨rfl, hopen _ (by decide)⟩
  have hrules : ∀ rule ∈ registry.rules, rule.Provided :=
    fun rule => Rule.provided_of_mem_builtin
  have hready : Ready pipedWeb {} "nginx:\t \n" webConfig registry :=
    ⟨rfl, rfl, .inr (.inr (by decide)), rfl⟩
  have hsize : byDirectory.size = 2 := by
    rw [Lint.run_size]
    decide +kernel
  obtain ⟨hpiped, hnamed, -, hsame⟩ := same_text_same_findings.2 pipedWeb {} _ webConfig registry
    ⟨"web"⟩ ⟨rfl, "/tmp/piped", rfl⟩ hready (by decide) rfl rfl rfl (hopen _ (by decide)) hdir
  exact ⟨hsize, same_text_same_findings.1 _ _ _ _ _ _ hrules hdir hname, hpiped, hnamed, hsame⟩

end Program

end StateLint
