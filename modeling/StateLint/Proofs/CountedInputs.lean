import Mathlib.Data.Finset.Card
import Mathlib.Data.List.Induction
import StateLint.Lint
import StateLint.Proofs.FirstComers
import StateLint.Proofs.ReportOrder

/-! # Which inputs are checked

A run threads a set of claimed files through its inputs. What the set does is said here without it:
an input counts if its file is not excluded and no earlier input that is not excluded has the key of
that file. The report of a run is made from the inputs that count, in their order. -/
namespace StateLint.Lint

variable {registry : Registry} {config : Config} {fs : FileSystem}

/-- The file that an input stands for. -/
def fileOf (fs : FileSystem) (input : Path) : Path := (StateFile.ofInput fs input).path

def keyOf (fs : FileSystem) (input : Path) : List Path.Component := fs.key (fileOf fs input)

/-- The file behind the input is not excluded. -/
def Admitted (config : Config) (fs : FileSystem) (input : Path) : Prop :=
  config.isExcluded (fileOf fs input) = false

instance (input : Path) : Decidable (Admitted config fs input) :=
  inferInstanceAs (Decidable (_ = false))

/-- The input is admitted, and no admitted input before it names the same file. -/
def Counts (config : Config) (fs : FileSystem) (before : List Path) (input : Path) : Prop :=
  Admitted config fs input ∧ ∀ p ∈ before, Admitted config fs p → keyOf fs p ≠ keyOf fs input

instance (before : List Path) (input : Path) : Decidable (Counts config fs before input) :=
  inferInstanceAs (Decidable (_ ∧ ∀ p ∈ before, _ → _))

/-- The inputs that count, in their order. -/
def counted (config : Config) (fs : FileSystem) (inputs : List Path) : List Path :=
  (inputs.zipIdx.filter fun e => Counts config fs (inputs.take e.2) e.1).map Prod.fst

def contribution (registry : Registry) (config : Config) (fs : FileSystem) (input : Path) :
    List Finding :=
  registry.run fs (StateFile.ofInput fs input) config.tags config.skipList

theorem counted_nil : counted config fs [] = [] := rfl

theorem counted_concat (inputs : List Path) (p : Path) :
    counted config fs (inputs ++ [p]) =
      counted config fs inputs ++ if Counts config fs inputs p then [p] else [] := by
  have h : counted config fs (inputs ++ [p]) =
      counted config fs inputs ++ if decide (Counts config fs inputs p) then [p] else [] :=
    chosenByPast_concat (fun before p => decide (Counts config fs before p)) inputs p
  simpa only [decide_eq_true_eq] using h

/-- The inputs that count are the first comers among the admitted ones. -/
theorem counted_eq_firstsBy (inputs : List Path) :
    counted config fs inputs =
      firstsBy (keyOf fs) (inputs.filter fun p => Admitted config fs p) := by
  induction inputs using List.reverseRecOn with
  | nil => rfl
  | append_singleton inputs p ih =>
    rw [counted_concat, ih, List.filter_append]
    by_cases hp : Admitted config fs p
    · have hc : Counts config fs inputs p ↔
          keyOf fs p ∉ (inputs.filter fun p => Admitted config fs p).map (keyOf fs) := by
        simp [Counts, hp]
      rw [List.filter_cons_of_pos (by simpa using hp), List.filter_nil, firstsBy_concat]
      by_cases hk : Counts config fs inputs p
      · rw [if_pos hk, if_neg (hc.mp hk)]
      · rw [if_neg hk, if_pos (not_not.mp (mt hc.mpr hk))]
    · have hc : ¬ Counts config fs inputs p := fun h => hp h.1
      rw [if_neg hc, List.filter_cons_of_neg (by simpa using hp), List.filter_nil, List.append_nil,
        List.append_nil]

theorem mem_counted_keys {inputs : List Path} {k : List Path.Component} :
    k ∈ (counted config fs inputs).map (keyOf fs) ↔
      ∃ p ∈ inputs, Admitted config fs p ∧ keyOf fs p = k := by
  rw [counted_eq_firstsBy, mem_map_firstsBy]
  simp [and_assoc]

theorem counts_iff {inputs : List Path} {p : Path} :
    Counts config fs inputs p ↔
      Admitted config fs p ∧ keyOf fs p ∉ (counted config fs inputs).map (keyOf fs) := by
  rw [mem_counted_keys]
  constructor
  · rintro ⟨hp, hk⟩
    exact ⟨hp, fun ⟨q, hq, hqa, he⟩ => hk q hq hqa he⟩
  · rintro ⟨hp, hk⟩
    exact ⟨hp, fun q hq hqa he => hk ⟨q, hq, hqa, he⟩⟩

theorem counted_keys_nodup (inputs : List Path) :
    ((counted config fs inputs).map (keyOf fs)).Nodup := by
  rw [counted_eq_firstsBy]
  exact nodup_map_firstsBy _ _

/-- One input: it is checked if it is admitted and its key is not claimed. -/
theorem checkInput_eq (checked : CheckedFiles) (p : Path) :
    checkInput registry config fs checked p =
      if Admitted config fs p ∧ keyOf fs p ∉ checked.keys then
        (contribution registry config fs p, ⟨checked.keys ++ [keyOf fs p]⟩)
      else ([], checked) := by
  unfold checkInput files Admitted keyOf fileOf contribution
  by_cases he : config.isExcluded (StateFile.ofInput fs p).path
  · simp [he, checkFiles]
  · by_cases hk : fs.key (StateFile.ofInput fs p).path ∈ checked.keys
    · simp [he, hk, checkFiles, checkFile, CheckedFiles.claim, CheckedFiles.contains]
    · simp [he, hk, checkFiles, checkFile, CheckedFiles.claim, CheckedFiles.contains]

/-- What holds of a run after the inputs `done`. -/
structure Progress (registry : Registry) (config : Config) (fs : FileSystem) (done : List Path)
    (report : Report) (checked : CheckedFiles) : Prop where
  findings : report.findings =
    (counted config fs done).flatMap (contribution registry config fs)
  keys : checked.keys = (counted config fs done).map (keyOf fs)

theorem Progress.step {done : List Path} {report : Report} {checked : CheckedFiles}
    (h : Progress registry config fs done report checked) (p : Path) :
    Progress registry config fs (done ++ [p])
      (report.extend (checkInput registry config fs checked p).1)
      (checkInput registry config fs checked p).2 := by
  simp only [checkInput_eq, h.keys, ← counts_iff]
  by_cases hp : Counts config fs done p
  · constructor
    · simp [hp, counted_concat, Report.extend, h.findings]
    · simp [hp, counted_concat]
  · constructor
    · simp [hp, counted_concat, Report.extend, h.findings]
    · simp [hp, counted_concat, h.keys]

theorem Progress.run {done : List Path} {report : Report} {checked : CheckedFiles}
    (h : Progress registry config fs done report checked) (inputs : List Path) :
    Progress registry config fs (done ++ inputs)
      (checkInputs registry config fs report checked inputs).1
      (checkInputs registry config fs report checked inputs).2 := by
  induction inputs generalizing done report checked with
  | nil => simpa [checkInputs] using h
  | cons p inputs ih => simpa [checkInputs] using ih (h.step p)

theorem progress (registry : Registry) (config : Config) (fs : FileSystem) (inputs : List Path) :
    Progress registry config fs inputs (checkInputs registry config fs .empty .empty inputs).1
      (claimed registry config fs inputs) := by
  have h : Progress registry config fs [] .empty .empty := ⟨rfl, rfl⟩
  exact h.run inputs

theorem run_eq (registry : Registry) (config : Config) (fs : FileSystem) (inputs : List Path) :
    run registry config fs inputs =
      ⟨Finding.sort ((counted config fs inputs).flatMap (contribution registry config fs))⟩ := by
  rw [← (progress registry config fs inputs).findings]
  rfl

theorem run_size (registry : Registry) (config : Config) (fs : FileSystem) (inputs : List Path) :
    (run registry config fs inputs).size =
      ((counted config fs inputs).flatMap (contribution registry config fs)).length := by
  rw [run_eq]
  exact (Finding.sort_perm _).length_eq

/-- A directory with one file, which has two spellings. Its first line has a tab in it and ends with
a blank. -/
def webFiles : FileSystem where
  workingDir := ⟨"/srv"⟩
  canonical? p :=
    if p.text ∈ ["web/init.sls", "./web/init.sls"] then some ⟨"/srv/web/init.sls"⟩
    else if p.text = "web" then some ⟨"/srv/web"⟩
    else none
  isDir p := p.text = "web"
  isFile p := p.text ∈ ["web/init.sls", "./web/init.sls"]
  read p :=
    if p.text ∈ ["web/init.sls", "./web/init.sls"] then .ok "nginx:\t \n" else .error .notFound
  names p := if p.text = "web" then ["init.sls"] else []

example : counted .default webFiles [⟨"./web/init.sls"⟩, ⟨"web"⟩, ⟨"web/init.sls"⟩, ⟨"db"⟩] =
    [⟨"./web/init.sls"⟩, ⟨"db"⟩] := by decide +kernel

end StateLint.Lint
