import StateLint.Proofs.RuleFileFaults
import StateLint.Proofs.RuleFilePaths

/-! # When a rule directory is loaded, and what is wrong with it otherwise

The files of a directory are visited one after the other, with a table of the ids so far and the
files that they come from. What the table does is said here without it: a file is at fault if it
cannot be read, if its text is no rule file, or if it has an id of an earlier file. A directory is
loaded if and only if no file is at fault, and otherwise the first such file is told. -/
namespace StateLint

namespace RuleDirectory

variable {fs : FileSystem}

/-- The file can be read, and its text is a rule file. -/
def Loads (fs : FileSystem) (file : Path) : Prop :=
  ∃ text rules, fs.read file = .ok text ∧ RuleFile.parse text = .ok rules

/-- The rules of a file; none if it does not load. -/
def rulesIn (fs : FileSystem) (file : Path) : List Rule :=
  match fs.read file with
  | .error _ => []
  | .ok text =>
    match RuleFile.parse text with
    | .error _ => []
    | .ok rules => rules

def Defines (fs : FileSystem) (file : Path) (id : String) : Prop :=
  ∃ rule ∈ rulesIn fs file, rule.id = id

/-- All files load, and no id occurs in two of them. -/
structure Sound (fs : FileSystem) (files : List Path) : Prop where
  loads : ∀ file ∈ files, Loads fs file
  apart : files.Pairwise fun a b => ∀ id, Defines fs a id → ¬ Defines fs b id

/-- What is wrong with a file that comes after some others. -/
inductive Fault (fs : FileSystem) (earlier : List Path) (file : Path) :
    RuleDirectoryError → Prop where
  | unreadable {cause : ReadError} (h : fs.read file = .error cause) :
      Fault fs earlier file (.unreadable file cause)
  | malformed {text : String} {cause : RuleFileError} (hr : fs.read file = .ok text)
      (h : RuleFile.parse text = .error cause) : Fault fs earlier file (.inFile file cause)
  /-- The rule is the first of the file whose id is taken, and `first` is the first file that has
  the id. -/
  | repeated {text : String} {before after : List Rule} {rule : Rule} {older newer : List Path}
      {first : Path} (hr : fs.read file = .ok text)
      (hp : RuleFile.parse text = .ok (before ++ rule :: after))
      (hb : ∀ r ∈ before, ∀ f ∈ earlier, ¬ Defines fs f r.id)
      (he : earlier = older ++ first :: newer) (hf : Defines fs first rule.id)
      (ho : ∀ f ∈ older, ¬ Defines fs f rule.id) :
      Fault fs earlier file (.repeatedId rule.id file first)

theorem rulesIn_of_parse {file : Path} {text : String} {rules : List Rule}
    (hr : fs.read file = .ok text) (hp : RuleFile.parse text = .ok rules) :
    rulesIn fs file = rules := by
  simp only [rulesIn, hr, hp]

theorem rulesIn_ids_nodup (fs : FileSystem) (file : Path) :
    ((rulesIn fs file).map Rule.id).Nodup := by
  unfold rulesIn
  split
  · exact List.nodup_nil
  split
  · exact List.nodup_nil
  · next hp => exact RuleFile.parse_ids_nodup hp

theorem sound_concat {files : List Path} {file : Path} :
    Sound fs (files ++ [file]) ↔
      Sound fs files ∧ Loads fs file ∧ ∀ f ∈ files, ∀ id, Defines fs f id → ¬ Defines fs file id := by
  constructor
  · intro h
    obtain ⟨hfiles, -, hlast⟩ := List.pairwise_append.mp h.apart
    refine ⟨⟨fun f hf => h.loads f (by simp [hf]), hfiles⟩, h.loads file (by simp), ?_⟩
    intro f hf
    exact hlast f hf file (by simp)
  · rintro ⟨h, hl, ha⟩
    constructor
    · intro f hf
      rcases List.mem_append.mp hf with hf | hf
      · exact h.loads f hf
      · rw [List.mem_singleton.mp hf]
        exact hl
    · refine List.pairwise_append.mpr ⟨h.apart, by simp, ?_⟩
      intro f hf g hg
      rw [List.mem_singleton.mp hg]
      exact ha f hf

theorem Sound.of_append {before after : List Path} (h : Sound fs (before ++ after)) :
    Sound fs before where
  loads f hf := h.loads f (List.mem_append_left after hf)
  apart := (List.pairwise_append.mp h.apart).1

theorem Fault.not_sound {earlier : List Path} {file : Path} {e : RuleDirectoryError}
    (h : Fault fs earlier file e) : ¬ Sound fs (earlier ++ [file]) := by
  intro hs
  obtain ⟨-, ⟨text, rules, hr, hp⟩, ha⟩ := sound_concat.mp hs
  cases h with
  | unreadable h => cases h.symm.trans hr
  | malformed hr' h =>
    obtain rfl := Except.ok.inj (hr'.symm.trans hr)
    cases h.symm.trans hp
  | @repeated _ before after rule _ _ first hr' hp' _ he hf _ =>
    refine ha first (by simp [he]) rule.id hf ⟨rule, ?_, rfl⟩
    rw [rulesIn_of_parse hr' hp']
    simp

/-- The ids of some files, each with the file that it comes from. -/
def definedBy (fs : FileSystem) (files : List Path) : List (String × Path) :=
  files.flatMap fun file => (rulesIn fs file).map fun rule => (rule.id, file)

theorem definedBy_concat (files : List Path) (file : Path) :
    definedBy fs (files ++ [file]) =
      definedBy fs files ++ (rulesIn fs file).map fun rule => (rule.id, file) := by
  simp [definedBy]

theorem mem_definedBy {files : List Path} {d : String × Path} :
    d ∈ definedBy fs files ↔ d.2 ∈ files ∧ Defines fs d.2 d.1 := by
  simp only [definedBy, List.mem_flatMap, List.mem_map, Defines]
  constructor
  · rintro ⟨file, hf, rule, hr, rfl⟩
    exact ⟨hf, rule, hr, rfl⟩
  · rintro ⟨hf, rule, hr, he⟩
    exact ⟨d.2, hf, rule, hr, by rw [he]⟩

theorem find?_definedBy_eq_none {files : List Path} {id : String} :
    (definedBy fs files).find? (fun d => d.1 = id) = none ↔ ∀ f ∈ files, ¬ Defines fs f id := by
  simp only [List.find?_eq_none, decide_eq_true_eq]
  constructor
  · intro h f hf hd
    exact h (id, f) (mem_definedBy.mpr ⟨hf, hd⟩) rfl
  · rintro h d hd rfl
    obtain ⟨hf, hdef⟩ := mem_definedBy.mp hd
    exact h d.2 hf hdef

/-- The table gives the first file that has the id. -/
theorem find?_definedBy_eq_some {files : List Path} {id : String} {d : String × Path}
    (h : (definedBy fs files).find? (fun d => d.1 = id) = some d) :
    ∃ older newer, files = older ++ d.2 :: newer ∧ Defines fs d.2 id ∧
      ∀ f ∈ older, ¬ Defines fs f id := by
  induction files with
  | nil => cases h
  | cons file files ih =>
    have hc : definedBy fs (file :: files) = definedBy fs [file] ++ definedBy fs files := by
      simp [definedBy]
    rw [hc, List.find?_append] at h
    cases hh : (definedBy fs [file]).find? (fun d => d.1 = id) with
    | some own =>
      rw [hh] at h
      obtain rfl := Option.some.inj h
      obtain ⟨hfile, hdef⟩ := mem_definedBy.mp (List.mem_of_find?_eq_some hh)
      have hid : own.1 = id := by simpa using List.find?_some hh
      refine ⟨[], files, ?_, hid ▸ hdef, by simp⟩
      rw [List.mem_singleton.mp hfile, List.nil_append]
    | none =>
      rw [hh, Option.none_or] at h
      obtain ⟨older, newer, rfl, hdef, hnot⟩ := ih h
      refine ⟨file :: older, newer, rfl, hdef, ?_⟩
      have hfile := find?_definedBy_eq_none.mp hh file (by simp)
      simpa [hfile] using hnot

/-- The rules of one file are all new, or the first that is not is told. Ids within the file do not
matter, for they are distinct. -/
theorem addRules_cases (file : Path) (defined : List (String × Path)) {rules : List Rule}
    (hn : (rules.map Rule.id).Nodup) :
    ((∀ rule ∈ rules, defined.find? (fun d => d.1 = rule.id) = none) ∧
      addRules file defined rules = .ok (defined ++ rules.map fun rule => (rule.id, file))) ∨
    ∃ before rule after d, rules = before ++ rule :: after ∧
      (∀ r ∈ before, defined.find? (fun d => d.1 = r.id) = none) ∧
      defined.find? (fun d => d.1 = rule.id) = some d ∧
      addRules file defined rules = .error (.repeatedId rule.id file d.2) := by
  induction rules generalizing defined with
  | nil => exact .inl ⟨by simp, by simp [addRules]⟩
  | cons rule rules ih =>
    cases hf : defined.find? (fun d => d.1 = rule.id) with
    | some d => exact .inr ⟨[], rule, rules, d, rfl, by simp, hf, by simp only [addRules, hf]⟩
    | none =>
      rw [List.map_cons, List.nodup_cons] at hn
      have hadd : addRules file defined (rule :: rules) =
          addRules file (defined ++ [(rule.id, file)]) rules := by
        simp only [addRules, hf]
      -- The entry of this rule answers for no later rule of the file.
      have hfind : ∀ r ∈ rules, (defined ++ [(rule.id, file)]).find? (fun d => d.1 = r.id) =
          defined.find? fun d => d.1 = r.id := by
        intro r hr
        have hne : rule.id ≠ r.id := fun he => hn.1 (he ▸ List.mem_map_of_mem hr)
        simp [List.find?_append, hne]
      rw [hadd]
      rcases ih (defined ++ [(rule.id, file)]) hn.2 with ⟨hnew, hok⟩ |
        ⟨before, other, after, d, hsplit, hnew, hd, herr⟩
      · refine .inl ⟨?_, by simp [hok]⟩
        intro r hr
        rcases List.mem_cons.mp hr with rfl | hr
        · exact hf
        · rw [← hfind r hr]
          exact hnew r hr
      · refine .inr ⟨rule :: before, other, after, d, by rw [hsplit]; rfl, ?_, ?_, herr⟩
        · intro r hr
          rcases List.mem_cons.mp hr with rfl | hr
          · exact hf
          · rw [← hfind r (by simp [hsplit, hr])]
            exact hnew r hr
        · rw [← hfind other (by simp [hsplit])]
          exact hd

/-- One file: it is at fault, or it joins the files before it. -/
theorem visit_cases (fs : FileSystem) (earlier : List Path) (file : Path) :
    (∃ e, Fault fs earlier file e ∧ visit fs (definedBy fs earlier) file = .error e) ∨
      (Loads fs file ∧ (∀ f ∈ earlier, ∀ id, Defines fs f id → ¬ Defines fs file id) ∧
        visit fs (definedBy fs earlier) file =
          .ok (rulesIn fs file, definedBy fs (earlier ++ [file]))) := by
  cases hr : fs.read file with
  | error cause => exact .inl ⟨_, .unreadable hr, by simp only [visit, loadFile, hr]⟩
  | ok text =>
    cases hp : RuleFile.parse text with
    | error cause => exact .inl ⟨_, .malformed hr hp, by simp only [visit, loadFile, hr, hp]⟩
    | ok rules =>
      have hin := rulesIn_of_parse hr hp
      rcases addRules_cases file (definedBy fs earlier) (RuleFile.parse_ids_nodup hp) with
        ⟨hnew, hok⟩ | ⟨before, rule, after, d, rfl, hnew, hd, herr⟩
      · refine .inr ⟨⟨text, rules, hr, hp⟩, ?_, ?_⟩
        · rintro f hf id hdef ⟨rule, hrule, rfl⟩
          rw [hin] at hrule
          exact find?_definedBy_eq_none.mp (hnew rule hrule) f hf hdef
        · simp only [visit, loadFile, hr, hp, hok, hin, definedBy_concat]
      · obtain ⟨older, newer, he, hdef, hnot⟩ := find?_definedBy_eq_some hd
        refine .inl ⟨_, .repeated hr hp ?_ he hdef hnot, by simp only [visit, loadFile, hr, hp, herr]⟩
        intro r hrb
        exact find?_definedBy_eq_none.mp (hnew r hrb)

theorem loadFiles_cases (earlier files : List Path) (hs : Sound fs earlier) :
    (Sound fs (earlier ++ files) ∧
      loadFiles fs (definedBy fs earlier) files = .ok (files.flatMap (rulesIn fs))) ∨
    ∃ before file after e, files = before ++ file :: after ∧ Sound fs (earlier ++ before) ∧
      Fault fs (earlier ++ before) file e ∧
      loadFiles fs (definedBy fs earlier) files = .error e := by
  induction files generalizing earlier with
  | nil => exact .inl ⟨by simpa using hs, rfl⟩
  | cons file files ih =>
    rcases visit_cases fs earlier file with ⟨e, hfault, hv⟩ | ⟨hl, ha, hv⟩
    · exact .inr ⟨[], file, files, e, rfl, by simpa using hs, by simpa using hfault,
        by simp only [loadFiles, hv]⟩
    · rcases ih (earlier ++ [file]) (sound_concat.mpr ⟨hs, hl, ha⟩) with
        ⟨hsound, hok⟩ | ⟨before, bad, after, e, rfl, hsound, hfault, herr⟩
      · exact .inl ⟨by simpa using hsound, by simp only [loadFiles, hv, hok, List.flatMap_cons]⟩
      · exact .inr ⟨file :: before, bad, after, e, rfl, by simpa using hsound,
          by simpa using hfault, by simp only [loadFiles, hv, herr]⟩

theorem load_cases {dir : Path} (hd : fs.isDir dir = true) :
    (Sound fs (files fs dir) ∧ load fs dir = .ok ((files fs dir).flatMap (rulesIn fs))) ∨
      ∃ before file after e, files fs dir = before ++ file :: after ∧ Sound fs before ∧
        Fault fs before file e ∧ load fs dir = .error e := by
  have hnone : Sound fs [] := ⟨by simp, .nil⟩
  rw [load, if_pos hd]
  exact loadFiles_cases [] (files fs dir) hnone

theorem Sound.ids_nodup {files : List Path} (h : Sound fs files) :
    ((files.flatMap (rulesIn fs)).map Rule.id).Nodup := by
  rw [List.map_flatMap, List.nodup_flatMap]
  refine ⟨fun file _ => rulesIn_ids_nodup fs file, h.apart.imp ?_⟩
  intro a b hab id ha hb
  exact hab id (List.mem_map.mp ha) (List.mem_map.mp hb)

theorem loadFiles_congr {fs' : FileSystem} {files : List Path}
    (h : ∀ file ∈ files, fs'.read file = fs.read file) (defined : List (String × Path)) :
    loadFiles fs' defined files = loadFiles fs defined files := by
  induction files generalizing defined with
  | nil => rfl
  | cons file files ih =>
    have hv : visit fs' defined file = visit fs defined file := by
      unfold visit loadFile
      rw [h file List.mem_cons_self]
    have hrest := ih fun f hf => h f (List.mem_cons_of_mem file hf)
    simp only [loadFiles, hv, hrest]

/-- What is loaded depends on the files of the directory, and on nothing else. -/
theorem load_congr {fs' : FileSystem} {dir : Path} (hd : fs'.isDir dir = fs.isDir dir)
    (hf : files fs' dir = files fs dir) (hr : ∀ file ∈ files fs dir, fs'.read file = fs.read file) :
    load fs' dir = load fs dir := by
  unfold load
  rw [hd, hf, loadFiles_congr hr]

/-- The order in which a directory is listed does not matter: its files are taken in the order of
their paths. It is loaded if and only if all of them load and no id occurs in two of them, and then
gives their rules one file after the other, with distinct ids. Otherwise the error is the one of the
first file at fault. -/
theorem load_first_fault {fs : FileSystem} {dir : Path} (hd : fs.isDir dir = true)
    (hn : PlainNames fs dir) :
    (∀ fs' : FileSystem, fs'.isDir dir = true → (listed fs' dir).Perm (listed fs dir) →
      (∀ file ∈ listed fs dir, fs'.read file = fs.read file) → load fs' dir = load fs dir) ∧
    (files fs dir).Perm (listed fs dir) ∧
    (files fs dir).Pairwise (fun a b => (a.compare b).isLE) ∧
    ((∃ rules, load fs dir = .ok rules) ↔ Sound fs (files fs dir)) ∧
    (∀ rules, load fs dir = .ok rules →
      rules = (files fs dir).flatMap (rulesIn fs) ∧ (rules.map Rule.id).Nodup) ∧
    (∀ e, load fs dir = .error e → ∃ before file after,
      files fs dir = before ++ file :: after ∧ Sound fs before ∧ Fault fs before file e) := by
  have hp := files_perm_listed fs dir
  refine ⟨?_, hp, files_sorted hn, ?_⟩
  · intro fs' hd' hl hr
    refine load_congr (hd'.trans hd.symm) (files_eq_of_listed_perm hl) ?_
    intro file hf
    exact hr file (hp.mem_iff.mp hf)
  rcases load_cases hd with ⟨hs, hok⟩ | ⟨before, file, after, e, hsplit, hs, hfault, herr⟩
  · refine ⟨iff_of_true ⟨_, hok⟩ hs, ?_, ?_⟩
    · intro rules h
      obtain rfl := Except.ok.inj (hok.symm.trans h)
      exact ⟨rfl, hs.ids_nodup⟩
    · intro e h
      cases hok.symm.trans h
  · have hnot : ¬ Sound fs (files fs dir) := by
      intro hall
      rw [hsplit, ← List.singleton_append, ← List.append_assoc] at hall
      exact hfault.not_sound hall.of_append
    refine ⟨iff_of_false (fun ⟨rules, h⟩ => ?_) hnot, ?_, ?_⟩
    · cases herr.symm.trans h
    · intro rules h
      cases herr.symm.trans h
    · intro e' h
      obtain rfl := Except.error.inj (herr.symm.trans h)
      exact ⟨before, file, after, hsplit, hs, hfault⟩

/-- A directory with two files, which hold the same rule. -/
def twoFiles (names : List String) : FileSystem where
  workingDir := ⟨"/srv"⟩
  canonical? _ := none
  isDir p := p.text = "rules"
  isFile p := p.text ∈ ["rules/a.toml", "rules/b.toml"]
  read p :=
    if p.text ∈ ["rules/a.toml", "rules/b.toml"] then
      .ok "[[rule]]\nid = \"901\"\nshortdesc = \"Tab\"\npattern = '\\t'\n"
    else .error .notFound
  names p := if p.text = "rules" then names else []

theorem files_twoFiles :
    files (twoFiles ["a.toml", "b.toml"]) ⟨"rules"⟩ = [⟨"rules/a.toml"⟩, ⟨"rules/b.toml"⟩] := by
  rw [files_of_ascending (by decide)]
  rfl

/-- Listed last, `a.toml` still has the id first. -/
theorem load_first_fault_twoFiles :
    let fs := twoFiles ["b.toml", "a.toml"]
    let error : RuleDirectoryError := .repeatedId "901" ⟨"rules/b.toml"⟩ ⟨"rules/a.toml"⟩
    fs.isDir ⟨"rules"⟩ = true ∧ PlainNames fs ⟨"rules"⟩ ∧
      load (twoFiles ["a.toml", "b.toml"]) ⟨"rules"⟩ = load fs ⟨"rules"⟩ ∧
      load fs ⟨"rules"⟩ = .error error ∧
      ∃ before file after, files fs ⟨"rules"⟩ = before ++ file :: after ∧ Sound fs before ∧
        Fault fs before file error := by
  intro fs error
  have hd : fs.isDir ⟨"rules"⟩ = true := by decide
  have hn : PlainNames fs ⟨"rules"⟩ := by
    unfold PlainNames
    decide
  obtain ⟨hsame, -, -, -, -, hfault⟩ := load_first_fault hd hn
  have hother := hsame (twoFiles ["a.toml", "b.toml"]) (by decide) (by decide) fun _ _ => rfl
  have hload : load fs ⟨"rules"⟩ = .error error := by
    rw [← hother, load, if_pos (by decide), files_twoFiles]
    have htold : (loadFiles (twoFiles ["a.toml", "b.toml"]) []
        [⟨"rules/a.toml"⟩, ⟨"rules/b.toml"⟩]).map (fun _ => ()) = .error error := by decide +kernel
    cases hfiles : loadFiles (twoFiles ["a.toml", "b.toml"]) []
        [⟨"rules/a.toml"⟩, ⟨"rules/b.toml"⟩] with
    | ok rules =>
      rw [hfiles] at htold
      cases htold
    | error e =>
      rw [hfiles] at htold
      rw [Except.error.inj htold]
  exact ⟨hd, hn, hother, hload, hfault error hload⟩

end RuleDirectory

end StateLint
