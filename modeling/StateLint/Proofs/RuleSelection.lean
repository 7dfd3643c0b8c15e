import StateLint.Proofs.BlankText
import StateLint.Proofs.CountedInputs
import StateLint.Rule.Builtin

/-! # Which rules are run on a file

Options and configuration files name rules by ids and tags, in texts with commas between the names.
Which rules are run is said here in terms of these texts, and not of the sets that are made of
them. A piece with nothing but blanks names no rule, not even one with an empty tag. -/
namespace StateLint

namespace Rule

/-- What a rule is called: by its id, and by each of its tags. -/
def names (r : Rule) : List String := r.id :: r.tags

theorem mem_keys {r : Rule} {key : String} : key ∈ r.keys ↔ key ∈ r.names := by
  rw [keys, Keys.mem_insert, Keys.mem_ofList, names, List.mem_cons]

end Rule

namespace Config

/-- The texts that pick rules: those of the options, then those of the file. -/
def tagEntries (options : Options) (file : ConfigFile) : List String :=
  options.tags ++
    match file.tags with
    | none => []
    | some (.one text) => [text]
    | some (.many items) => items.map Label.text

/-- The texts that skip rules; a number is written in decimal. -/
def skipEntries (options : Options) (file : ConfigFile) : List String :=
  options.skipList ++ file.skipList.map Label.text

/-- There are blanks between the commas of the entries, and nothing else. -/
def AllBlank (entries : List String) : Prop :=
  ∀ entry ∈ entries, ∀ piece ∈ commaPieces entry, IsBlankText piece

/-- Some piece of an entry that is not blank is a name of the rule, up to the blanks around it. -/
def Picks (entries : List String) (rule : Rule) : Prop :=
  ∃ entry ∈ entries, ∃ piece ∈ commaPieces entry, ¬ IsBlankText piece ∧ trimmed piece ∈ rule.names

/-- The file is exempt from none of the names of the rule. -/
def Applies (config : Config) (path : Path) (rule : Rule) : Prop :=
  ∀ name ∈ rule.names, config.isIgnored path name = false

instance (entries : List String) : Decidable (AllBlank entries) :=
  inferInstanceAs (Decidable (∀ entry ∈ entries, ∀ piece ∈ commaPieces entry, _))

instance (entries : List String) (rule : Rule) : Decidable (Picks entries rule) :=
  inferInstanceAs (Decidable (∃ entry ∈ entries, ∃ piece ∈ commaPieces entry, _ ∧ _))

instance (config : Config) (path : Path) (rule : Rule) : Decidable (config.Applies path rule) :=
  inferInstanceAs (Decidable (∀ name ∈ rule.names, _))

theorem mem_keysOf {entries : List String} {key : String} :
    key ∈ keysOf entries ↔
      key ≠ "" ∧ ∃ entry ∈ entries, ∃ piece ∈ commaPieces entry, trimmed piece = key := by
  rw [keysOf, Keys.mem_ofList, List.mem_filter]
  simp only [List.mem_map, List.mem_flatMap, Bool.not_eq_true', String.isEmpty_eq_false_iff]
  constructor
  · rintro ⟨⟨piece, ⟨entry, he, hp⟩, rfl⟩, hne⟩
    exact ⟨hne, entry, he, piece, hp, rfl⟩
  · rintro ⟨hne, entry, he, piece, hp, rfl⟩
    exact ⟨⟨piece, ⟨entry, he, hp⟩, rfl⟩, hne⟩

theorem keysOf_eq_nil_iff {entries : List String} : keysOf entries = [] ↔ AllBlank entries := by
  rw [List.eq_nil_iff_forall_not_mem]
  simp only [mem_keysOf]
  constructor
  · intro h entry he piece hp
    by_contra hb
    exact h (trimmed piece) ⟨fun ht => hb (trimmed_eq_empty_iff.mp ht), entry, he, piece, hp, rfl⟩
  · rintro h key ⟨hne, entry, he, piece, hp, rfl⟩
    exact hne (trimmed_eq_empty_iff.mpr (h entry he piece hp))

theorem tagEntries_eq (options : Options) (file : ConfigFile) :
    tagEntries options file = options.tags ++ (file.tags.map Entries.texts).getD [] := by
  unfold tagEntries
  rcases file.tags with _ | text | items <;> rfl

/-- The sets of a resolved configuration are those of the entries of both sources. -/
theorem resolve_eq_ok {here : Path} {options : Options} {file : ConfigFile} {config : Config}
    (h : resolve here options file = .ok config) :
    config.tags = keysOf (tagEntries options file) ∧
      config.skipList = keysOf (skipEntries options file) := by
  unfold resolve at h
  split at h
  · cases h
  split at h
  · cases h
  · cases h
    exact ⟨by rw [tagEntries_eq], rfl⟩

end Config

namespace Registry

theorem hasKeyIn_iff {rule : Rule} {keys : List String} :
    hasKeyIn rule keys = true ↔ ∃ name ∈ rule.names, name ∈ keys := by
  simp [hasKeyIn, Rule.mem_keys]

theorem hasKeyIn_keysOf {rule : Rule} {entries : List String} :
    hasKeyIn rule (Config.keysOf entries) = true ↔ Config.Picks entries rule := by
  rw [hasKeyIn_iff]
  simp only [Config.mem_keysOf]
  constructor
  · rintro ⟨name, hn, hne, entry, he, piece, hp, rfl⟩
    exact ⟨entry, he, piece, hp, fun hb => hne (trimmed_eq_empty_iff.mpr hb), hn⟩
  · rintro ⟨entry, he, piece, hp, hb, hn⟩
    exact ⟨trimmed piece, hn, fun ht => hb (trimmed_eq_empty_iff.mp ht), entry, he, piece, hp, rfl⟩

theorem isSelected_keysOf {rule : Rule} {entries : List String} :
    isSelected (Config.keysOf entries) rule = true ↔
      Config.AllBlank entries ∨ Config.Picks entries rule := by
  rw [isSelected, Bool.or_eq_true, List.isEmpty_iff, Config.keysOf_eq_nil_iff, hasKeyIn_keysOf]

theorem ignoringKey?_isNone_iff {config : Config} {path : Path} {rule : Rule} :
    (ignoringKey? config path rule).isNone = true ↔ config.Applies path rule := by
  simp [ignoringKey?, Config.Applies, Rule.mem_keys]

/-- Whether a rule is run on a file, in terms of what options and file say. -/
def IsChosen (options : Options) (file : ConfigFile) (config : Config) (path : Path) (rule : Rule) :
    Prop :=
  (Config.AllBlank (Config.tagEntries options file) ∨
      Config.Picks (Config.tagEntries options file) rule) ∧
    config.Applies path rule ∧ ¬ Config.Picks (Config.skipEntries options file) rule

instance (options : Options) (file : ConfigFile) (config : Config) (path : Path) (rule : Rule) :
    Decidable (IsChosen options file config path rule) :=
  inferInstanceAs (Decidable ((_ ∨ _) ∧ _ ∧ ¬ _))

theorem runs_iff {here : Path} {options : Options} {file : ConfigFile} {config : Config}
    (hc : Config.resolve here options file = .ok config) {registry : Registry}
    (hr : registry.config = config) {path : Path} {rule : Rule} :
    registry.runs path config.tags config.skipList rule = true ↔
      IsChosen options file config path rule := by
  obtain ⟨ht, hs⟩ := Config.resolve_eq_ok hc
  rw [runs, Bool.and_eq_true, Bool.and_eq_true, Bool.not_eq_true', ← Bool.not_eq_true, ht, hs, hr,
    isSelected_keysOf, ignoringKey?_isNone_iff, hasKeyIn_keysOf, and_assoc, IsChosen]

/-- The findings in a file that can be read are those of the rules that options and configuration
file choose, rule after rule in the order of registration: first in single lines, then in the text
as a whole. -/
theorem run_eq_findings_of_chosen {here : Path} {options : Options} {file : ConfigFile}
    {config : Config} (hc : Config.resolve here options file = .ok config) {registry : Registry}
    (hr : registry.config = config) (fs : FileSystem) (state : StateFile) :
    (∀ text, fs.read state.path = .ok text →
      registry.run fs state config.tags config.skipList =
        (registry.rules.filter fun rule =>
          IsChosen options file config state.path rule).flatMap fun rule =>
            rule.lineFindings state text ++ rule.textFindings state text) ∧
    (∀ cause, fs.read state.path = .error cause →
      registry.run fs state config.tags config.skipList = []) := by
  constructor
  · intro text ht
    have hf : registry.rules.filter (registry.runs state.path config.tags config.skipList) =
        registry.rules.filter fun rule => IsChosen options file config state.path rule := by
      apply List.filter_congr
      intro rule _
      rw [Bool.eq_iff_iff, runs_iff hc hr, decide_eq_true_eq]
    simp only [run, ht, hf]
    rfl
  · intro cause he
    simp only [run, he]

/-- Picks rules by a tag that stands behind a blank piece. -/
def tagOptions : Options := { tags := [" , formatting "] }

/-- Skips a rule by a number. -/
def skipFile : ConfigFile := { skipList := [.number 203] }

def tagConfig : Config :=
  { Config.default with
    excludePaths := ⟨some ⟨"/srv"⟩, []⟩, tags := ["formatting"], skipList := ["203"] }

/-- Fires on each line with the name of the file, and at the end of the text. -/
def lineAndText : Rule where
  id := "902"
  summary := "End"
  tags := ["formatting"]
  matchLine file _ := .flaggedWith file.path.text
  matchText _ text := [⟨(lines text).length, "", none⟩]

/-- Of four rules one is skipped, and one has another tag. The first of the others fires both in
single lines and in the text as a whole. -/
theorem run_eq_findings_of_chosen_web :
    let registry : Registry :=
      ⟨tagConfig, [lineAndText, Builtin.tabs, Builtin.trailingBlanks, .inert "901" "None"]⟩
    Config.resolve ⟨"/srv"⟩ tagOptions skipFile = .ok tagConfig ∧
      (registry.run Lint.webFiles ⟨⟨"web/init.sls"⟩, .state⟩ tagConfig.tags
          tagConfig.skipList).map (fun f => (f.rule.id, f.lineNumber, f.message)) =
        [("902", 1, "web/init.sls"), ("902", 2, "web/init.sls"), ("902", 2, "End"),
          ("201", 1, "Trailing whitespace")] := by
  intro registry
  have hc : Config.resolve ⟨"/srv"⟩ tagOptions skipFile = .ok tagConfig := by rfl
  have hboth : IsChosen tagOptions skipFile tagConfig ⟨"web/init.sls"⟩ lineAndText := by
    decide +kernel
  have hskipped : ¬ IsChosen tagOptions skipFile tagConfig ⟨"web/init.sls"⟩ Builtin.tabs := by
    decide +kernel
  have hblanks : IsChosen tagOptions skipFile tagConfig ⟨"web/init.sls"⟩ Builtin.trailingBlanks := by
    decide +kernel
  have hother : ¬ IsChosen tagOptions skipFile tagConfig ⟨"web/init.sls"⟩ (.inert "901" "None") := by
    decide +kernel
  refine ⟨hc, ?_⟩
  rw [(run_eq_findings_of_chosen hc rfl Lint.webFiles ⟨⟨"web/init.sls"⟩, .state⟩).1 _ rfl]
  simp only [registry, List.filter_cons, List.filter_nil, hboth, hskipped, hblanks, hother,
    decide_true, decide_false, if_true, Bool.false_eq_true, if_false]
  decide +kernel

/-- Some piece of an entry, and be it blank, is a name of the rule up to the blanks around it. -/
def Mentions (entries : List String) (rule : Rule) : Prop :=
  ∃ entry ∈ entries, ∃ piece ∈ commaPieces entry, trimmed piece ∈ rule.names

instance (entries : List String) (rule : Rule) : Decidable (Mentions entries rule) :=
  inferInstanceAs (Decidable (∃ entry ∈ entries, ∃ piece ∈ commaPieces entry, _))

/-- A rule that looks for tabs, and whose only tag is empty. -/
def emptyTagFile : String :=
  "[[rule]]\nid = \"901\"\nshortdesc = \"Tab\"\ntags = [\"\"]\npattern = '\\t'\n"

def emptyTagRules : List Rule := (RuleFile.parse emptyTagFile).toOption.getD []

/-- An empty entry does not skip a rule with an empty tag. -/
theorem blank_piece_skips_no_rule :
    ¬ ∀ (here : Path) (options : Options) (file : ConfigFile) (config : Config)
        (registry : Registry) (fs : FileSystem) (state : StateFile) (text : String),
      Config.resolve here options file = .ok config → registry.config = config →
      fs.read state.path = .ok text →
      registry.run fs state config.tags config.skipList =
        (registry.rules.filter fun rule =>
          (Config.AllBlank (Config.tagEntries options file) ∨
              Mentions (Config.tagEntries options file) rule) ∧
            config.Applies state.path rule ∧
            ¬ Mentions (Config.skipEntries options file) rule).flatMap fun rule =>
              rule.lineFindings state text ++ rule.textFindings state text := by
  intro h
  let config : Config := { Config.default with excludePaths := ⟨some ⟨"/srv"⟩, []⟩ }
  have hc : Config.resolve ⟨"/srv"⟩ { skipList := [""] } {} = .ok config := by rfl
  have hr := h _ _ _ config ⟨config, emptyTagRules⟩ Lint.webFiles ⟨⟨"web/init.sls"⟩, .state⟩ _ hc
    rfl rfl
  have hl := congrArg List.length hr
  revert hl
  decide +kernel

end Registry

end StateLint
