import StateLint.Config

/-! # Which sections of a configuration file take effect

A section is kept under the text of its label. A number and a name can have the same text, and then
one section is lost: names come after numbers, and the later section counts. All other sections are
kept as they are. -/
namespace StateLint

namespace ConfigFile

/-- The labels ascend, so that each occurs once. -/
def Ordered (file : ConfigFile) : Prop :=
  file.rules.Pairwise fun a b => a.1.le b.1 ∧ a.1 ≠ b.1

instance (file : ConfigFile) : Decidable file.Ordered :=
  inferInstanceAs (Decidable (List.Pairwise _ _))

end ConfigFile

namespace Config

variable {here : Path} {sections : List (Label × RuleSection)}
  {sets : List (String × Option PathPatternSet)}

theorem compileSections_cons_eq_ok {label : Label} {sec : RuleSection}
    (h : compileSections here ((label, sec) :: sections) = .ok sets) :
    ∃ set more, compileSection here label sec = .ok set ∧
      compileSections here sections = .ok more ∧
      sets = if more.any fun m => m.1 = label.text then more else (label.text, set) :: more := by
  unfold compileSections at h
  split at h
  · cases h
  · next set hs =>
    split at h
    · cases h
    · next more hm =>
      cases h
      exact ⟨set, more, hs, hm, rfl⟩

theorem exists_label_of_mem (h : compileSections here sections = .ok sets)
    {s : String × Option PathPatternSet} (hs : s ∈ sets) : ∃ x ∈ sections, x.1.text = s.1 := by
  induction sections generalizing sets with
  | nil =>
    cases h
    cases hs
  | cons x sections ih =>
    obtain ⟨set, more, -, hm, rfl⟩ := compileSections_cons_eq_ok h
    split at hs
    · obtain ⟨y, hy, he⟩ := ih hm hs
      exact ⟨y, List.mem_cons_of_mem x hy, he⟩
    · rcases List.mem_cons.mp hs with rfl | hs
      · exact ⟨x, List.mem_cons_self, rfl⟩
      · obtain ⟨y, hy, he⟩ := ih hm hs
        exact ⟨y, List.mem_cons_of_mem x hy, he⟩

/-- Under the text of a label stands the last section with a label of that text. -/
theorem find?_compileSections {before after : List (Label × RuleSection)} {label : Label}
    {sec : RuleSection}
    (h : compileSections here (before ++ (label, sec) :: after) = .ok sets)
    (hl : ∀ x ∈ after, x.1.text ≠ label.text) :
    ∃ set, compileSection here label sec = .ok set ∧
      sets.find? (fun s => s.1 = label.text) = some (label.text, set) := by
  induction before generalizing sets with
  | nil =>
    obtain ⟨set, more, hs, hm, rfl⟩ := compileSections_cons_eq_ok h
    have hn : (more.any fun m => m.1 = label.text) = false := by
      rw [List.any_eq_false]
      intro m hmem
      obtain ⟨x, hx, he⟩ := exists_label_of_mem hm hmem
      simpa [← he] using hl x hx
    exact ⟨set, hs, by simp [hn]⟩
  | cons x before ih =>
    obtain ⟨own, more, -, hm, rfl⟩ := compileSections_cons_eq_ok h
    obtain ⟨set, hs, hf⟩ := ih hm
    refine ⟨set, hs, ?_⟩
    split
    · exact hf
    · next hn =>
      have hne : x.1.text ≠ label.text := by
        intro he
        apply hn
        rw [he, List.any_eq_true]
        exact ⟨_, List.mem_of_find?_eq_some hf, by simp⟩
      rw [List.find?_cons_of_neg (by simpa using hne), hf]

theorem resolve_rules {options : Options} {file : ConfigFile} {config : Config}
    (h : resolve here options file = .ok config) :
    compileSections here file.rules = .ok config.rules := by
  unfold resolve at h
  split at h
  · cases h
  split at h
  · cases h
  · next rules hr =>
    cases h
    exact hr

theorem isIgnored_of_find? {config : Config} {key : String} {set : PathPatternSet}
    (h : config.rules.find? (fun r => r.1 = key) = some (key, some set)) (path : Path) :
    config.isIgnored path key = set.contains path := by
  simp only [isIgnored, h]

theorem compileSection_eq_ok {label : Label} {sec : RuleSection} {entries : Entries}
    {set : Option PathPatternSet} (hi : sec.ignore = some entries)
    (h : compileSection here label sec = .ok set) :
    ∃ own, set = some own ∧ compileEntries here entries = .ok own := by
  simp only [compileSection, hi] at h
  split at h
  · next own ho =>
    cases h
    exact ⟨own, rfl, ho⟩
  · cases h

/-- No two numbers are written in the same way. -/
theorem eq_of_number_text_eq {m n : Int}
    (h : (Label.number m).text = (Label.number n).text) : m = n := by
  have hdigits : ∀ k l : Nat, k.repr = l.repr → k = l := by
    intro k l he
    have hread := congrArg (fun s : String => Nat.ofDigitChars 10 s.toList 0) he
    simpa [Nat.repr_eq_ofList_toDigits, Nat.ofDigitChars_ten_toDigits] using hread
  have hsign : ∀ k l : Nat, k.repr ≠ "-" ++ l.repr := by
    intro k l he
    have hm : '-' ∈ k.repr.toList := by simp [he]
    rw [Nat.repr_eq_ofList_toDigits, String.toList_ofList] at hm
    exact absurd (Nat.isDigit_of_mem_toDigits (by decide) (by decide) hm) (by decide)
  cases m with
  | ofNat k =>
    cases n with
    | ofNat l => exact congrArg Int.ofNat (hdigits k l h)
    | negSucc l => exact (hsign k (l + 1) h).elim
  | negSucc k =>
    cases n with
    | ofNat l => exact (hsign l (k + 1) h.symm).elim
    | negSucc l =>
      have hk : k + 1 = l + 1 := hdigits _ _ ((String.append_right_inj "-").mp h)
      exact congrArg Int.negSucc (Nat.succ.inj hk)

/-- Of two labels with the same text the first is a number and the second is a name. -/
theorem eq_number_of_text_eq {a b : Label} (hle : a.le b) (hne : a ≠ b) (ht : a.text = b.text) :
    ∃ n, a = .number n ∧ b = .name (toString n) := by
  cases a with
  | number m =>
    cases b with
    | number n => exact (hne (congrArg Label.number (eq_of_number_text_eq ht))).elim
    | name s => exact ⟨m, rfl, congrArg Label.name ht.symm⟩
  | name s =>
    cases b with
    | number n => cases hle
    | name t => exact (hne (congrArg Label.name ht)).elim

/-- A section decides which files are ignored under the text of its label, unless the label is a
number and another section has that number for a name. -/
theorem isIgnored_eq_section {options : Options} {file : ConfigFile} {config : Config}
    (h : resolve here options file = .ok config) (ho : file.Ordered) {label : Label}
    {sec : RuleSection} {entries : Entries} (hm : (label, sec) ∈ file.rules)
    (hi : sec.ignore = some entries)
    (hn : ∀ n, label = .number n → ∀ other ∈ file.rules, other.1 ≠ .name (toString n)) :
    ∃ set, compileEntries here entries = .ok set ∧
      ∀ path, config.isIgnored path label.text = set.contains path := by
  obtain ⟨before, after, hsplit⟩ := List.append_of_mem hm
  have hl : ∀ x ∈ after, x.1.text ≠ label.text := by
    intro x hx ht
    have hp := ho
    rw [ConfigFile.Ordered, hsplit] at hp
    obtain ⟨hle, hne⟩ := List.rel_of_pairwise_cons (List.pairwise_append.mp hp).2.1 hx
    obtain ⟨n, hnum, hname⟩ := eq_number_of_text_eq hle hne ht.symm
    have hmem : x ∈ file.rules := by
      rw [hsplit]
      exact List.mem_append_right _ (List.mem_cons_of_mem _ hx)
    exact hn n hnum x hmem hname
  have hrules := resolve_rules h
  rw [hsplit] at hrules
  obtain ⟨set, hs, hf⟩ := find?_compileSections hrules hl
  obtain ⟨own, rfl, hown⟩ := compileSection_eq_ok hi hs
  exact ⟨own, hown, isIgnored_of_find? hf⟩

/-- One section for a rule, and two for another one. -/
def twiceFile : ConfigFile :=
  { rules := [(.number 201, ⟨some (.many [.name "web/", .number 7])⟩),
      (.number 203, ⟨some (.one "a.sls")⟩), (.name "203", ⟨some (.one "b.sls")⟩)] }

theorem isIgnored_eq_section_twice :
    ∃ config, resolve ⟨"/srv"⟩ {} twiceFile = .ok config ∧ twiceFile.Ordered ∧
      (Label.number 201, ⟨some (.many [.name "web/", .number 7])⟩) ∈ twiceFile.rules ∧
      ∃ set, compileEntries ⟨"/srv"⟩ (.many [.name "web/", .number 7]) = .ok set ∧
        ∀ path, config.isIgnored path "201" = set.contains path := by
  have hok : (resolve ⟨"/srv"⟩ {} twiceFile).isOk := by decide +kernel
  cases hr : resolve ⟨"/srv"⟩ {} twiceFile with
  | error e => simp [hr, Except.isOk, Except.toBool] at hok
  | ok config =>
    have hm : (Label.number 201, ⟨some (.many [.name "web/", .number 7])⟩) ∈ twiceFile.rules := by
      decide
    refine ⟨config, rfl, by decide, hm, ?_⟩
    apply isIgnored_eq_section hr (by decide) hm rfl
    intro n hn
    cases hn
    decide

/-- The section of a number has no effect if a later one has its text for a name. -/
theorem number_section_lost :
    ¬ ∀ (here : Path) (options : Options) (file : ConfigFile) (config : Config) (label : Label)
        (sec : RuleSection) (entries : Entries) (set : PathPatternSet) (path : Path),
      resolve here options file = .ok config → file.Ordered → (label, sec) ∈ file.rules →
      sec.ignore = some entries → compileEntries here entries = .ok set →
      set.contains path = true → config.isIgnored path label.text = true := by
  intro h
  have hset : ((compileEntries ⟨"/srv"⟩ (.one "a.sls")).toOption.map (·.contains ⟨"a.sls"⟩)) =
      some true := by decide +kernel
  have hconfig : ((resolve ⟨"/srv"⟩ {} twiceFile).toOption.map (·.isIgnored ⟨"a.sls"⟩ "203")) =
      some false := by decide +kernel
  cases hs : compileEntries ⟨"/srv"⟩ (.one "a.sls") with
  | error e => simp [hs, Except.toOption] at hset
  | ok set =>
    cases hc : resolve ⟨"/srv"⟩ {} twiceFile with
    | error e => simp [hc, Except.toOption] at hconfig
    | ok config =>
      rw [hs] at hset
      rw [hc] at hconfig
      have ht := h ⟨"/srv"⟩ {} twiceFile config (.number 203) ⟨some (.one "a.sls")⟩ _ set ⟨"a.sls"⟩ hc
        (by decide) (by decide) rfl hs (Option.some.inj hset)
      have hf : config.isIgnored ⟨"a.sls"⟩ "203" = false := Option.some.inj hconfig
      rw [show (Label.number 203).text = "203" from rfl, hf] at ht
      cases ht

end Config

end StateLint
