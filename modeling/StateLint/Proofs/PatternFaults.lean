import Mathlib.Data.String.Basic
import StateLint.Proofs.BlankText
import StateLint.Proofs.ByteOrder
import StateLint.Proofs.FirstFailure
import StateLint.Proofs.IgnoreSections

/-! # Which pattern stops a run

Patterns stand in the options and in the configuration file, there in a list of their own and in
the section of each rule. A run begins if and only if all of them are well-formed. Otherwise the
first bad line is told as it was written: lines that are excluded come first, and then the sections
in the order of their labels. -/
namespace StateLint

namespace Label

/-- Numbers are ordered by their values and come before all names; names are ordered by their
bytes. -/
def Before : Label → Label → Prop
  | number m, number n => m < n
  | number _, name _ => True
  | name _, number _ => False
  | name s, name t => Text.bytes s < Text.bytes t

theorem before_iff {a b : Label} : a.Before b ↔ a.le b ∧ a ≠ b := by
  cases a with
  | number m =>
    cases b with
    | number n =>
      simp only [Before, le, decide_eq_true_eq, ne_eq, number.injEq]
      omega
    | name t => simp [Before, le]
  | name s =>
    cases b with
    | number n => simp [Before, le]
    | name t =>
      simp only [Before, le, decide_eq_true_eq, ne_eq, name.injEq, Text.bytes_lt_bytes_iff]
      exact lt_iff_le_and_ne

theorem Before.asymm {a b : Label} (h : a.Before b) : ¬ b.Before a := by
  cases a with
  | number m =>
    cases b with
    | number n =>
      simp only [Before] at h ⊢
      omega
    | name t => simp [Before]
  | name s =>
    cases b with
    | number n => exact h.elim
    | name t =>
      simp only [Before, Text.bytes_lt_bytes_iff] at h ⊢
      exact lt_asymm h

end Label

namespace PathPatternSet

def IsComment (line : String) : Prop := line.toList.head? = some '#'

instance (line : String) : Decidable (IsComment line) := inferInstanceAs (Decidable (_ = _))

/-- The line, without the blanks at its end, is a well-formed pattern. -/
def Compiles (line : String) : Prop := ∃ pattern, PathPattern.ofLine (trimmedEnd line) = .ok pattern

/-- Blank lines and comments are passed over, and all others have to be well-formed. -/
def Passes (line : String) : Prop := ¬ IsBlankText line → ¬ IsComment line → Compiles line

theorem holdsPattern_iff {line : String} :
    holdsPattern line = true ↔ ¬ IsBlankText line ∧ ¬ IsComment line := by
  have hb : (Text.trimStart (Text.trimEnd line.toList)).isEmpty = true ↔ IsBlankText line := by
    rw [List.isEmpty_iff, Text.trimStart_trimEnd_eq_nil_iff]
    rfl
  have hc : (Text.trimEnd line.toList).head? = some '#' ↔ IsComment line :=
    Text.head?_trimEnd_eq_iff (by decide)
  rw [holdsPattern, trimmedEnd, String.toList_ofList, ← hb, ← hc]
  simp

variable {line : String} {lines : List String} {e : PatternError}

theorem compileLines_cons_eq_error_iff :
    compileLines (line :: lines) = .error e ↔
      ¬ Passes line ∧ e.line = line ∧ PathPattern.ofLine (trimmedEnd line) = .error e.cause ∨
        Passes line ∧ compileLines lines = .error e := by
  by_cases hp : holdsPattern line
  swap
  · have hpass : Passes line := fun hb hc => absurd (holdsPattern_iff.mpr ⟨hb, hc⟩) hp
    simp [compileLines, hp, hpass]
  have hpass : Passes line ↔ Compiles line := by
    obtain ⟨hb, hc⟩ := holdsPattern_iff.mp hp
    exact ⟨fun h => h hb hc, fun h _ _ => h⟩
  rw [hpass]
  unfold Compiles
  cases hl : PathPattern.ofLine (trimmedEnd line) with
  | error cause =>
    obtain ⟨told, why⟩ := e
    simp [compileLines, hp, hl, eq_comm]
  | ok pattern =>
    cases pattern with
    | none => simp [compileLines, hp, hl]
    | some p => cases hr : compileLines lines <;> simp [compileLines, hp, hl, hr]

/-- Lines are refused for the first one that does not pass. -/
theorem compileLines_eq_error_iff :
    compileLines lines = .error e ↔
      FirstFailure Passes lines e.line ∧ PathPattern.ofLine (trimmedEnd e.line) = .error e.cause := by
  induction lines with
  | nil => simp [compileLines, firstFailure_nil]
  | cons line lines ih =>
    rw [compileLines_cons_eq_error_iff, ih, firstFailure_cons]
    constructor
    · rintro (⟨hn, hl, hc⟩ | ⟨hp, hf, hc⟩)
      · exact ⟨.inl ⟨hl, hn⟩, hl ▸ hc⟩
      · exact ⟨.inr ⟨hp, hf⟩, hc⟩
    · rintro ⟨⟨hl, hn⟩ | ⟨hp, hf⟩, hc⟩
      · exact .inl ⟨hn, hl, hl ▸ hc⟩
      · exact .inr ⟨hp, hf, hc⟩

theorem compile_eq_error_iff {base : Option Path} :
    compile base lines = .error e ↔ compileLines lines = .error e := by
  unfold compile
  cases compileLines lines <;> simp

theorem exists_compileLines_eq_error_iff :
    (∃ e, compileLines lines = .error e) ↔ ¬ ∀ line ∈ lines, Passes line := by
  rw [← exists_firstFailure_iff]
  constructor
  · rintro ⟨e, h⟩
    exact ⟨e.line, (compileLines_eq_error_iff.mp h).1⟩
  · rintro ⟨line, hf⟩
    cases hl : PathPattern.ofLine (trimmedEnd line) with
    | error cause => exact ⟨⟨line, cause⟩, compileLines_eq_error_iff.mpr ⟨hf, hl⟩⟩
    | ok pattern => exact absurd (fun _ _ => ⟨pattern, hl⟩) hf.fails

end PathPatternSet

/-- The pattern lines of a section, from top to bottom. -/
def RuleSection.lines (sec : RuleSection) : List String :=
  match sec.ignore with
  | none => []
  | some (.one block) => (Text.blockLines block.toList).map String.ofList
  | some (.many items) => items.map Label.text

namespace Config

open PathPatternSet (Passes compileLines)

variable {here : Path} {options : Options} {file : ConfigFile} {e : ConfigError}

def SectionPasses (x : Label × RuleSection) : Prop := ∀ line ∈ x.2.lines, Passes line

theorem compileSection_eq_error_iff {label : Label} {sec : RuleSection} :
    compileSection here label sec = .error e ↔
      ∃ cause, compileLines sec.lines = .error cause ∧
        e = .badPattern ("rules." ++ label.text ++ ".ignore") cause := by
  have hentries : ∀ {entries}, sec.ignore = some entries → ∀ {cause},
      compileEntries here entries = .error cause ↔ compileLines sec.lines = .error cause := by
    intro entries hi cause
    rw [RuleSection.lines, hi]
    cases entries with
    | one block => exact PathPatternSet.compile_eq_error_iff
    | many items => exact PathPatternSet.compile_eq_error_iff
  unfold compileSection
  cases hi : sec.ignore with
  | none => simp [RuleSection.lines, hi, compileLines]
  | some entries =>
    simp only [← hentries hi]
    cases compileEntries here entries <;> simp [eq_comm]

theorem exists_compileSection_eq_error_iff {x : Label × RuleSection} :
    (∃ e, compileSection here x.1 x.2 = .error e) ↔ ¬ SectionPasses x := by
  rw [SectionPasses, ← PathPatternSet.exists_compileLines_eq_error_iff]
  simp only [compileSection_eq_error_iff]
  constructor
  · rintro ⟨e, cause, h, -⟩
    exact ⟨cause, h⟩
  · rintro ⟨cause, h⟩
    exact ⟨_, cause, h, rfl⟩

/-- Sections are refused for the first one that does not pass. -/
theorem compileSections_eq_error_iff {sections : List (Label × RuleSection)} :
    compileSections here sections = .error e ↔
      ∃ x, FirstFailure SectionPasses sections x ∧ compileSection here x.1 x.2 = .error e := by
  induction sections with
  | nil => simp [compileSections, firstFailure_nil]
  | cons x sections ih =>
    simp only [firstFailure_cons]
    cases hx : compileSection here x.1 x.2 with
    | error own =>
      have hn : ¬ SectionPasses x := exists_compileSection_eq_error_iff.mp ⟨own, hx⟩
      simp [compileSections, hx, hn]
    | ok set =>
      have hp : SectionPasses x := by
        by_contra hn
        obtain ⟨own, ho⟩ := exists_compileSection_eq_error_iff.mpr hn
        cases hx.symm.trans ho
      cases hr : compileSections here sections with
      | error more =>
        rw [hr] at ih
        simp [compileSections, hx, hp, hr, ih]
      | ok more =>
        rw [hr] at ih
        simp [compileSections, hx, hp, hr, ← ih]

/-- The lines that are excluded for all rules: those of the options, then those of the file. -/
def excludeLines (options : Options) (file : ConfigFile) : List String :=
  options.excludePaths ++ file.excludePaths

/-- What is told about the first bad line. Which section comes first is said by the labels, not by
the places in the file. -/
inductive FirstBadLine (options : Options) (file : ConfigFile) : ConfigError → Prop where
  | excluded {line : String} {cause : Glob.ParseError}
      (hf : FirstFailure Passes (excludeLines options file) line)
      (hc : PathPattern.ofLine (trimmedEnd line) = .error cause) :
      FirstBadLine options file (.badPattern "exclude_paths" ⟨line, cause⟩)
  | ignored {label : Label} {sec : RuleSection} {line : String} {cause : Glob.ParseError}
      (he : ∀ line ∈ excludeLines options file, Passes line) (hm : (label, sec) ∈ file.rules)
      (ho : ∀ other ∈ file.rules, other.1.Before label → ∀ line ∈ other.2.lines, Passes line)
      (hf : FirstFailure Passes sec.lines line)
      (hc : PathPattern.ofLine (trimmedEnd line) = .error cause) :
      FirstBadLine options file (.badPattern ("rules." ++ label.text ++ ".ignore") ⟨line, cause⟩)

theorem resolve_eq_error_iff :
    resolve here options file = .error e ↔
      (∃ cause, compileLines (excludeLines options file) = .error cause ∧
        e = .badPattern "exclude_paths" cause) ∨
      (∀ line ∈ excludeLines options file, Passes line) ∧
        compileSections here file.rules = .error e := by
  unfold resolve
  cases hc : PathPatternSet.compile (some here) (options.excludePaths ++ file.excludePaths) with
  | error cause =>
    have hl : compileLines (excludeLines options file) = .error cause :=
      PathPatternSet.compile_eq_error_iff.mp hc
    have hn := PathPatternSet.exists_compileLines_eq_error_iff.mp ⟨cause, hl⟩
    simp [hl, hn, eq_comm]
  | ok set =>
    have hl : ∀ cause, compileLines (excludeLines options file) ≠ .error cause := by
      intro cause h
      cases hc.symm.trans (PathPatternSet.compile_eq_error_iff.mpr h)
    have hp : ∀ line ∈ excludeLines options file, Passes line := by
      by_contra hn
      obtain ⟨cause, h⟩ := PathPatternSet.exists_compileLines_eq_error_iff.mpr hn
      exact hl cause h
    rw [or_iff_right (fun ⟨cause, h, _⟩ => hl cause h), and_iff_right hp]
    cases compileSections here file.rules <;> simp

theorem exists_compileSections_eq_error_iff {sections : List (Label × RuleSection)} :
    (∃ e, compileSections here sections = .error e) ↔ ¬ ∀ x ∈ sections, SectionPasses x := by
  rw [← exists_firstFailure_iff]
  simp only [compileSections_eq_error_iff]
  constructor
  · rintro ⟨e, x, hf, -⟩
    exact ⟨x, hf⟩
  · rintro ⟨x, hf⟩
    obtain ⟨e, he⟩ := exists_compileSection_eq_error_iff.mpr hf.fails
    exact ⟨e, x, hf, he⟩

/-- In a file whose labels ascend, the first section that does not pass has the least label. -/
theorem firstFailure_rules_iff (ho : file.Ordered) {x : Label × RuleSection} :
    FirstFailure SectionPasses file.rules x ↔
      x ∈ file.rules ∧ ¬ SectionPasses x ∧
        ∀ other ∈ file.rules, other.1.Before x.1 → SectionPasses other := by
  have hpair : file.rules.Pairwise fun a b => a.1.Before b.1 :=
    ho.imp fun h => Label.before_iff.mpr h
  constructor
  · rintro ⟨before, after, hs, hb, hx⟩
    refine ⟨by simp [hs], hx, ?_⟩
    intro other hm hlt
    rw [hs] at hm hpair
    rcases List.mem_append.mp hm with hm | hm
    · exact hb other hm
    · -- No later section has a smaller label.
      rcases List.mem_cons.mp hm with rfl | hm
      · exact absurd hlt hlt.asymm
      · have hgt := List.rel_of_pairwise_cons (List.pairwise_append.mp hpair).2.1 hm
        exact absurd hlt hgt.asymm
  · rintro ⟨hm, hx, hsmaller⟩
    obtain ⟨before, after, hs⟩ := List.append_of_mem hm
    refine ⟨before, after, hs, ?_, hx⟩
    intro other ho
    rw [hs] at hpair
    refine hsmaller other (by simp [hs, ho]) ?_
    exact (List.pairwise_append.mp hpair).2.2 other ho x (by simp)

/-- All lines that are read as patterns. -/
def patternLines (options : Options) (file : ConfigFile) : List String :=
  excludeLines options file ++ file.rules.flatMap fun x => x.2.lines

theorem forall_patternLines_iff :
    (∀ line ∈ patternLines options file, Passes line) ↔
      (∀ line ∈ excludeLines options file, Passes line) ∧ ∀ x ∈ file.rules, SectionPasses x := by
  simp only [patternLines, List.forall_mem_append, List.mem_flatMap, SectionPasses]
  constructor
  · rintro ⟨he, hs⟩
    exact ⟨he, fun x hx line hl => hs line ⟨x, hx, hl⟩⟩
  · rintro ⟨he, hs⟩
    refine ⟨he, ?_⟩
    rintro line ⟨x, hx, hl⟩
    exact hs x hx line hl

theorem exists_resolve_eq_error_iff :
    (∃ e, resolve here options file = .error e) ↔
      ¬ ∀ line ∈ patternLines options file, Passes line := by
  have hsections : (∃ e, compileSections here file.rules = .error e) ↔ _ :=
    exists_compileSections_eq_error_iff
  simp only [resolve_eq_error_iff]
  rw [forall_patternLines_iff, not_and_or, ← PathPatternSet.exists_compileLines_eq_error_iff,
    ← hsections]
  constructor
  · rintro ⟨e, ⟨cause, hl, -⟩ | ⟨-, hs⟩⟩
    · exact .inl ⟨cause, hl⟩
    · exact .inr ⟨e, hs⟩
  · rintro (⟨cause, hl⟩ | ⟨e, hs⟩)
    · exact ⟨_, .inl ⟨cause, hl, rfl⟩⟩
    · by_cases he : ∀ line ∈ excludeLines options file, Passes line
      · exact ⟨e, .inr ⟨he, hs⟩⟩
      · obtain ⟨cause, hl⟩ := PathPatternSet.exists_compileLines_eq_error_iff.mpr he
        exact ⟨_, .inl ⟨cause, hl, rfl⟩⟩

/-- Options and file are joined if and only if all their lines pass. Otherwise the error is the one
of the first bad line. -/
theorem resolve_first_bad_line (here : Path) (options : Options) {file : ConfigFile}
    (ho : file.Ordered) :
    ((∃ config, resolve here options file = .ok config) ↔
      ∀ line ∈ patternLines options file, Passes line) ∧
    ∀ e, resolve here options file = .error e ↔ FirstBadLine options file e := by
  constructor
  · have hbad : (∃ e, resolve here options file = .error e) ↔ _ := exists_resolve_eq_error_iff
    rw [← not_iff_not, ← hbad]
    cases resolve here options file <;> simp
  intro e
  rw [resolve_eq_error_iff]
  constructor
  · rintro (⟨cause, hl, rfl⟩ | ⟨he, hs⟩)
    · obtain ⟨hf, hc⟩ := PathPatternSet.compileLines_eq_error_iff.mp hl
      exact .excluded hf hc
    · obtain ⟨x, hx, hsec⟩ := compileSections_eq_error_iff.mp hs
      obtain ⟨hm, -, hfirst⟩ := (firstFailure_rules_iff ho).mp hx
      obtain ⟨cause, hl, rfl⟩ := compileSection_eq_error_iff.mp hsec
      obtain ⟨hf, hc⟩ := PathPatternSet.compileLines_eq_error_iff.mp hl
      exact .ignored he hm hfirst hf hc
  · intro h
    cases h with
    | @excluded line cause hf hc =>
      have hl : compileLines (excludeLines options file) = .error ⟨line, cause⟩ :=
        PathPatternSet.compileLines_eq_error_iff.mpr ⟨hf, hc⟩
      exact .inl ⟨_, hl, rfl⟩
    | @ignored label sec line cause he hm hfirst hf hc =>
      have hx : FirstFailure SectionPasses file.rules (label, sec) :=
        (firstFailure_rules_iff ho).mpr ⟨hm, hf.not_forall, hfirst⟩
      have hl : compileLines sec.lines = .error ⟨line, cause⟩ :=
        PathPatternSet.compileLines_eq_error_iff.mpr ⟨hf, hc⟩
      have hsec : compileSection here label sec = _ := compileSection_eq_error_iff.mpr ⟨_, hl, rfl⟩
      exact .inr ⟨he, compileSections_eq_error_iff.mpr ⟨(label, sec), hx, hsec⟩⟩

/-- Three sections, of which the last two hold a range that runs backwards. -/
def backwardsFile : ConfigFile :=
  { excludePaths := ["# [z-a]", " "],
    rules := [(.number 9, ⟨some (.one "a.sls\r\n# [z-a]\n")⟩),
      (.number 203, ⟨some (.many [.number 7, .name "b[z-a] ", .name "[z-a]"])⟩),
      (.name "203", ⟨some (.one "[z-a]")⟩)] }

/-- The number comes before the name, and the blank at the end of the line is told. -/
theorem resolve_first_bad_line_backwards :
    let error : ConfigError := .badPattern "rules.203.ignore" ⟨"b[z-a] ", .reversedRange⟩
    backwardsFile.Ordered ∧ resolve ⟨"/srv"⟩ {} backwardsFile = .error error ∧
      FirstBadLine {} backwardsFile error ∧
      ¬ ∀ line ∈ patternLines {} backwardsFile, Passes line := by
  intro error
  have ho : backwardsFile.Ordered := by decide
  have herr : resolve ⟨"/srv"⟩ {} backwardsFile = .error error := by rfl
  obtain ⟨hok, hbad⟩ := resolve_first_bad_line ⟨"/srv"⟩ {} ho
  refine ⟨ho, herr, (hbad error).mp herr, ?_⟩
  intro hall
  obtain ⟨config, hc⟩ := hok.mpr hall
  cases herr.symm.trans hc

end Config

end StateLint
