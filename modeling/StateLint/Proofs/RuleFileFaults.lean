import Mathlib.Data.List.Nodup
import StateLint.Proofs.BlankText
import StateLint.Proofs.FirstFailure
import StateLint.RuleFile

/-! # Which rules of a file are accepted, and what is wrong with it otherwise

What a rule has to look like is said as a list of demands. A file is accepted if and only if each of
its rules meets all of them and no id occurs twice. Otherwise the error belongs to the first rule
that fails: it is the one of the first demand in the list that is not met, and a rule that meets all
of them is told for its id only. -/
namespace StateLint

/-- What a scope is called in a rule file. -/
def Scope.name : Scope → String
  | line => "line"
  | text => "text"

theorem scopeOf?_eq_some_iff {name : String} {scope : Scope} :
    scopeOf? name = some scope ↔ scope.name = name := by
  unfold scopeOf?
  split
  · next h =>
    subst h
    cases scope <;> simp [Scope.name]
  · next hline =>
    split
    · next h =>
      subst h
      cases scope <;> simp [Scope.name]
    · next htext =>
      cases scope
      · simpa [Scope.name] using Ne.symm hline
      · simpa [Scope.name] using Ne.symm htext

theorem scopeOf?_eq_none_iff {name : String} :
    scopeOf? name = none ↔ ¬ (name = "line" ∨ name = "text") := by
  unfold scopeOf?
  split
  · next h => simp [h]
  · next hline =>
    split
    · next h => simp [h]
    · next htext => simp [hline, htext]

namespace RuleSpec

/-- What is demanded of a rule by itself. -/
inductive Demand where
  | digits
  | summary
  | severity
  | scope
  | hidden
  | pattern

/-- The order in which a rule is looked at. -/
def Demand.inOrder : List Demand := [digits, summary, severity, scope, hidden, pattern]

/-- The id is a number, the summary is not blank, severity and scope are known, expressions are
hidden in single lines only, and the pattern is an expression. -/
def Meets (spec : RuleSpec) : Demand → Prop
  | .digits => spec.id ≠ "" ∧ ∀ c ∈ spec.id.toList, c.isDigit
  | .summary => ¬ IsBlankText spec.summary
  | .severity => ∃ severity, Severity.parse? spec.severity = some severity
  | .scope => spec.scope = "line" ∨ spec.scope = "text"
  | .hidden => ¬ (spec.hidesExpressions = true ∧ spec.scope = "text")
  | .pattern => ∃ regex, Regex.compile spec.pattern = .ok regex

/-- What is told about the rule at place `index` if it does not meet a demand. -/
def Demand.Tells (index : Nat) (spec : RuleSpec) : Demand → RuleError → Prop
  | .digits, e => e = .badId index spec.id
  | .summary, e => e = .emptySummary spec.id
  | .severity, e => e = .unknownSeverity spec.id spec.severity
  | .scope, e => e = .unknownScope spec.id spec.scope
  | .hidden, e => e = .hiddenInText spec.id
  | .pattern, e => ∃ fault, Regex.compile spec.pattern = .error fault ∧ e = .badPattern spec.id fault

def Valid (spec : RuleSpec) : Prop := ∀ d, spec.Meets d

/-- The rule has all that is written in its specification. -/
structure Carries (spec : RuleSpec) (rule : PatternRule) : Prop where
  id : rule.id = spec.id
  summary : rule.summary = spec.summary
  description : rule.description = spec.description
  severity : Severity.parse? spec.severity = some rule.severity
  tags : rule.tags = spec.tags
  versionAdded : rule.versionAdded = spec.versionAdded
  regex : Regex.compile spec.pattern = .ok rule.regex
  scope : rule.scope.name = spec.scope
  message : rule.message = spec.message
  hidesExpressions : rule.hidesExpressions = spec.hidesExpressions

/-- All rules are valid, and no two of them have the same id. -/
structure Acceptable (specs : List RuleSpec) : Prop where
  valid : ∀ spec ∈ specs, spec.Valid
  apart : (specs.map RuleSpec.id).Nodup

/-- What is wrong with a rule that comes after some others. -/
inductive Fault (earlier : List RuleSpec) (spec : RuleSpec) : RuleError → Prop where
  | unmet {d : Demand} {e : RuleError} (hd : FirstFailure spec.Meets Demand.inOrder d)
      (he : d.Tells earlier.length spec e) : Fault earlier spec e
  | repeated {other : RuleSpec} (hv : spec.Valid) (ho : other ∈ earlier) (hid : other.id = spec.id) :
      Fault earlier spec (.repeatedId spec.id)

theorem badId_iff {spec : RuleSpec} :
    (spec.id.isEmpty || !spec.id.toList.all Char.isDigit) = true ↔ ¬ spec.Meets .digits := by
  rw [Meets, not_and_or, not_not, Bool.or_eq_true, String.isEmpty_iff, Bool.not_eq_true',
    ← Bool.not_eq_true, List.all_eq_true]

theorem emptySummary_iff {spec : RuleSpec} :
    (Text.trim spec.summary.toList).isEmpty = true ↔ ¬ spec.Meets .summary := by
  rw [Meets, not_not, List.isEmpty_iff, Text.trim_eq_nil_iff]
  rfl

/-- One rule by itself: it is valid and taken as it is written, or the first demand that it does not
meet is told. -/
theorem toRule_cases (index : Nat) (spec : RuleSpec) :
    (spec.Valid ∧ ∃ rule, Carries spec rule ∧ spec.toRule index = .ok rule) ∨
      ∃ d e, FirstFailure spec.Meets Demand.inOrder d ∧ d.Tells index spec e ∧
        spec.toRule index = .error e := by
  by_cases hdigits : spec.Meets .digits
  swap
  · refine .inr ⟨.digits, _, ⟨[], _, rfl, by simp, hdigits⟩, rfl, ?_⟩
    rw [toRule, if_pos (badId_iff.mpr hdigits)]
  by_cases hsummary : spec.Meets .summary
  swap
  · refine .inr ⟨.summary, _, ⟨[.digits], _, rfl, by simp [hdigits], hsummary⟩, rfl, ?_⟩
    rw [toRule, if_neg (badId_iff.not_left.mpr hdigits), if_pos (emptySummary_iff.mpr hsummary)]
  rw [toRule, if_neg (badId_iff.not_left.mpr hdigits),
    if_neg (emptySummary_iff.not_left.mpr hsummary)]
  cases hparse : Severity.parse? spec.severity with
  | none =>
    have hseverity : ¬ spec.Meets .severity := by simp [Meets, hparse]
    exact .inr ⟨.severity, _,
      ⟨[.digits, .summary], _, rfl, by simp [hdigits, hsummary], hseverity⟩, rfl, rfl⟩
  | some severity =>
  have hseverity : spec.Meets .severity := ⟨severity, hparse⟩
  cases hof : scopeOf? spec.scope with
  | none =>
    have hscope : ¬ spec.Meets .scope := scopeOf?_eq_none_iff.mp hof
    exact .inr ⟨.scope, _, ⟨[.digits, .summary, .severity], _, rfl,
      by simp [hdigits, hsummary, hseverity], hscope⟩, rfl, rfl⟩
  | some scope =>
  have hname := scopeOf?_eq_some_iff.mp hof
  have hscope : spec.Meets .scope := by
    cases scope
    · exact .inl hname.symm
    · exact .inr hname.symm
  have htext : spec.scope = "text" ↔ scope = .text := by
    rw [← hname]
    cases scope <;> simp [Scope.name]
  by_cases hhidden : spec.Meets .hidden
  swap
  · refine .inr ⟨.hidden, _, ⟨[.digits, .summary, .severity, .scope], _, rfl,
      by simp [hdigits, hsummary, hseverity, hscope], hhidden⟩, rfl, ?_⟩
    rw [Meets, not_not, htext] at hhidden
    simp [hhidden]
  have hif : ¬ (spec.hidesExpressions && decide (scope = .text)) = true := by
    rw [Meets, htext] at hhidden
    simpa using hhidden
  simp only [if_neg hif]
  cases hcompile : Regex.compile spec.pattern with
  | error fault =>
    have hpattern : ¬ spec.Meets .pattern := by simp [Meets, hcompile]
    exact .inr ⟨.pattern, _, ⟨[.digits, .summary, .severity, .scope, .hidden], _, rfl,
      by simp [hdigits, hsummary, hseverity, hscope, hhidden], hpattern⟩, ⟨fault, hcompile, rfl⟩, rfl⟩
  | ok regex =>
    refine .inl ⟨?_, _, ⟨rfl, rfl, rfl, hparse, rfl, rfl, hcompile, hname, rfl, rfl⟩, rfl⟩
    intro d
    cases d with
    | digits => exact hdigits
    | summary => exact hsummary
    | severity => exact hseverity
    | scope => exact hscope
    | hidden => exact hhidden
    | pattern => exact ⟨regex, hcompile⟩

theorem acceptable_concat {specs : List RuleSpec} {spec : RuleSpec} :
    Acceptable (specs ++ [spec]) ↔
      Acceptable specs ∧ spec.Valid ∧ ∀ other ∈ specs, other.id ≠ spec.id := by
  constructor
  · intro h
    have ha := h.apart
    rw [List.map_append, List.map_singleton, ← List.concat_eq_append, List.nodup_concat] at ha
    refine ⟨⟨fun s hs => h.valid s (by simp [hs]), ha.2⟩, h.valid spec (by simp), ?_⟩
    intro other ho hid
    exact ha.1 (List.mem_map.mpr ⟨other, ho, hid⟩)
  · rintro ⟨h, hv, hnew⟩
    constructor
    · intro s hs
      rcases List.mem_append.mp hs with hs | hs
      · exact h.valid s hs
      · rw [List.mem_singleton.mp hs]
        exact hv
    · rw [List.map_append, List.map_singleton, ← List.concat_eq_append, List.nodup_concat]
      refine ⟨?_, h.apart⟩
      intro hm
      obtain ⟨other, ho, hid⟩ := List.mem_map.mp hm
      exact hnew other ho hid

theorem Acceptable.of_append {before after : List RuleSpec} (h : Acceptable (before ++ after)) :
    Acceptable before where
  valid spec hs := h.valid spec (List.mem_append_left after hs)
  apart := by
    have ha := h.apart
    rw [List.map_append] at ha
    exact ha.of_append_left

theorem Fault.not_acceptable {earlier : List RuleSpec} {spec : RuleSpec} {e : RuleError}
    (h : Fault earlier spec e) : ¬ Acceptable (earlier ++ [spec]) := by
  intro ha
  obtain ⟨-, hv, hnew⟩ := acceptable_concat.mp ha
  cases h with
  | unmet hd he => exact hd.not_forall fun d _ => hv d
  | @repeated other _ ho hid => exact hnew other ho hid

/-- The ids of the rules so far, as they are kept: the last one comes first. -/
def seenIds (earlier : List RuleSpec) : List String := (earlier.map RuleSpec.id).reverse

theorem mem_seenIds {earlier : List RuleSpec} {id : String} :
    id ∈ seenIds earlier ↔ ∃ other ∈ earlier, other.id = id := by
  simp [seenIds]

theorem seenIds_concat (earlier : List RuleSpec) (spec : RuleSpec) :
    seenIds (earlier ++ [spec]) = spec.id :: seenIds earlier := by
  simp [seenIds]

theorem rulesFrom_cases {earlier : List RuleSpec} (h : Acceptable earlier) (specs : List RuleSpec) :
    (Acceptable (earlier ++ specs) ∧ ∃ rules, List.Forall₂ Carries specs rules ∧
      rulesFrom earlier.length (seenIds earlier) specs = .ok rules) ∨
    ∃ before spec after e, specs = before ++ spec :: after ∧ Acceptable (earlier ++ before) ∧
      Fault (earlier ++ before) spec e ∧
      rulesFrom earlier.length (seenIds earlier) specs = .error e := by
  induction specs generalizing earlier with
  | nil => exact .inl ⟨by simpa using h, [], .nil, rfl⟩
  | cons spec specs ih =>
    rcases toRule_cases earlier.length spec with ⟨hv, rule, hc, hok⟩ | ⟨d, e, hd, he, herr⟩
    · by_cases hseen : spec.id ∈ seenIds earlier
      · obtain ⟨other, ho, hid⟩ := mem_seenIds.mp hseen
        refine .inr ⟨[], spec, specs, .repeatedId spec.id, rfl, by simpa using h, ?_, ?_⟩
        · rw [List.append_nil]
          exact .repeated hv ho hid
        · simp [rulesFrom, hok, hc.id, hseen]
      · have hnew : ∀ other ∈ earlier, other.id ≠ spec.id := by
          intro other ho hid
          exact hseen (mem_seenIds.mpr ⟨other, ho, hid⟩)
        have hnext := ih (acceptable_concat.mpr ⟨h, hv, hnew⟩)
        rw [List.length_append, List.length_singleton, seenIds_concat, List.append_assoc,
          List.singleton_append] at hnext
        rcases hnext with ⟨ha, rules, hrules, hrest⟩ | ⟨before, bad, after, e, rfl, ha, hf, hrest⟩
        · refine .inl ⟨ha, rule :: rules, .cons hc hrules, ?_⟩
          simp [rulesFrom, hok, hc.id, hseen, hrest]
        · refine .inr ⟨spec :: before, bad, after, e, rfl, by simpa using ha, by simpa using hf, ?_⟩
          simp [rulesFrom, hok, hc.id, hseen, hrest]
    · refine .inr ⟨[], spec, specs, e, rfl, by simpa using h, ?_, ?_⟩
      · rw [List.append_nil]
        exact .unmet hd he
      · simp only [rulesFrom, herr]

theorem rules_cases (specs : List RuleSpec) :
    (Acceptable specs ∧ ∃ rules, List.Forall₂ Carries specs rules ∧
      RuleSpec.rules specs = .ok rules) ∨
    ∃ before spec after e, specs = before ++ spec :: after ∧ Acceptable before ∧
      Fault before spec e ∧ RuleSpec.rules specs = .error e := by
  have hnone : Acceptable [] := ⟨by simp, by simp⟩
  exact rulesFrom_cases hnone specs

/-- The ids of the rules are those that are written. -/
theorem ids_eq_of_carries {specs : List RuleSpec} {rules : List PatternRule}
    (h : List.Forall₂ Carries specs rules) : rules.map PatternRule.id = specs.map RuleSpec.id := by
  induction h with
  | nil => rfl
  | cons hc _ ih => rw [List.map_cons, List.map_cons, hc.id, ih]

theorem rules_ids_nodup {specs : List RuleSpec} {rules : List PatternRule}
    (h : RuleSpec.rules specs = .ok rules) : (rules.map PatternRule.id).Nodup := by
  rcases rules_cases specs with ⟨ha, others, hc, hok⟩ | ⟨before, spec, after, e, -, -, -, herr⟩
  · obtain rfl := Except.ok.inj (hok.symm.trans h)
    rw [ids_eq_of_carries hc]
    exact ha.apart
  · cases herr.symm.trans h

/-- The rules of a file are accepted if and only if each of them is valid and their ids are
distinct, and then they are taken as they are written, one for each specification and in order.
Otherwise the error is the one of the first rule at fault: of the first demand that it does not
meet, or of its id if it is valid and repeats the id of an earlier one. -/
theorem rules_first_fault (specs : List RuleSpec) :
    ((∃ rules, RuleSpec.rules specs = .ok rules) ↔ Acceptable specs) ∧
    (∀ rules, RuleSpec.rules specs = .ok rules → List.Forall₂ Carries specs rules) ∧
    (∀ e, RuleSpec.rules specs = .error e → ∃ before spec after,
      specs = before ++ spec :: after ∧ Acceptable before ∧ Fault before spec e) := by
  rcases rules_cases specs with ⟨ha, rules, hc, hok⟩ | ⟨before, spec, after, e, hs, hb, hf, herr⟩
  · refine ⟨iff_of_true ⟨rules, hok⟩ ha, ?_, ?_⟩
    · intro others h
      obtain rfl := Except.ok.inj (hok.symm.trans h)
      exact hc
    · intro e h
      cases hok.symm.trans h
  · have hnot : ¬ Acceptable specs := by
      intro ha
      rw [hs, ← List.singleton_append, ← List.append_assoc] at ha
      exact hf.not_acceptable ha.of_append
    refine ⟨iff_of_false ?_ hnot, ?_, ?_⟩
    · rintro ⟨rules, h⟩
      cases herr.symm.trans h
    · intro rules h
      cases herr.symm.trans h
    · intro e' h
      obtain rfl := Except.error.inj (herr.symm.trans h)
      exact ⟨before, spec, after, hs, hb, hf⟩

end RuleSpec

/-- Within one file no id is repeated. -/
theorem RuleFile.parse_ids_nodup {text : String} {rules : List Rule}
    (h : RuleFile.parse text = .ok rules) : (rules.map Rule.id).Nodup := by
  unfold RuleFile.parse at h
  split at h
  · cases h
  split at h
  · next hr =>
    cases h
    rw [List.map_map]
    exact RuleSpec.rules_ids_nodup hr
  · cases h

end StateLint
