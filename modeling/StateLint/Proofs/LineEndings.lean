import Mathlib.Data.List.Forall2
import StateLint.Proofs.BlankText
import StateLint.Proofs.LineFindings
import StateLint.Rule.Builtin

/-! # Carriage returns before newlines

A carriage return before each newline of a text is one more blank at the end of each line but the
last. It makes no comment and no directive, and no word of a directive grows by it. A rule that says
the same about a line with it and without it thus says the same about the whole text. -/
namespace StateLint

namespace Text

/-- The text with a carriage return before each newline. -/
def withReturns (s : List Char) : List Char :=
  s.flatMap fun c => if c = '\n' then ['\r', '\n'] else [c]

/-- The line, or the line with a carriage return at its end. -/
def EndsAs (line line' : List Char) : Prop := line' = line ∨ line' = line ++ ['\r']

theorem split_withReturns (s : List Char) :
    List.Forall₂ EndsAs (split '\n' s) (split '\n' (withReturns s)) := by
  induction s with
  | nil => exact .cons (.inl rfl) .nil
  | cons c s ih =>
    by_cases hc : c = '\n'
    · subst c
      have hr : split '\n' (withReturns ('\n' :: s)) = ['\r'] :: split '\n' (withReturns s) :=
        split_append_cons '\n' ['\r'] (withReturns s)
      rw [split_cons_self, hr]
      exact .cons (.inr rfl) ih
    · have hr : withReturns (c :: s) = c :: withReturns s := by simp [withReturns, hc]
      obtain ⟨p, ps, hp, hcp⟩ := split_cons_of_ne hc s
      obtain ⟨q, qs, hq, hcq⟩ := split_cons_of_ne hc (withReturns s)
      rw [hp, hq] at ih
      obtain ⟨hpq, hrest⟩ := List.forall₂_cons.mp ih
      rw [hr, hcp, hcq]
      refine .cons ?_ hrest
      rcases hpq with rfl | rfl
      · exact .inl rfl
      · exact .inr rfl

end Text

def withReturns (text : String) : String := String.ofList (Text.withReturns text.toList)

theorem lines_withReturns (text : String) :
    List.Forall₂ (fun line line' => line' = line ∨ line' = line ++ "\r")
      (lines text) (lines (withReturns text)) := by
  rw [lines, lines, withReturns, String.toList_ofList, List.forall₂_map_left_iff,
    List.forall₂_map_right_iff]
  apply (Text.split_withReturns text.toList).imp
  intro line line' h
  rcases h with rfl | rfl
  · exact .inl rfl
  · exact .inr (by simp)

theorem isComment_append_return (line : String) : isComment (line ++ "\r") = isComment line := by
  have hb : Text.isBlank '\r' = true := by decide
  rw [Bool.eq_iff_iff, isComment_iff, isComment_iff, String.toList_append, List.find?_append]
  simp [hb]

namespace SkipDirective

theorem parse?_concat_return (line : List Char) : parse? (line ++ ['\r']) = parse? line := by
  have hr : '\r' ∉ marker := by decide
  rw [parse?, parse?, Text.cut?_concat hr]
  cases Text.cut? marker line with
  | none => rfl
  | some cut =>
    obtain ⟨before, rest⟩ := cut
    simp only [Option.map_some, Text.cut?_concat hr]
    -- The return stands behind the second marker, or is a blank at the end of the words.
    cases Text.cut? marker rest with
    | none => exact congrArg some (Text.words_concat_blank (by decide) rest)
    | some cut => rfl

theorem skippedIds_append_return (line : String) :
    skippedIds (line ++ "\r") = skippedIds line := by
  have hl : (line ++ "\r").toList = line.toList ++ ['\r'] := by simp
  rw [skippedIds, hl, parse?_concat_return, skippedIds]

end SkipDirective

/-- Where a finding is, and what it says. -/
def Finding.notice (f : Finding) : Nat × String := (f.lineNumber, f.message)

namespace Rule

variable {r : Rule}

def IgnoresReturn (r : Rule) : Prop :=
  ∀ file line, r.matchLine file (line ++ "\r") = r.matchLine file line

theorem lineReport?_append_return (h : r.IgnoresReturn) (file : StateFile) (line : String) :
    r.lineReport? file (line ++ "\r") = r.lineReport? file line := by
  unfold lineReport?
  rw [isComment_append_return, SkipDirective.skippedIds_append_return, h file line]

/-- Lines about which the rule says the same have the same notices. -/
theorem map_notice_findingsFrom_congr {file : StateFile} {ls ls' : List String}
    (h : List.Forall₂ (fun line line' => r.lineReport? file line' = r.lineReport? file line) ls ls')
    (n : Nat) :
    (r.findingsFrom file n ls').map Finding.notice =
      (r.findingsFrom file n ls).map Finding.notice := by
  induction h generalizing n with
  | nil => rfl
  | cons hl _ ih =>
    rw [findingsFrom, findingsFrom, List.map_append, List.map_append, ih, ← Option.toList_map,
      ← Option.toList_map, lineFinding?_eq, lineFinding?_eq, hl, Option.map_map, Option.map_map]
    rfl

theorem lineFindings_withReturns (h : r.IgnoresReturn) (file : StateFile) (text : String) :
    (r.lineFindings file (withReturns text)).map Finding.notice =
      (r.lineFindings file text).map Finding.notice := by
  rw [lineFindings_eq_findingsFrom, lineFindings_eq_findingsFrom]
  apply map_notice_findingsFrom_congr
  apply (lines_withReturns text).imp
  rintro line line' (rfl | rfl)
  · rfl
  · exact lineReport?_append_return h file line

end Rule

namespace Builtin

theorem tabs_ignoresReturn : tabs.IgnoresReturn := by
  intro file line
  simp [tabs]

theorem trailingBlanks_ignoresReturn : trailingBlanks.IgnoresReturn := by
  intro file line
  simp [trailingBlanks, endsBlank]

theorem trailingBlanks_isFlagged_iff {file : StateFile} {line : String} :
    (trailingBlanks.matchLine file line).isFlagged ↔
      ∃ c, (line.toList.filter (· != '\r')).getLast? = some c ∧ Text.isBlank c := by
  rw [← Text.trimEnd_ne_self_iff]
  by_cases hb : Text.trimEnd (line.toList.filter (· != '\r')) = line.toList.filter (· != '\r')
  · simp [trailingBlanks, endsBlank, hb, LineVerdict.ofBool, LineVerdict.isFlagged]
  · simp [trailingBlanks, endsBlank, hb, LineVerdict.ofBool, LineVerdict.isFlagged]

/-- The rules on trailing blanks and on tabs have the same notices for a text with carriage returns
before its newlines. A line has trailing blanks if its last character is one when all carriage
returns are left out. -/
theorem returns_change_no_notice :
    (∀ r ∈ [trailingBlanks, tabs], ∀ (file : StateFile) (text : String),
      (r.lineFindings file (withReturns text)).map Finding.notice =
        (r.lineFindings file text).map Finding.notice) ∧
    ∀ (file : StateFile) (line : String), (trailingBlanks.matchLine file line).isFlagged ↔
      ∃ c, (line.toList.filter (· != '\r')).getLast? = some c ∧ Text.isBlank c := by
  constructor
  · intro r hr file text
    apply Rule.lineFindings_withReturns
    rcases List.mem_pair.mp hr with rfl | rfl
    · exact trailingBlanks_ignoresReturn
    · exact tabs_ignoresReturn
  · intro file line
    exact trailingBlanks_isFlagged_iff

/-- A directive at the end of its line, and a line that has a carriage return already. -/
theorem returns_change_no_notice_skipped :
    tabs ∈ [trailingBlanks, tabs] ∧
      (tabs.lineFindings webState (withReturns "\ta # noqa: 203\n\tb\r\nc")).map Finding.notice =
        [(2, "Most files should not contain tabs")] ∧
      (trailingBlanks.matchLine webState "b \r").isFlagged := by
  have ht : tabs ∈ [trailingBlanks, tabs] := List.mem_cons_of_mem _ List.mem_cons_self
  obtain ⟨hsame, hblank⟩ := returns_change_no_notice
  refine ⟨ht, ?_, (hblank _ "b \r").mpr ⟨' ', by decide +kernel, by decide⟩⟩
  rw [hsame tabs ht]
  decide +kernel

end Builtin

end StateLint
