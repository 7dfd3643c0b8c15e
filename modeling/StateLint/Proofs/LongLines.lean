import Mathlib.Data.String.Basic
import StateLint.Proofs.LineFindings
import StateLint.Rule.Builtin

/-! # Long lines

A line is as long as it has characters. A character takes one byte or more, so a line of few bytes is
not long and need not be counted, while a line of many bytes can still have few characters. Under
every limit the lines with more characters are reported, and under a higher limit no others than
under a lower one. -/
namespace StateLint

theorem length_le_utf8Len (s : List Char) : s.length ≤ String.utf8Len s := by
  induction s with
  | nil => exact Nat.zero_le _
  | cons c s ih =>
    have hc := c.utf8Size_pos
    rw [List.length_cons, String.utf8Len_cons]
    omega

/-- To look at the bytes first does not change the answer. -/
theorem Builtin.isLong_iff {limit : Nat} {line : String} :
    isLong limit line = true ↔ limit < line.toList.length := by
  have hle := length_le_utf8Len line.toList
  rw [String.utf8Len_toList] at hle
  rw [isLong, ← String.length_toList]
  by_cases hb : line.utf8ByteSize ≤ limit
  · have hn : ¬ limit < line.toList.length := by omega
    simp [hb, hn]
  · simp [hb]

namespace Rule

/-- A rule that fires on the lines with a property, and has no messages of its own, reports these
lines in their order. -/
theorem lineFindings_eq_filter {r : Rule} {P : String → Prop} [DecidablePred P]
    (h : ∀ file line, r.lineReport? file line = if P line then some none else none)
    (file : StateFile) (text : String) :
    r.lineFindings file text = (((lines text).zipIdx 1).filter fun x => P x.1).map
      fun x => r.finding file.path x.2 x.1 none := by
  rw [lineFindings, ← List.filterMap_eq_map, List.filterMap_filter]
  apply List.filterMap_congr
  rintro ⟨line, n⟩ -
  dsimp only
  rw [lineFinding?_eq, h]
  by_cases hp : P line
  · simp [hp]
  · simp [hp]

end Rule

namespace Builtin

/-- The line is no comment, does not opt out of the rule, and has more characters than the limit. -/
structure TooLong (limit : Nat) (line : String) : Prop where
  no_comment : line.toList.find? (fun c => !Text.isBlank c) ≠ some '#'
  not_skipped : "204" ∉ SkipDirective.skippedIds line
  long : limit < line.toList.length

instance (limit : Nat) (line : String) : Decidable (TooLong limit line) :=
  decidable_of_iff (line.toList.find? (fun c => !Text.isBlank c) ≠ some '#' ∧
      "204" ∉ SkipDirective.skippedIds line ∧ limit < line.toList.length)
    ⟨fun h => ⟨h.1, h.2.1, h.2.2⟩, fun h => ⟨h.1, h.2, h.3⟩⟩

theorem TooLong.mono {limit limit' : Nat} {line : String} (hle : limit ≤ limit')
    (h : TooLong limit' line) : TooLong limit line :=
  ⟨h.no_comment, h.not_skipped, hle.trans_lt h.long⟩

theorem longLines_matchLine (limit : Nat) (file : StateFile) (line : String) :
    (longLines limit).matchLine file line =
      if limit < line.toList.length then .flagged else .clean := by
  simp only [longLines, LineVerdict.ofBool, isLong_iff]

theorem longLines_lineReport? (limit : Nat) (file : StateFile) (line : String) :
    (longLines limit).lineReport? file line = if TooLong limit line then some none else none := by
  rw [Rule.lineReport?, longLines_matchLine]
  by_cases hc : isComment line
  · have hn : ¬ TooLong limit line := fun h => h.no_comment (isComment_iff.mp hc)
    simp [hc, hn]
  by_cases hs : "204" ∈ SkipDirective.skippedIds line
  · have hn : ¬ TooLong limit line := fun h => h.not_skipped hs
    simp [longLines, hs, hn]
  have hrest : TooLong limit line ↔ limit < line.toList.length :=
    ⟨TooLong.long, fun h => ⟨mt isComment_iff.mpr hc, hs, h⟩⟩
  by_cases hl : limit < line.toList.length
  · simp [longLines, hc, hs, hrest, hl]
  · simp [longLines, hc, hs, hrest, hl]

theorem longLines_lineNumbers (limit : Nat) (file : StateFile) (text : String) :
    ((longLines limit).lineFindings file text).map Finding.lineNumber =
      (((lines text).zipIdx 1).filter fun x => TooLong limit x.1).map Prod.snd := by
  rw [Rule.lineFindings_eq_filter (longLines_lineReport? limit), List.map_map]
  rfl

/-- The lines that are reported under a limit are those that have more characters, comments and lines
that opt out apart. A line of so few bytes that its characters are not counted would not be reported
if they were. Under a higher limit some of the same lines are reported, and no others. -/
theorem longLines_by_characters :
    (∀ (limit : Nat) (file : StateFile) (text : String),
      (longLines limit).lineFindings file text =
        (((lines text).zipIdx 1).filter fun x => TooLong limit x.1).map fun x =>
          ⟨x.2, x.1, file.path, longLines limit,
            "Lines should be no longer that " ++ toString limit ++ " chars"⟩) ∧
    (∀ (limit : Nat) (file : StateFile) (line : String), (longLines limit).matchLine file line =
      if limit < line.toList.length then .flagged else .clean) ∧
    ∀ (limit limit' : Nat) (file : StateFile) (text : String), limit ≤ limit' →
      (((longLines limit').lineFindings file text).map Finding.lineNumber).Sublist
        (((longLines limit).lineFindings file text).map Finding.lineNumber) := by
  refine ⟨?_, longLines_matchLine, ?_⟩
  · intro limit file text
    exact Rule.lineFindings_eq_filter (longLines_lineReport? limit) file text
  · intro limit limit' file text hle
    rw [longLines_lineNumbers, longLines_lineNumbers]
    apply List.Sublist.map
    apply List.monotone_filter_right
    intro x hx
    rw [decide_eq_true_iff] at hx ⊢
    exact hx.mono hle

/-- Letters of two bytes: two of them, then three in a comment, before a directive, and alone. -/
def accentedText : String := "éé\n # ééé\nééé # noqa: 204\nééé"

/-- With the limit at 2, the first line has too many bytes but not too many characters. -/
theorem longLines_by_characters_accented :
    1 ≤ 2 ∧ ((longLines 2).lineFindings webState accentedText).map Finding.lineNumber = [4] ∧
      ((longLines 1).lineFindings webState accentedText).map Finding.lineNumber = [1, 4] ∧
      [4].Sublist [1, 4] ∧ (longLines 2).matchLine webState "éé" = .clean := by
  have hle : 1 ≤ 2 := by decide
  obtain ⟨hreport, hverdict, hfewer⟩ := longLines_by_characters
  have hhigh : ((longLines 2).lineFindings webState accentedText).map Finding.lineNumber =
      [4] := by
    rw [hreport]
    decide +kernel
  have hlow : ((longLines 1).lineFindings webState accentedText).map Finding.lineNumber =
      [1, 4] := by
    rw [hreport]
    decide +kernel
  have hsub := hfewer 1 2 webState accentedText hle
  rw [hhigh, hlow] at hsub
  exact ⟨hle, hhigh, hlow, hsub, hverdict 2 webState "éé"⟩

end Builtin

end StateLint
