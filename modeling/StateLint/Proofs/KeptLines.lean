import Mathlib.Data.List.DropRight
import StateLint.Proofs.PatternLines
import StateLint.Proofs.TextPieces

/-! # The lines that a set keeps

A set keeps the lines that hold a pattern, without the blanks at their ends. Such a line is read like
the one it was made from, so that the lines of a set make the same set again. Nothing else of a line
counts, and so it makes no difference whether the lines of a block end in a newline alone or in a
carriage return and a newline. -/
namespace StateLint

namespace Text

theorem trimEnd_idem (s : List Char) : trimEnd (trimEnd s) = trimEnd s :=
  List.rdropWhile_idempotent isBlank s

theorem trimEnd_cons_congr {s t : List Char} (h : trimEnd s = trimEnd t) (c : Char) :
    trimEnd (c :: s) = trimEnd (c :: t) := by
  have hd : s.reverse.dropWhile isBlank = t.reverse.dropWhile isBlank := List.reverse_injective h
  rw [trimEnd, trimEnd, List.reverse_cons, List.reverse_cons, List.dropWhile_append,
    List.dropWhile_append, hd]

theorem blockLines_ne_nil (c : Char) (s : List Char) : blockLines (c :: s) ≠ [] := by
  unfold blockLines
  split
  · next h => cases h
  · exact List.cons_ne_nil _ _
  · exact List.cons_ne_nil _ _
  · exact List.cons_ne_nil _ _
  · split
    · exact List.cons_ne_nil _ _
    · split
      · exact List.cons_ne_nil _ _
      · exact List.cons_ne_nil _ _

theorem split_cons_sep {sep c : Char} (h : c ≠ sep) (s : List Char) :
    split sep (c :: sep :: s) = [c] :: split sep s := by
  have hc : sep ∉ [c] := by simpa using Ne.symm h
  rw [← List.singleton_append, split_append_cons, split_of_not_mem hc, List.singleton_append]

/-- The lines of a block are the pieces between its newlines, up to blanks at their ends and to an
empty piece behind the last newline. -/
theorem map_trimEnd_split (s : List Char) :
    ∃ tail, (∀ piece ∈ tail, piece = []) ∧
      (split '\n' s).map trimEnd = (blockLines s).map trimEnd ++ tail := by
  induction s using blockLines.induct with
  | case1 => exact ⟨[[]], by simp, rfl⟩
  | case2 s ih =>
    obtain ⟨tail, ht, hs⟩ := ih
    refine ⟨tail, ht, ?_⟩
    rw [split_cons_self, List.map_cons, hs]
    rfl
  | case3 s ih =>
    -- The carriage return stays in the piece, and is a blank at its end.
    obtain ⟨tail, ht, hs⟩ := ih
    refine ⟨tail, ht, ?_⟩
    rw [split_cons_sep (by decide), List.map_cons, hs]
    rfl
  | case4 c hc =>
    have hn : '\n' ∉ [c] := by simpa using Ne.symm hc
    refine ⟨[], by simp, ?_⟩
    rw [split_of_not_mem hn, List.append_nil]
    simp [blockLines]
  | case5 c s hc hr ih =>
    obtain ⟨tail, ht, hs⟩ := ih
    refine ⟨tail, ht, ?_⟩
    rw [split_cons_sep hc, List.map_cons, hs]
    simp [blockLines]
  | case6 c d s hc hr hd hnil => exact absurd hnil (blockLines_ne_nil d s)
  | case7 c d s hc hr hd p ps hp ih =>
    -- The character joins the first line and the first piece, which may differ in their blanks.
    obtain ⟨tail, ht, hs⟩ := ih
    obtain ⟨q, qs, hq, hcq⟩ := split_cons_of_ne hc (d :: s)
    refine ⟨tail, ht, ?_⟩
    have hcp : blockLines (c :: d :: s) = (c :: p) :: ps := by simp [blockLines, hd, hp]
    rw [hq, hp, List.map_cons, List.map_cons, List.cons_append] at hs
    obtain ⟨hpq, hrest⟩ := List.cons.inj hs
    rw [hcq, hcp, List.map_cons, List.map_cons, List.cons_append, trimEnd_cons_congr hpq, hrest]

end Text

theorem trimmedEnd_idem (s : String) : trimmedEnd (trimmedEnd s) = trimmedEnd s := by
  rw [trimmedEnd, trimmedEnd, String.toList_ofList, Text.trimEnd_idem]

theorem map_trimmedEnd_ofList (pieces : List (List Char)) :
    (pieces.map String.ofList).map trimmedEnd = (pieces.map Text.trimEnd).map String.ofList := by
  simp [trimmedEnd]

theorem PathPattern.ofLine_eq_ok_none_iff {line : String} :
    ofLine line = .ok none ↔ line.toList.head? = some '#' ∨ withoutEnd line.toList = [] := by
  unfold ofLine
  by_cases hc : line.toList.head? = some '#'
  · simp [hc]
  by_cases he : withoutEnd line.toList = []
  · simp [he]
  · cases hg : Glob.parse (outline (withoutEnd line.toList)).globText with
    | error e => simp [hc, he, hg]
    | ok glob => simp [hc, he, hg]

namespace PathPatternSet

section Gather

variable {read : String → Except Glob.ParseError (Option PathPattern)} {p : String → Bool}

theorem gather_map {f : String → String} (h : ∀ line, read (f line) = read line)
    (lines : List String) : gather read (lines.map f) = gather read lines := by
  induction lines with
  | nil => rfl
  | cons line lines ih => rw [List.map_cons, gather, gather, ih, h]

/-- Lines in which nothing is found can be left out. -/
theorem gather_filter (h : ∀ line, p line = false → read line = .ok none) (lines : List String) :
    gather read (lines.filter p) = gather read lines := by
  induction lines with
  | nil => rfl
  | cons line lines ih =>
    cases hp : p line with
    | true => rw [List.filter_cons_of_pos hp, gather, gather, ih]
    | false =>
      rw [List.filter_cons_of_neg (by simp [hp]), ih, gather, h line hp]
      cases gather read lines <;> rfl

end Gather

variable {base : Option Path} {line : String} {lines : List String} {set : PathPatternSet}
  {own : Option PathPattern} {ps : List PathPattern}

/-- The lines that hold a pattern, without the blanks at their ends. -/
def kept (lines : List String) : List String :=
  (lines.filter fun line => ¬ IsBlankText line ∧ ¬ IsComment line).map trimmedEnd

theorem holdsPattern_trimmedEnd (line : String) :
    holdsPattern (trimmedEnd line) = holdsPattern line := by
  rw [holdsPattern, trimmedEnd_idem, holdsPattern]

theorem added_trimmedEnd (line : String) : added (trimmedEnd line) = added line := by
  rw [added, holdsPattern_trimmedEnd, trimmedEnd_idem, added]

/-- The blanks can be taken off before it is asked which lines hold a pattern. -/
theorem kept_eq_filter (lines : List String) :
    kept lines = (lines.map trimmedEnd).filter holdsPattern := by
  rw [List.filter_map, kept]
  apply congrArg (List.map trimmedEnd)
  apply List.filter_congr
  intro line _
  rw [Function.comp_apply, holdsPattern_trimmedEnd, Bool.eq_iff_iff, decide_eq_true_iff,
    holdsPattern_iff]

theorem kept_append (before after : List String) :
    kept (before ++ after) = kept before ++ kept after := by
  rw [kept, List.filter_append, List.map_append, kept, kept]

theorem gather_added_kept (lines : List String) :
    gather added (kept lines) = gather added lines := by
  have hskip : ∀ line, holdsPattern line = false → added line = .ok none := by
    intro line h
    simp [added, h]
  rw [kept_eq_filter, gather_filter hskip, gather_map added_trimmedEnd]

theorem isSome_of_added (h : added line = .ok own) : own.isSome ↔ holdsPattern line := by
  by_cases hp : holdsPattern line
  · rw [added, if_pos hp] at h
    rw [iff_true_right hp, Option.isSome_iff_ne_none]
    rintro rfl
    -- What is left of the line is neither a comment nor empty.
    rw [PathPattern.ofLine_eq_ok_none_iff, trimmedEnd, String.toList_ofList,
      PathPattern.withoutEnd_trimEnd] at h
    rw [holdsPattern, trimmedEnd, String.toList_ofList] at hp
    rcases h with h | h
    · simp [h] at hp
    · simp [h, Text.trimStart] at hp
  · rw [added, if_neg hp] at h
    cases h
    simp [hp]

theorem texts_of_added (h : added line = .ok own) :
    own.toList.map (·.text) = kept [line] := by
  have hs := isSome_of_added h
  rw [kept_eq_filter, List.map_singleton, List.filter_singleton, holdsPattern_trimmedEnd]
  cases own with
  | none =>
    have hn : holdsPattern line = false := by simpa using hs
    simp [hn]
  | some p =>
    have hp : holdsPattern line = true := hs.mp rfl
    simp [hp, (text_of_added h).1]

theorem texts_of_gather (h : gather added lines = .ok ps) : ps.map (·.text) = kept lines := by
  induction lines generalizing ps with
  | nil =>
    cases h
    rfl
  | cons line lines ih =>
    obtain ⟨own, more, ho, hm, rfl⟩ := gather_cons_eq_ok_iff.mp h
    rw [List.map_append, texts_of_added ho, ih hm, ← kept_append, List.singleton_append]

theorem compile_kept_iff : compile base (kept lines) = .ok set ↔ compile base lines = .ok set := by
  rw [compile_eq_ok_iff, compile_eq_ok_iff, gather_added_kept]

theorem lines_eq_kept (h : compile base lines = .ok set) : set.lines = kept lines :=
  texts_of_gather (compile_eq_ok_iff.mp h).1

theorem kept_blockLines (block : String) :
    kept ((Text.blockLines block.toList).map String.ofList) = kept (StateLint.lines block) := by
  obtain ⟨tail, ht, hs⟩ := Text.map_trimEnd_split block.toList
  have hnone : (tail.map String.ofList).filter holdsPattern = [] := by
    rw [List.filter_eq_nil_iff]
    intro line hl
    obtain ⟨piece, hp, rfl⟩ := List.mem_map.mp hl
    rw [ht piece hp]
    decide
  rw [kept_eq_filter, kept_eq_filter, StateLint.lines, map_trimmedEnd_ofList,
    map_trimmedEnd_ofList, hs, List.map_append, List.filter_append, hnone, List.append_nil]

/-- The lines of a set are those that hold a pattern, without the blanks at their ends, and they make
the same set again, with the same lines and the same paths. A block makes the set of such lines, made
from the pieces between its newlines. -/
theorem compile_own_lines :
    (∀ (base : Option Path) (lines : List String) (set : PathPatternSet),
      compile base lines = .ok set → set.lines = kept lines ∧ compile base set.lines = .ok set) ∧
    ∀ (base : Option Path) (block : String) (set : PathPatternSet),
      compileBlock base block = .ok set ↔ compile base (kept (StateLint.lines block)) = .ok set := by
  constructor
  · intro base lines set h
    have hk := lines_eq_kept h
    refine ⟨hk, ?_⟩
    rw [hk, compile_kept_iff]
    exact h
  · intro base block set
    rw [compileBlock, ← compile_kept_iff, kept_blockLines]

/-- A comment, a blank line, and two patterns with blanks around them. -/
def returnsBlock : String := "# web/\r\n\u3000\r\n #b \u2028\r\nweb/\t\r\n"

def returnsLines : List String := ["# web/", "\u3000", " #b \u2028", "web/\t\r"]

def returnsSet : PathPatternSet := (compile none returnsLines).toOption.getD empty

theorem compile_own_lines_returns :
    compile none returnsLines = .ok returnsSet ∧ returnsSet.lines = [" #b", "web/"] ∧
      compile none [" #b", "web/"] = .ok returnsSet ∧
      compileBlock none returnsBlock = .ok returnsSet ∧
      returnsSet.contains ⟨"web/a.sls"⟩ = true := by
  have hset : compile none returnsLines = .ok returnsSet := by rfl
  have hkept : kept returnsLines = [" #b", "web/"] := by decide +kernel
  have hblock : kept (StateLint.lines returnsBlock) = [" #b", "web/"] := by decide +kernel
  obtain ⟨hagain, hsame⟩ := compile_own_lines
  obtain ⟨hlines, hown⟩ := hagain none returnsLines returnsSet hset
  rw [hlines, hkept] at hown
  refine ⟨hset, hlines.trans hkept, hown, ?_, by decide +kernel⟩
  rw [hsame, hblock]
  exact hown

end PathPatternSet

end StateLint
