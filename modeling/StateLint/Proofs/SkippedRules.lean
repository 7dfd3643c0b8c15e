import StateLint.Proofs.BlankText
import StateLint.Proofs.LineFindings

/-! # Skip directives name the rules that they skip

A line with a directive is made of a text without a marker, a marker, ids with blanks between them,
and then nothing or another marker. What is read from such a line are the ids, whole and in order: no
marker begins in the text before the first one and ends in it, and none is in the ids. -/
namespace StateLint.SkipDirective

open Text

variable {s p : List Char}

theorem cut?_append_marker (hp : ¬ marker <:+: p) (rest : List Char) :
    cut? marker (p ++ (marker ++ rest)) = some (p, rest) :=
  Text.cut?_append_marker (by decide) hp rest

theorem not_marker_infix (h : '#' ∉ s) : ¬ marker <:+: s := by
  intro hm
  exact h (hm.subset (by decide))

theorem parse?_eq_none_iff : parse? s = none ↔ ¬ marker <:+: s := by
  rw [parse?, Option.map_eq_none_iff, cut?_eq_none_iff]

theorem parse?_append {tail : List Char} (hp : ¬ marker <:+: p) (hs : ¬ marker <:+: s)
    (ht : tail = [] ∨ marker <+: tail) :
    parse? (p ++ (marker ++ (s ++ tail))) = some (words s) := by
  rcases ht with rfl | ⟨rest, rfl⟩
  · simp [parse?, cut?_append_marker hp, cut?_eq_none_iff.mpr hs]
  · simp [parse?, cut?_append_marker hp, cut?_append_marker hs]

theorem not_isBlank_of_isDigit {c : Char} (h : c.isDigit) : ¬ isBlank c := by
  have hc : 48 ≤ c.toNat ∧ c.toNat ≤ 57 := by
    simpa [Char.isDigit, UInt32.le_iff_toNat_le] using h
  simp [isBlank]
  omega

/-- An id in a directive, and the blanks before it. -/
structure Mention where
  gap : List Char
  id : List Char
  gap_blank : ∀ c ∈ gap, isBlank c
  id_ne_nil : id ≠ []
  id_digits : ∀ c ∈ id, c.isDigit

/-- A line with a directive, in its parts. -/
structure Line where
  before : List Char
  mentions : List Mention
  blanks : List Char
  tail : List Char
  before_unmarked : ¬ marker <:+: before
  apart : ∀ m ∈ mentions.tail, m.gap ≠ []
  blanks_blank : ∀ c ∈ blanks, isBlank c
  tail_marked : tail = [] ∨ marker <+: tail

def Mention.text (m : Mention) : List Char := m.gap ++ m.id

theorem words_mentions {mentions : List Mention} (h : ∀ m ∈ mentions.tail, m.gap ≠ [])
    {blanks : List Char} (hb : ∀ c ∈ blanks, isBlank c) :
    words (mentions.flatMap Mention.text ++ blanks) = mentions.map Mention.id := by
  induction mentions with
  | nil =>
    have hw := words_blanks_append hb []
    rwa [List.append_nil] at hw
  | cons m rest ih =>
    -- Behind an id stands a blank: of the next gap, or of those at the end.
    have hhead : ∀ c, (rest.flatMap Mention.text ++ blanks).head? = some c → isBlank c := by
      intro c hc
      cases rest with
      | nil => exact hb c (List.mem_of_head? hc)
      | cons m' rest =>
        obtain ⟨d, gap, hg⟩ := List.exists_cons_of_ne_nil (h m' List.mem_cons_self)
        have hd : d = c := by simpa [Mention.text, hg] using hc
        apply m'.gap_blank
        rw [hg, ← hd]
        exact List.mem_cons_self
    have hsolid : ∀ c ∈ m.id, ¬ isBlank c := fun c hc => not_isBlank_of_isDigit (m.id_digits c hc)
    rw [List.flatMap_cons, Mention.text, List.append_assoc, List.append_assoc,
      words_blanks_append m.gap_blank, words_append_of_head m.id_ne_nil hsolid hhead,
      ih fun m hm => h m (List.mem_of_mem_tail hm), List.map_cons]

namespace Line

def listed (l : Line) : List Char := l.mentions.flatMap Mention.text ++ l.blanks

def text (l : Line) : List Char := l.before ++ (marker ++ (l.listed ++ l.tail))

def ids (l : Line) : List (List Char) := l.mentions.map Mention.id

theorem hash_not_mem_listed (l : Line) : '#' ∉ l.listed := by
  intro h
  rcases List.mem_append.mp h with h | h
  · obtain ⟨m, -, h⟩ := List.mem_flatMap.mp h
    rcases List.mem_append.mp h with h | h
    · exact absurd (m.gap_blank '#' h) (by decide)
    · exact absurd (m.id_digits '#' h) (by decide)
  · exact absurd (l.blanks_blank '#' h) (by decide)

theorem parse?_text (l : Line) : parse? l.text = some l.ids := by
  have hl := not_marker_infix l.hash_not_mem_listed
  rw [text, parse?_append l.before_unmarked hl l.tail_marked, listed,
    words_mentions l.apart l.blanks_blank, ids]

theorem skippedIds_text (l : Line) :
    skippedIds (String.ofList l.text) = l.ids.map String.ofList := by
  rw [skippedIds, String.toList_ofList, parse?_text, Option.getD_some]

end Line

/-- There is no directive without a marker, the ids of a directive are read as they are written, and
a line with a directive that is no comment is reported by the rules that are not named and fire. -/
theorem skips_named_rules :
    (∀ line, parse? line = none ↔ ¬ marker <:+: line) ∧
    (∀ l : Line, parse? l.text = some l.ids) ∧
    ∀ (l : Line) (r : Rule) (file : StateFile) (text : String) (i : Nat),
      (lines text)[i]? = some (String.ofList l.text) →
      l.text.find? (fun c => !isBlank c) ≠ some '#' →
      ((∃ f ∈ r.lineFindings file text, f.lineNumber = i + 1) ↔
        r.id ∉ l.ids.map String.ofList ∧
          (r.matchLine file (String.ofList l.text)).isFlagged) := by
  refine ⟨fun _ => parse?_eq_none_iff, Line.parse?_text, ?_⟩
  intro l r file text i hl hc
  have hcomment : ¬ isComment (String.ofList l.text) := by
    rw [isComment_iff, String.toList_ofList]
    exact hc
  rw [Rule.exists_lineNumber_iff hl, Rule.lineReport?_isSome_iff, Line.skippedIds_text,
    and_iff_right hcomment]

/-- `203` is only the beginning of an id, and behind the second marker. -/
def twiceMarked : Line where
  before := "\tx ".toList
  mentions := [
    ⟨[], "201".toList, by simp, by decide, List.all_eq_true.mp (by decide)⟩,
    ⟨" \t".toList, "2031".toList, List.all_eq_true.mp (by decide), by decide,
      List.all_eq_true.mp (by decide)⟩]
  blanks := " ".toList
  tail := "# noqa: 203".toList
  before_unmarked := by decide
  apart := by decide
  blanks_blank := List.all_eq_true.mp (by decide)
  tail_marked := by decide

theorem skips_named_rules_twice :
    parse? "\tx # noqa:201 \t2031 # noqa: 203".toList = some ["201".toList, "2031".toList] ∧
      (lines "a\n\tx # noqa:201 \t2031 # noqa: 203")[1]? = some (String.ofList twiceMarked.text) ∧
      twiceMarked.text.find? (fun c => !isBlank c) ≠ some '#' ∧
      ∃ f ∈ Builtin.tabs.lineFindings webState "a\n\tx # noqa:201 \t2031 # noqa: 203",
        f.lineNumber = 2 := by
  have hl : (lines "a\n\tx # noqa:201 \t2031 # noqa: 203")[1]? =
      some (String.ofList twiceMarked.text) := by decide +kernel
  have hc : twiceMarked.text.find? (fun c => !isBlank c) ≠ some '#' := by decide +kernel
  obtain ⟨-, hparse, hreport⟩ := skips_named_rules
  exact ⟨hparse twiceMarked, hl, hc, (hreport twiceMarked Builtin.tabs webState _ 1 hl hc).mpr
    ⟨by decide +kernel, by decide +kernel⟩⟩

end StateLint.SkipDirective
