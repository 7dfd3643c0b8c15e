import Mathlib.Data.List.TakeWhile
import StateLint.Jinja
import StateLint.Proofs.TextPieces

/-! # Nothing is left of template expressions

Hiding the expressions of a text leaves none, not even one that comes about where a placeholder joins
what stands on its two sides: two braces that open before the placeholder would have been closed by
the expression in its place, and hidden together with it.

Every text is nothing, or an expression and a text, or a character at which no expression begins and
a text; all statements are proved along this division. -/
namespace StateLint.Jinja

variable {s t u e : List Char} {c : Char}

/-- Two opening braces, no closing brace, and two closing braces. -/
def IsExpression (e : List Char) : Prop :=
  ∃ body, '}' ∉ body ∧ e = '{' :: '{' :: (body ++ ['}', '}'])

/-- An expression stands at the beginning of the text. -/
def Begins (s : List Char) : Prop := ∃ e, IsExpression e ∧ e <+: s

/-- No expression stands anywhere in the text. -/
def Free (s : List Char) : Prop := ∀ e, IsExpression e → ¬ e <:+: s

/-- The first closing brace is followed by another one. -/
def Closes (s : List Char) : Prop := ∃ body rest, '}' ∉ body ∧ s = body ++ '}' :: '}' :: rest

theorem begins_iff : Begins s ↔ ∃ u, s = '{' :: '{' :: u ∧ Closes u := by
  constructor
  · rintro ⟨e, ⟨body, hb, rfl⟩, rest, rfl⟩
    exact ⟨body ++ '}' :: '}' :: rest, by simp, body, rest, hb, rfl⟩
  · rintro ⟨u, rfl, body, rest, hb, rfl⟩
    exact ⟨_, ⟨body, hb, rfl⟩, rest, by simp⟩

theorem IsExpression.closes (he : IsExpression e) (s : List Char) : Closes (e ++ s) := by
  obtain ⟨body, hb, rfl⟩ := he
  exact ⟨'{' :: '{' :: body, s, by simpa using hb, by simp⟩

theorem closes_cons_iff (hc : c ≠ '}') : Closes (c :: s) ↔ Closes s := by
  constructor
  · rintro ⟨body, rest, hb, hs⟩
    cases body with
    | nil => exact absurd (List.cons.inj hs).1 hc
    | cons d body =>
      exact ⟨body, rest, fun hm => hb (List.mem_cons_of_mem d hm), (List.cons.inj hs).2⟩
  · rintro ⟨body, rest, hb, rfl⟩
    exact ⟨c :: body, rest, by simpa [Ne.symm hc] using hb, rfl⟩

theorem closes_cons_close_iff : Closes ('}' :: s) ↔ ∃ rest, s = '}' :: rest := by
  constructor
  · rintro ⟨body, rest, hb, hs⟩
    cases body with
    | nil => exact ⟨rest, (List.cons.inj hs).2⟩
    | cons d body =>
      obtain ⟨rfl, -⟩ := List.cons.inj hs
      exact absurd List.mem_cons_self hb
  · rintro ⟨rest, rfl⟩
    exact ⟨[], rest, by simp, rfl⟩

theorem dropWhile_closing {body : List Char} (h : '}' ∉ body) (rest : List Char) :
    (body ++ '}' :: rest).dropWhile (· != '}') = '}' :: rest := by
  rw [List.dropWhile_append_of_pos (Text.forall_ne_of_not_mem h)]
  rfl

theorem afterExpression?_append (he : IsExpression e) (s : List Char) :
    afterExpression? (e ++ s) = some s := by
  obtain ⟨body, hb, rfl⟩ := he
  have hd := dropWhile_closing hb ('}' :: s)
  simp [afterExpression?, hd]

theorem eq_append_of_afterExpression? (h : afterExpression? s = some t) :
    ∃ e, IsExpression e ∧ s = e ++ t := by
  unfold afterExpression? at h
  split at h
  · next u =>
    split at h
    · next hd =>
      cases h
      refine ⟨_, ⟨u.takeWhile (· != '}'), ?_, rfl⟩, ?_⟩
      · intro hm
        simpa using List.mem_takeWhile_imp hm
      · have hu := List.takeWhile_append_dropWhile (p := (· != '}')) (l := u)
        rw [hd] at hu
        nth_rewrite 1 [← hu]
        simp
    · cases h
  · cases h

theorem afterExpression?_eq_none_iff : afterExpression? s = none ↔ ¬ Begins s := by
  constructor
  · rintro h ⟨e, he, rest, rfl⟩
    rw [afterExpression?_append he] at h
    cases h
  · intro h
    cases ht : afterExpression? s with
    | none => rfl
    | some t =>
      obtain ⟨e, he, rfl⟩ := eq_append_of_afterExpression? ht
      exact absurd ⟨e, he, t, rfl⟩ h

theorem hide_nil : hide [] = [] := by rw [hide]

theorem hide_append (he : IsExpression e) (s : List Char) :
    hide (e ++ s) = placeholder ++ hide s := by
  have h := afterExpression?_append he s
  obtain ⟨body, -, rfl⟩ := he
  rw [List.cons_append] at h ⊢
  rw [hide]
  split
  · next rest hr =>
    rw [h] at hr
    cases hr
    rfl
  · next hr =>
    rw [h] at hr
    cases hr

theorem hide_cons (h : ¬ Begins (c :: s)) : hide (c :: s) = c :: hide s := by
  have h := afterExpression?_eq_none_iff.mpr h
  rw [hide]
  split
  · next rest hr =>
    rw [h] at hr
    cases hr
  · rfl

@[elab_as_elim]
theorem scan_induct {motive : List Char → Prop} (nil : motive [])
    (expression : ∀ e s, IsExpression e → motive s → motive (e ++ s))
    (kept : ∀ c s, ¬ Begins (c :: s) → motive s → motive (c :: s)) (s : List Char) : motive s := by
  induction s using hide.induct with
  | case1 => exact nil
  | case2 c t rest h ih =>
    obtain ⟨e, he, hs⟩ := eq_append_of_afterExpression? h
    rw [hs]
    exact expression e rest he ih
  | case3 c t h ih => exact kept c t (afterExpression?_eq_none_iff.mp h) ih

/-- Any character that the placeholder does not begin with was there before. -/
theorem eq_cons_of_hide (hc : c ≠ 'J') (h : hide s = c :: t) : ∃ u, s = c :: u ∧ t = hide u := by
  induction s using scan_induct with
  | nil => cases hide_nil.symm.trans h
  | expression e s he =>
    rw [hide_append he] at h
    exact absurd (List.cons.inj h).1.symm hc
  | kept d s hd =>
    rw [hide_cons hd] at h
    obtain ⟨rfl, rfl⟩ := List.cons.inj h
    exact ⟨s, rfl, rfl⟩

/-- A placeholder never lets two braces close that were not closed before: the expression in its
place closed them already. -/
theorem closes_of_closes_hide (h : Closes (hide s)) : Closes s := by
  induction s using scan_induct with
  | nil =>
    rw [hide_nil] at h
    exact h
  | expression e s he => exact he.closes s
  | kept c s hb ih =>
    rw [hide_cons hb] at h
    by_cases hc : c = '}'
    · subst c
      obtain ⟨rest, hr⟩ := closes_cons_close_iff.mp h
      obtain ⟨u, rfl, -⟩ := eq_cons_of_hide (by decide) hr
      exact closes_cons_close_iff.mpr ⟨u, rfl⟩
    · rw [closes_cons_iff hc] at h ⊢
      exact ih h

theorem not_begins_cons_hide (h : ¬ Begins (c :: s)) : ¬ Begins (c :: hide s) := by
  intro hb
  obtain ⟨u, hu, hcl⟩ := begins_iff.mp hb
  obtain ⟨rfl, hs⟩ := List.cons.inj hu
  obtain ⟨v, rfl, rfl⟩ := eq_cons_of_hide (by decide) hs
  exact h (begins_iff.mpr ⟨v, rfl, closes_of_closes_hide hcl⟩)

theorem free_nil : Free [] := by
  rintro e ⟨body, -, rfl⟩ h
  simp at h

theorem free_cons_iff : Free (c :: s) ↔ ¬ Begins (c :: s) ∧ Free s := by
  simp only [Free, Begins, List.infix_cons_iff, not_or, not_exists, not_and]
  exact ⟨fun h => ⟨fun e he => (h e he).1, fun e he => (h e he).2⟩,
    fun h e he => ⟨h.1 e he, h.2 e he⟩⟩

instance (s : List Char) : Decidable (Begins s) :=
  decidable_of_iff (afterExpression? s ≠ none) (by rw [Ne, afterExpression?_eq_none_iff, not_not])

instance decidableFree : (s : List Char) → Decidable (Free s)
  | [] => isTrue free_nil
  | c :: s =>
    have := decidableFree s
    decidable_of_iff (¬ Begins (c :: s) ∧ Free s) free_cons_iff.symm

theorem free_append (ht : '{' ∉ t) (hs : Free s) : Free (t ++ s) := by
  induction t with
  | nil => exact hs
  | cons c t ih =>
    refine free_cons_iff.mpr ⟨?_, ih fun hm => ht (List.mem_cons_of_mem c hm)⟩
    intro hb
    obtain ⟨u, hu, -⟩ := begins_iff.mp hb
    obtain ⟨rfl, -⟩ := List.cons.inj hu
    exact ht List.mem_cons_self

theorem free_hide (s : List Char) : Free (hide s) := by
  induction s using scan_induct with
  | nil =>
    rw [hide_nil]
    exact free_nil
  | expression e s he ih =>
    rw [hide_append he]
    exact free_append (by decide) ih
  | kept c s hb ih =>
    rw [hide_cons hb]
    exact free_cons_iff.mpr ⟨not_begins_cons_hide hb, ih⟩

theorem hide_of_free (h : Free s) : hide s = s := by
  induction s with
  | nil => exact hide_nil
  | cons c s ih =>
    obtain ⟨hc, hs⟩ := free_cons_iff.mp h
    rw [hide_cons hc, ih hs]

/-- A part of a text: a character that stays, or an expression that gives way to the placeholder. -/
inductive Piece where
  | kept (c : Char)
  | expression (e : List Char)

namespace Piece

def source : Piece → List Char
  | kept c => [c]
  | expression e => e

def shown : Piece → List Char
  | kept c => [c]
  | expression _ => placeholder

end Piece

/-- The pieces make up the text, and the expressions among them are taken leftmost first: none
begins at a character that stays. -/
structure Leftmost (pieces : List Piece) (s : List Char) : Prop where
  source : pieces.flatMap Piece.source = s
  isExpression : ∀ e, .expression e ∈ pieces → IsExpression e
  leftmost : ∀ before c after, pieces = before ++ .kept c :: after →
    ¬ Begins (c :: after.flatMap Piece.source)

theorem Leftmost.nil : Leftmost [] [] := ⟨rfl, by simp, by simp⟩

theorem Leftmost.expression {pieces : List Piece} (h : Leftmost pieces s) (he : IsExpression e) :
    Leftmost (.expression e :: pieces) (e ++ s) := by
  refine ⟨by simp [Piece.source, h.source], ?_, ?_⟩
  · intro e' hm
    rcases List.mem_cons.mp hm with heq | hm
    · cases heq
      exact he
    · exact h.isExpression e' hm
  · intro before c after hp
    cases before with
    | nil => cases hp
    | cons p before => exact h.leftmost before c after (List.cons.inj hp).2

theorem Leftmost.kept {pieces : List Piece} (h : Leftmost pieces s) (hb : ¬ Begins (c :: s)) :
    Leftmost (.kept c :: pieces) (c :: s) := by
  refine ⟨by simp [Piece.source, h.source], ?_, ?_⟩
  · intro e hm
    exact h.isExpression e (by simpa using hm)
  · intro before d after hp
    cases before with
    | nil =>
      cases hp
      rw [h.source]
      exact hb
    | cons p before => exact h.leftmost before d after (List.cons.inj hp).2

theorem exists_leftmost (s : List Char) : ∃ pieces, Leftmost pieces s := by
  induction s using scan_induct with
  | nil => exact ⟨[], .nil⟩
  | expression e s he ih =>
    obtain ⟨pieces, hp⟩ := ih
    exact ⟨_, hp.expression he⟩
  | kept c s hb ih =>
    obtain ⟨pieces, hp⟩ := ih
    exact ⟨_, hp.kept hb⟩

theorem Leftmost.hide_eq {pieces : List Piece} (h : Leftmost pieces s) :
    hide s = pieces.flatMap Piece.shown := by
  induction pieces generalizing s with
  | nil =>
    rw [← h.source]
    exact hide_nil
  | cons p pieces ih =>
    have htail : Leftmost pieces (pieces.flatMap Piece.source) := by
      refine ⟨rfl, fun e hm => h.isExpression e (List.mem_cons_of_mem p hm), ?_⟩
      intro before c after hp
      exact h.leftmost (p :: before) c after (by rw [hp]; rfl)
    rw [← h.source, List.flatMap_cons, List.flatMap_cons, ← ih htail]
    cases p with
    | kept c => exact hide_cons (h.leftmost [] c pieces rfl)
    | expression e => exact hide_append (h.isExpression e List.mem_cons_self) _

/-- No expression is in a text whose expressions were hidden, so that hiding them again changes
nothing, as it changes nothing in any text without one. The text is the old one with a placeholder in
the place of each expression that is met from left to right. -/
theorem hideExpressions_leaves_none (text : String) :
    Free (hideExpressions text).toList ∧
    hideExpressions (hideExpressions text) = hideExpressions text ∧
    (Free text.toList → hideExpressions text = text) ∧
    (∃ pieces, Leftmost pieces text.toList) ∧
    ∀ pieces, Leftmost pieces text.toList →
      (hideExpressions text).toList = pieces.flatMap Piece.shown := by
  have hfree : Free (hideExpressions text).toList := by
    rw [hideExpressions, String.toList_ofList]
    exact free_hide text.toList
  have hsame : ∀ t : String, Free t.toList → hideExpressions t = t := by
    intro t ht
    rw [hideExpressions, hide_of_free ht, String.ofList_toList]
  refine ⟨hfree, hsame _ hfree, hsame text, exists_leftmost text.toList, ?_⟩
  intro pieces hp
  rw [hideExpressions, String.toList_ofList, hp.hide_eq]

/-- There is no expression in `{% {{a} }}`. In `{{{{a}}}{{}}` there are two: the first two braces
belong to the expression behind them, and the brace that is left over stays. -/
theorem hideExpressions_leaves_none_nested :
    Free "\x7b% \x7b\x7ba\x7d \x7d\x7d".toList ∧
      hideExpressions "\x7b% \x7b\x7ba\x7d \x7d\x7d" = "\x7b% \x7b\x7ba\x7d \x7d\x7d" ∧
      (hideExpressions "\x7b\x7b\x7b\x7ba\x7d\x7d\x7d\x7b\x7b\x7d\x7d").toList =
        "JINJA_VAR\x7dJINJA_VAR".toList := by
  have hf : Free "\x7b% \x7b\x7ba\x7d \x7d\x7d".toList := by decide
  have hfirst : IsExpression "\x7b\x7b\x7b\x7ba\x7d\x7d".toList :=
    ⟨"\x7b\x7ba".toList, by decide, rfl⟩
  have hlast : IsExpression "\x7b\x7b\x7d\x7d".toList := ⟨[], by decide, rfl⟩
  have hb : ¬ Begins ('}' :: ("\x7b\x7b\x7d\x7d".toList ++ [])) := by decide
  obtain ⟨-, -, hsame, -⟩ := hideExpressions_leaves_none "\x7b% \x7b\x7ba\x7d \x7d\x7d"
  obtain ⟨-, -, -, -, hshown⟩ :=
    hideExpressions_leaves_none "\x7b\x7b\x7b\x7ba\x7d\x7d\x7d\x7b\x7b\x7d\x7d"
  exact ⟨hf, hsame hf, hshown _ (((Leftmost.nil.expression hlast).kept hb).expression hfirst)⟩

end StateLint.Jinja
