import Mathlib.Data.List.TakeWhile
import StateLint.Report
import StateLint.Rule.Builtin

/-! # Colours are decoration only

A terminal is switched to a colour by a sequence that begins with an escape character. Where the
findings themselves hold no such character, all sequences of a report are those that were put there
to colour it, and deleting them gives the report without colours, whatever brackets, digits and
letters stand next to them. -/
namespace StateLint

namespace Text

variable {s t e : List Char} {c : Char}

def escape : Char := '\x1b'

/-- The characters between the bracket and the end of a sequence. -/
def isParameter (c : Char) : Bool := c.isDigit || c == ';'

/-- An escape character, a bracket, digits and semicolons, and `m`. -/
def IsColorSequence (e : List Char) : Prop :=
  ∃ params : List Char, (∀ c ∈ params, isParameter c = true) ∧
    e = escape :: '[' :: (params ++ ['m'])

/-- What follows the colour sequence at the start of a text. -/
def afterColor? : List Char → Option (List Char)
  | '\x1b' :: '[' :: s =>
    match s.dropWhile isParameter with
    | 'm' :: rest => some rest
    | _ => none
  | _ => none

theorem afterColor?_append (he : IsColorSequence e) (s : List Char) :
    afterColor? (e ++ s) = some s := by
  obtain ⟨params, hp, rfl⟩ := he
  -- `m` is no parameter, so a sequence ends at its own and not at one in the text behind it.
  have hd : (params ++ 'm' :: s).dropWhile isParameter = 'm' :: s := by
    rw [List.dropWhile_append_of_pos hp]
    rfl
  simp [afterColor?, escape, hd]

theorem eq_append_of_afterColor? (h : afterColor? s = some t) :
    ∃ e, IsColorSequence e ∧ s = e ++ t := by
  unfold afterColor? at h
  split at h
  · next u =>
    split at h
    · next hd =>
      cases h
      refine ⟨_, ⟨u.takeWhile isParameter, fun c hc => List.mem_takeWhile_imp hc, rfl⟩, ?_⟩
      have hu := List.takeWhile_append_dropWhile (p := isParameter) (l := u)
      rw [hd] at hu
      simp [escape, hu]
    · cases h
  · cases h

theorem isColorSequence_iff : IsColorSequence e ↔ afterColor? e = some [] := by
  constructor
  · intro he
    simpa using afterColor?_append he []
  · intro h
    obtain ⟨e', he, rfl⟩ := eq_append_of_afterColor? h
    simpa using he

/-- A text without its colour sequences, which are deleted from left to right. -/
def deleteColors (s : List Char) : List Char :=
  match s with
  | [] => []
  | c :: t =>
    match _h : afterColor? (c :: t) with
    | some rest => deleteColors rest
    | none => c :: deleteColors t
termination_by s.length
decreasing_by
  · obtain ⟨e, ⟨params, -, rfl⟩, hs⟩ := eq_append_of_afterColor? _h
    rw [hs, List.length_append]
    simp only [List.length_cons]
    omega
  · simp

theorem deleteColors_cons (c : Char) (t : List Char) :
    deleteColors (c :: t) =
      match afterColor? (c :: t) with
      | some rest => deleteColors rest
      | none => c :: deleteColors t := by
  rw [deleteColors]
  split
  · next rest h => rw [h]
  · next h => rw [h]

theorem deleteColors_append_of_sequence (he : IsColorSequence e) (s : List Char) :
    deleteColors (e ++ s) = deleteColors s := by
  have h := afterColor?_append he s
  obtain ⟨params, -, rfl⟩ := he
  rw [List.cons_append] at h ⊢
  rw [deleteColors_cons, h]

theorem deleteColors_cons_of_ne (hc : c ≠ escape) (s : List Char) :
    deleteColors (c :: s) = c :: deleteColors s := by
  have h : afterColor? (c :: s) = none := by
    cases ha : afterColor? (c :: s) with
    | none => rfl
    | some t =>
      obtain ⟨e, ⟨params, -, rfl⟩, hs⟩ := eq_append_of_afterColor? ha
      exact absurd (List.cons.inj hs).1 hc
  rw [deleteColors_cons, h]

theorem deleteColors_append_of_not_mem (hs : escape ∉ s) (t : List Char) :
    deleteColors (s ++ t) = s ++ deleteColors t := by
  induction s with
  | nil => rfl
  | cons c s ih =>
    have hc : c ≠ escape := fun he => hs (he ▸ List.mem_cons_self)
    rw [List.cons_append, deleteColors_cons_of_ne hc, ih fun hm => hs (List.mem_cons_of_mem c hm),
      List.cons_append]

def withoutColors (text : String) : String := String.ofList (deleteColors text.toList)

/-- The one text becomes the other without its colours, whatever follows it. -/
def Decorates (colored plain : String) : Prop :=
  ∀ rest, deleteColors (colored.toList ++ rest) = plain.toList ++ deleteColors rest

namespace Decorates

variable {a b a' b' : String}

theorem of_not_mem (h : escape ∉ a.toList) : Decorates a a :=
  fun rest => deleteColors_append_of_not_mem h rest

theorem of_sequence (h : IsColorSequence a.toList) : Decorates a "" :=
  fun rest => deleteColors_append_of_sequence h rest

theorem append (h : Decorates a b) (h' : Decorates a' b') : Decorates (a ++ a') (b ++ b') := by
  intro rest
  simp only [String.toList_append, List.append_assoc]
  rw [h, h']

theorem join {α : Type*} {xs : List α} {f g : α → String} (h : ∀ x ∈ xs, Decorates (f x) (g x)) :
    Decorates (String.join (xs.map f)) (String.join (xs.map g)) := by
  induction xs with
  | nil => exact of_not_mem (by simp)
  | cons x xs ih =>
    obtain ⟨hx, hxs⟩ := List.forall_mem_cons.mp h
    simp only [List.map_cons, String.join_cons]
    exact hx.append (ih hxs)

theorem withoutColors_eq (h : Decorates a b) : withoutColors a = b := by
  have hall := h []
  rw [List.append_nil, deleteColors, List.append_nil] at hall
  rw [withoutColors, hall, String.ofList_toList]

end Decorates

end Text

open Text (escape Decorates)

/-- What a report shows of a finding, apart from numbers and severities. -/
def Finding.texts (f : Finding) : List String := [f.rule.id, f.message, f.file.text, f.line]

namespace Report

theorem isColorSequence_start (color : Color) : Text.IsColorSequence color.start.toList := by
  rw [Text.isColorSequence_iff]
  cases color <;> rfl

theorem isColorSequence_reset : Text.IsColorSequence Color.reset.toList :=
  Text.isColorSequence_iff.mpr rfl

theorem decorates_paint (color : Color) {text : String} (h : escape ∉ text.toList) :
    Decorates (paint true color text) (paint false color text) := by
  have hp := ((Decorates.of_sequence (isColorSequence_start color)).append (.of_not_mem h)).append
    (.of_sequence isColorSequence_reset)
  simpa [paint] using hp

theorem escape_not_mem_bracketed {text : String} (h : escape ∉ text.toList) :
    escape ∉ ("[" ++ text ++ "]").toList := by
  simpa [escape] using h

theorem escape_not_mem_severity (s : Severity) : escape ∉ s.name.toList := by
  cases s <;> decide

theorem escape_not_mem_number (n : Nat) : escape ∉ (toString n).toList := by
  intro hm
  have hd : escape ∈ Nat.toDigits 10 n := by simpa using hm
  exact absurd (Nat.isDigit_of_mem_toDigits (by decide) (by decide) hd) (by decide)

theorem decorates_renderFinding {f : Finding} (h : ∀ text ∈ f.texts, escape ∉ text.toList)
    (withSeverity : Bool) :
    Decorates (renderFinding withSeverity true f) (renderFinding withSeverity false f) := by
  simp only [Finding.texts, List.forall_mem_cons] at h
  obtain ⟨hid, hmessage, hfile, hline, -⟩ := h
  have hseverity : Decorates
      (if withSeverity then paint true .yellow ("[" ++ f.rule.severity.name ++ "]") else "")
      (if withSeverity then paint false .yellow ("[" ++ f.rule.severity.name ++ "]") else "") := by
    cases withSeverity with
    | false => exact .of_not_mem (by simp)
    | true => exact decorates_paint .yellow (escape_not_mem_bracketed (escape_not_mem_severity _))
  have hblank : Decorates " " " " := .of_not_mem (by decide)
  have hcolon : Decorates ":" ":" := .of_not_mem (by decide)
  have hbreak : Decorates "\n" "\n" := .of_not_mem (by decide)
  have hend : Decorates "\n\n" "\n\n" := .of_not_mem (by decide)
  unfold renderFinding
  exact (decorates_paint .red (escape_not_mem_bracketed hid)).append hseverity
    |>.append hblank |>.append (decorates_paint .lightRed hmessage) |>.append hbreak
    |>.append (decorates_paint .blue hfile) |>.append hcolon
    |>.append (decorates_paint .cyan (escape_not_mem_number f.lineNumber)) |>.append hbreak
    |>.append (decorates_paint .magenta hline) |>.append hend

/-- A coloured report is the report without colours once the colour sequences are deleted, if no
finding shows an escape character. -/
theorem withoutColors_render {r : Report}
    (h : ∀ f ∈ r.findings, ∀ text ∈ f.texts, escape ∉ text.toList) {format : Format}
    (hf : format ≠ .json) :
    Text.withoutColors (r.render format true) = r.render format false := by
  cases format with
  | json => exact (hf rfl).elim
  | plain =>
    have hd := Decorates.join fun f hm => decorates_renderFinding (h f hm) false
    exact hd.withoutColors_eq
  | severity =>
    have hd := Decorates.join fun f hm => decorates_renderFinding (h f hm) true
    exact hd.withoutColors_eq

/-- All texts of the finding look like ends of colour sequences. -/
theorem withoutColors_render_brackets :
    let f : Finding := ⟨3, "[0;31m", ⟨"m;1"⟩, Builtin.tabs, "31m["⟩
    let r : Report := ⟨[f]⟩
    (∀ f ∈ r.findings, ∀ text ∈ f.texts, escape ∉ text.toList) ∧ Format.severity ≠ .json ∧
      r.render .severity true ≠ r.render .severity false ∧
      Text.withoutColors (r.render .severity true) = "[203][LOW] 31m[\nm;1:3\n[0;31m\n\n" := by
  intro f r
  have hclear : ∀ f ∈ r.findings, ∀ text ∈ f.texts, escape ∉ text.toList := by
    intro g hg
    obtain rfl := List.mem_singleton.mp hg
    decide
  have hformat : Format.severity ≠ .json := by decide
  have hplain : r.render .severity false = "[203][LOW] 31m[\nm;1:3\n[0;31m\n\n" := by decide +kernel
  refine ⟨hclear, hformat, by decide +kernel, ?_⟩
  rw [withoutColors_render hclear hformat, hplain]

end Report

end StateLint
