import Mathlib.Algebra.Field.Rat
import StateLint.Decimal
import StateLint.Json

/-! # The texts of a JSON value

The grammar of JSON, as relations between a text, what its beginning stands for, and the rest of the
text. Blanks may stand around values, characters may be escaped or not, and numbers may have a sign,
a fraction and an exponent. Main statement: a text stands for one value at most. -/
namespace StateLint.Json

/-! ## Numbers -/

/-- One digit or more. -/
def Digits (s : List Char) : Prop := s ≠ [] ∧ ∀ c ∈ s, c.isDigit = true

structure Exponent where
  mark : Char
  sign : List Char
  digits : List Char
  deriving DecidableEq, Repr

namespace Exponent

structure WellFormed (e : Exponent) : Prop where
  mark : e.mark = 'e' ∨ e.mark = 'E'
  sign : e.sign ∈ [[], ['-'], ['+']]
  digits : Digits e.digits

def text : Option Exponent → List Char
  | none => []
  | some e => e.mark :: (e.sign ++ e.digits)

def value (e : Exponent) : Int :=
  if e.sign = ['-'] then -numberOf 10 e.digits else numberOf 10 e.digits

end Exponent

/-- A number as it is written. -/
structure Numeral where
  sign : List Char
  whole : List Char
  fraction : Option (List Char)
  exponent : Option Exponent
  deriving DecidableEq, Repr

namespace Numeral

/-- A whole part does not begin with a zero, unless it is one. -/
structure WellFormed (m : Numeral) : Prop where
  sign : m.sign ∈ [[], ['-']]
  whole : Digits m.whole
  zero : m.whole.head? = some '0' → m.whole = ['0']
  fraction : ∀ s ∈ m.fraction, Digits s
  exponent : ∀ e ∈ m.exponent, e.WellFormed

def fractionText : Option (List Char) → List Char
  | none => []
  | some s => '.' :: s

def text (m : Numeral) : List Char :=
  m.sign ++ (m.whole ++ (fractionText m.fraction ++ Exponent.text m.exponent))

def value (m : Numeral) : Rat :=
  let d := Decimal.ofParts m.whole (m.fraction.getD []) ((m.exponent.map Exponent.value).getD 0)
  (if m.sign = ['-'] then -1 else 1) * d.mantissa * 10 ^ d.exponent

end Numeral

/-! ## Texts and values -/

def isSpace (c : Char) : Bool := c = ' ' || c = '\t' || c = '\n' || c = '\r'

/-- The rest behind any number of blanks. -/
inductive Blanks : List Char → List Char → Prop where
  | none {r} : Blanks r r
  | more {c s r} (hc : isSpace c) (h : Blanks s r) : Blanks (c :: s) r

/-- Letters behind a backslash, and the characters that they stand for. -/
def escapes : List (Char × Char) :=
  [('"', '"'), ('\\', '\\'), ('/', '/'), ('b', '\x08'), ('f', '\x0c'), ('n', '\n'), ('r', '\r'),
    ('t', '\t')]

/-- The number that four hexadecimal digits spell. -/
def Hex (a b c d : Char) (n : Nat) : Prop :=
  (∀ x ∈ [a, b, c, d], isDigitOf 16 x) ∧ numberOf 16 [a, b, c, d] = n

/-- The characters of a quoted text, up to the quotation mark at its end. A code that has no
character of its own is the first or the second half of a pair. -/
inductive Quoted : List Char → List Char → List Char → Prop where
  | close {r} : Quoted ('"' :: r) [] r
  | plain {c s t r} (hc : 0x20 ≤ c.toNat) (hq : c ≠ '"') (hb : c ≠ '\\') (h : Quoted s t r) :
      Quoted (c :: s) (c :: t) r
  | escape {e c s t r} (he : (e, c) ∈ escapes) (h : Quoted s t r) :
      Quoted ('\\' :: e :: s) (c :: t) r
  | code {a b c d x s t r} (hx : Hex a b c d x.toNat) (h : Quoted s t r) :
      Quoted ('\\' :: 'u' :: a :: b :: c :: d :: s) (x :: t) r
  | pair {a b c d a' b' c' d' high low x s t r} (hh : Hex a b c d (0xD800 + high))
      (hl : Hex a' b' c' d' (0xDC00 + low)) (hhigh : high < 0x400) (hlow : low < 0x400)
      (hx : x.toNat = 0x10000 + 0x400 * high + low) (h : Quoted s t r) :
      Quoted ('\\' :: 'u' :: a :: b :: c :: d :: '\\' :: 'u' :: a' :: b' :: c' :: d' :: s) (x :: t) r

/-- One or more, with commas between them. -/
inductive Listed {α : Type} (P : List Char → α → List Char → Prop) :
    List Char → List α → List Char → Prop where
  | one {s x r} (h : P s x r) : Listed P s [x] r
  | more {s x a xs r} (h : P s x (',' :: a)) (hs : Listed P a xs r) : Listed P s (x :: xs) r

mutual

/-- A value without blanks around it. -/
inductive Value : List Char → Json → List Char → Prop where
  | null {r} : Value ('n' :: 'u' :: 'l' :: 'l' :: r) .null r
  | yes {r} : Value ('t' :: 'r' :: 'u' :: 'e' :: r) (.bool true) r
  | no {r} : Value ('f' :: 'a' :: 'l' :: 's' :: 'e' :: r) (.bool false) r
  | number {m r} {n : Nat} (hm : Numeral.WellFormed m) (hn : m.value = n) :
      Value (m.text ++ r) (.number n) r
  | string {s t r} (h : Quoted s t r) : Value ('"' :: s) (.string (String.ofList t)) r
  | emptyArray {s r} (h : Blanks s (']' :: r)) : Value ('[' :: s) (.array []) r
  | array {s vs r} (h : Listed Element s vs (']' :: r)) : Value ('[' :: s) (.array vs) r
  | emptyObject {s r} (h : Blanks s ('\x7d' :: r)) : Value ('\x7b' :: s) (.object []) r
  | object {s ms r} (h : Listed Member s ms ('\x7d' :: r)) : Value ('\x7b' :: s) (.object ms) r

/-- A value with blanks around it. -/
inductive Element : List Char → Json → List Char → Prop where
  | mk {s a v b r} (h : Blanks s a) (hv : Value a v b) (h' : Blanks b r) : Element s v r

/-- A name and its value. -/
inductive Member : List Char → String × Json → List Char → Prop where
  | mk {s a k b c v r} (h : Blanks s ('"' :: a)) (hk : Quoted a k b) (h' : Blanks b (':' :: c))
      (hv : Element c v r) : Member s (String.ofList k, v) r

end

/-- The text as a whole stands for the value. -/
def IsText (text : List Char) (v : Json) : Prop := Element text v []

/-! ## A text stands for one value -/

theorem digits_append_inj {a b x y : List Char} (ha : ∀ c ∈ a, c.isDigit = true)
    (hb : ∀ c ∈ b, c.isDigit = true) (hx : ∀ c ∈ x.head?, c.isDigit = false)
    (hy : ∀ c ∈ y.head?, c.isDigit = false) (h : a ++ x = b ++ y) : a = b ∧ x = y := by
  induction a generalizing b with
  | nil =>
    cases b with
    | nil => exact ⟨rfl, h⟩
    | cons c b =>
      have hc := hx c (by simp [show x = c :: (b ++ y) from h])
      simp [hb c List.mem_cons_self] at hc
  | cons c a ih =>
    cases b with
    | nil =>
      have hc := hy c (by simp [show y = c :: (a ++ x) from h.symm])
      simp [ha c List.mem_cons_self] at hc
    | cons d b =>
      obtain ⟨rfl, ht⟩ := List.cons.inj h
      obtain ⟨rfl, hxy⟩ := ih (fun e he => ha e (List.mem_cons_of_mem _ he))
        (fun e he => hb e (List.mem_cons_of_mem _ he)) ht
      exact ⟨rfl, hxy⟩

/-- A sign is no digit. -/
theorem sign_append_inj {a b x y : List Char} (ha : a ∈ [[], ['-'], ['+']])
    (hb : b ∈ [[], ['-'], ['+']]) (hx : ∃ c ∈ x.head?, c.isDigit = true)
    (hy : ∃ c ∈ y.head?, c.isDigit = true) (h : a ++ x = b ++ y) : a = b ∧ x = y := by
  obtain ⟨c, hc, hcd⟩ := hx
  obtain ⟨d, hd, hdd⟩ := hy
  obtain ⟨x, rfl⟩ := List.head?_eq_some_iff.mp hc
  obtain ⟨y, rfl⟩ := List.head?_eq_some_iff.mp hd
  have hne : c ≠ '-' ∧ '-' ≠ d ∧ c ≠ '+' ∧ '+' ≠ d := by
    refine ⟨?_, ?_, ?_, ?_⟩ <;> rintro rfl <;> contradiction
  simp only [List.mem_cons, List.not_mem_nil, or_false] at ha hb
  rcases ha with rfl | rfl | rfl <;> rcases hb with rfl | rfl | rfl <;> simp_all

theorem Digits.head_append {s : List Char} (h : Digits s) (r : List Char) :
    ∃ c ∈ (s ++ r).head?, c.isDigit = true := by
  obtain ⟨hne, hd⟩ := h
  cases s with
  | nil => exact (hne rfl).elim
  | cons c s => exact ⟨c, rfl, hd c List.mem_cons_self⟩

/-- The text does not go on with a number. -/
def Stops (s : List Char) : Prop :=
  ∀ c ∈ s.head?, c.isDigit = false ∧ c ≠ '.' ∧ c ≠ 'e' ∧ c ≠ 'E'

theorem Exponent.not_stops {e : Exponent} (he : e.WellFormed) (r : List Char) :
    ¬Stops (text (some e) ++ r) := by
  intro h
  have hm := h e.mark rfl
  rcases he.mark with he | he
  · exact hm.2.2.1 he
  · exact hm.2.2.2 he

theorem Exponent.text_append_inj {x y : Option Exponent} (hx : ∀ e ∈ x, e.WellFormed)
    (hy : ∀ e ∈ y, e.WellFormed) {r s : List Char} (hr : Stops r) (hs : Stops s)
    (h : text x ++ r = text y ++ s) : x = y ∧ r = s := by
  cases x with
  | none =>
    cases y with
    | none => exact ⟨rfl, h⟩
    | some e =>
      obtain rfl : r = text (some e) ++ s := h
      exact (not_stops (hy e rfl) s hr).elim
  | some d =>
    cases y with
    | none =>
      obtain rfl : text (some d) ++ r = s := h
      exact (not_stops (hx d rfl) r hs).elim
    | some e =>
      simp only [text, List.cons_append, List.append_assoc, List.cons.injEq] at h
      obtain ⟨hmark, h⟩ := h
      obtain ⟨hsign, h⟩ := sign_append_inj (hx d rfl).sign (hy e rfl).sign
        ((hx d rfl).digits.head_append r) ((hy e rfl).digits.head_append s) h
      obtain ⟨hdigits, h⟩ := digits_append_inj (hx d rfl).digits.2 (hy e rfl).digits.2
        (fun c hc => (hr c hc).1) (fun c hc => (hs c hc).1) h
      refine ⟨?_, h⟩
      cases d
      cases e
      simp_all

/-- An exponent, or what follows a number, begins with neither a digit nor a point. -/
theorem Exponent.head_text_append {x : Option Exponent} (hx : ∀ e ∈ x, e.WellFormed)
    {r : List Char} (hr : Stops r) : ∀ c ∈ (text x ++ r).head?, c.isDigit = false ∧ c ≠ '.' := by
  cases x with
  | none => exact fun c hc => ⟨(hr c hc).1, (hr c hc).2.1⟩
  | some e =>
    intro c hc
    have he : c = e.mark := by simpa [text, eq_comm] using hc
    rcases (hx e rfl).mark with hm | hm
    · rw [he, hm]
      decide
    · rw [he, hm]
      decide

namespace Numeral

theorem head_fractionText_append {f : Option (List Char)} {x : List Char}
    (hx : ∀ c ∈ x.head?, c.isDigit = false ∧ c ≠ '.') :
    ∀ c ∈ (fractionText f ++ x).head?, c.isDigit = false := by
  cases f with
  | none => exact fun c hc => (hx c hc).1
  | some s =>
    intro c hc
    have hp : c = '.' := by simpa [fractionText, eq_comm] using hc
    rw [hp]
    decide

theorem fractionText_append_inj {f g : Option (List Char)} (hf : ∀ s ∈ f, Digits s)
    (hg : ∀ s ∈ g, Digits s) {x y : List Char}
    (hx : ∀ c ∈ x.head?, c.isDigit = false ∧ c ≠ '.')
    (hy : ∀ c ∈ y.head?, c.isDigit = false ∧ c ≠ '.')
    (h : fractionText f ++ x = fractionText g ++ y) : f = g ∧ x = y := by
  cases f with
  | none =>
    cases g with
    | none => exact ⟨rfl, h⟩
    | some t => exact ((hx '.' (by simp [show x = _ from h, fractionText])).2 rfl).elim
  | some s =>
    cases g with
    | none => exact ((hy '.' (by simp [show y = _ from h.symm, fractionText])).2 rfl).elim
    | some t =>
      obtain ⟨rfl, hxy⟩ := digits_append_inj (hf s rfl).2 (hg t rfl).2 (fun c hc => (hx c hc).1)
        (fun c hc => (hy c hc).1) (List.cons.inj h).2
      exact ⟨rfl, hxy⟩

theorem text_append_inj {m n : Numeral} (hm : m.WellFormed) (hn : n.WellFormed) {r s : List Char}
    (hr : Stops r) (hs : Stops s) (h : m.text ++ r = n.text ++ s) : m = n ∧ r = s := by
  have hsub : ∀ t ∈ [[], ['-']], t ∈ [[], ['-'], ['+']] := by decide
  have hx := Exponent.head_text_append hm.exponent hr
  have hy := Exponent.head_text_append hn.exponent hs
  simp only [text, List.append_assoc] at h
  obtain ⟨hsign, h⟩ := sign_append_inj (hsub _ hm.sign) (hsub _ hn.sign)
    (hm.whole.head_append _) (hn.whole.head_append _) h
  obtain ⟨hwhole, h⟩ := digits_append_inj hm.whole.2 hn.whole.2 (head_fractionText_append hx)
    (head_fractionText_append hy) h
  obtain ⟨hfraction, h⟩ := fractionText_append_inj hm.fraction hn.fraction hx hy h
  obtain ⟨hexponent, h⟩ := Exponent.text_append_inj hm.exponent hn.exponent hr hs h
  refine ⟨?_, h⟩
  cases m
  cases n
  simp_all

end Numeral

/-- The text begins with none of the blanks. -/
def Solid (s : List Char) : Prop := ∀ c ∈ s.head?, isSpace c = false

theorem Blanks.unique {s a b : List Char} (ha : Blanks s a) (hb : Blanks s b) (hsa : Solid a)
    (hsb : Solid b) : a = b := by
  induction ha with
  | none =>
    cases hb with
    | none => rfl
    | more hc _ => simp [hsa _ rfl] at hc
  | more hc _ ih =>
    cases hb with
    | none => simp [hsb _ rfl] at hc
    | more _ hb => exact ih hb hsa

theorem Hex.unique {a b c d : Char} {m n : Nat} (hm : Hex a b c d m) (hn : Hex a b c d n) : m = n :=
  hm.2.symm.trans hn.2

theorem escapes_unique {e c d : Char} (hc : (e, c) ∈ escapes) (hd : (e, d) ∈ escapes) : c = d := by
  have h : ∀ x ∈ escapes, ∀ y ∈ escapes, x.1 = y.1 → x.2 = y.2 := by decide
  exact h _ hc _ hd rfl

theorem not_u_mem_escapes (c : Char) : ('u', c) ∉ escapes := by
  have h : ∀ x ∈ escapes, x.1 ≠ 'u' := by decide
  exact fun hc => h _ hc rfl

/-- A character is no half of a pair. -/
theorem toNat_ne_half (x : Char) {high : Nat} (h : high < 0x400) : x.toNat ≠ 0xD800 + high := by
  have hv : x.toNat < 0xD800 ∨ 0xDFFF < x.toNat ∧ x.toNat < 0x110000 := x.valid
  omega

theorem Quoted.unique {s t u r r' : List Char} (h : Quoted s t r) (h' : Quoted s u r') :
    t = u ∧ r = r' := by
  induction h generalizing u with
  | close =>
    cases h' with
    | close => exact ⟨rfl, rfl⟩
    | plain _ hq _ _ => exact (hq rfl).elim
  | plain _ hq hb _ ih =>
    cases h' with
    | close => exact (hq rfl).elim
    | plain _ _ _ h' =>
      obtain ⟨rfl, hr⟩ := ih h'
      exact ⟨rfl, hr⟩
    | escape _ _ => exact (hb rfl).elim
    | code _ _ => exact (hb rfl).elim
    | pair _ _ _ _ _ _ => exact (hb rfl).elim
  | escape he _ ih =>
    cases h' with
    | plain _ _ hb _ => exact (hb rfl).elim
    | escape he' h' =>
      obtain ⟨rfl, hr⟩ := ih h'
      rw [escapes_unique he he']
      exact ⟨rfl, hr⟩
    | code _ _ => exact (not_u_mem_escapes _ he).elim
    | pair _ _ _ _ _ _ => exact (not_u_mem_escapes _ he).elim
  | code hx _ ih =>
    cases h' with
    | plain _ _ hb _ => exact (hb rfl).elim
    | escape he' _ => exact (not_u_mem_escapes _ he').elim
    | code hx' h' =>
      obtain ⟨rfl, hr⟩ := ih h'
      rw [Char.toNat_inj.mp (hx.unique hx')]
      exact ⟨rfl, hr⟩
    | pair hh' _ hhigh' _ _ _ => exact (toNat_ne_half _ hhigh' (hx.unique hh')).elim
  | pair hh hl hhigh _ hx _ ih =>
    cases h' with
    | plain _ _ hb _ => exact (hb rfl).elim
    | escape he' _ => exact (not_u_mem_escapes _ he').elim
    | code hx' _ => exact (toNat_ne_half _ hhigh (hx'.unique hh)).elim
    | @pair _ _ _ _ _ _ _ _ _ _ y _ _ _ hh' hl' _ _ hx' h' =>
      obtain ⟨rfl, hr⟩ := ih h'
      have hhigh := hh.unique hh'
      have hlow := hl.unique hl'
      have he := Char.toNat_inj.mp (show _ = y.toNat by rw [hx, hx']; omega)
      rw [he]
      exact ⟨rfl, hr⟩

/-- What holds of a value if it holds of its items and members holds of all values. -/
@[elab_as_elim]
theorem induct {motive : Json → Prop} (null : motive .null) (bool : ∀ b, motive (.bool b))
    (number : ∀ n, motive (.number n)) (string : ∀ s, motive (.string s))
    (array : ∀ vs, (∀ v ∈ vs, motive v) → motive (.array vs))
    (object : ∀ ms, (∀ m ∈ ms, motive m.2) → motive (.object ms)) (v : Json) : motive v := by
  match v with
  | .null => exact null
  | .bool b => exact bool b
  | .number n => exact number n
  | .string s => exact string s
  | .array vs => exact array vs fun v _ => induct null bool number string array object v
  | .object ms =>
    refine object ms fun m hm => ?_
    have hlt : sizeOf m.2 < sizeOf ms := by
      have := List.sizeOf_lt_of_mem hm
      cases m
      simp only [Prod.mk.sizeOf_spec] at this ⊢
      omega
    exact induct null bool number string array object m.2

/-- The character that shows what kind of value a text begins with. -/
def leading (c : Char) : Char := if c = '-' || c.isDigit then '0' else c

def kind : Json → Char
  | .null => 'n'
  | .bool true => 't'
  | .bool false => 'f'
  | .number _ => '0'
  | .string _ => '"'
  | .array _ => '['
  | .object _ => '\x7b'

theorem kind_mem (v : Json) : v.kind ∈ ['n', 't', 'f', '0', '"', '[', '\x7b'] := by
  cases v with
  | bool b => cases b <;> decide
  | _ => simp [kind]

theorem Numeral.leading_head {m : Numeral} (hm : m.WellFormed) (r : List Char) :
    ∃ c t, m.text ++ r = c :: t ∧ leading c = '0' := by
  have hs := hm.sign
  simp only [List.mem_cons, List.not_mem_nil, or_false] at hs
  rcases hs with hs | hs
  · obtain ⟨c, hc, hd⟩ := hm.whole.head_append
      (fractionText m.fraction ++ (Exponent.text m.exponent ++ r))
    obtain ⟨t, ht⟩ := List.head?_eq_some_iff.mp hc
    refine ⟨c, t, ?_, by simp [leading, hd]⟩
    simpa [text, hs] using ht
  · exact ⟨'-', _, by simp [text, hs]; rfl, by decide⟩

theorem Value.kind_eq {s r : List Char} {v : Json} (h : Value s v r) :
    ∃ c t, s = c :: t ∧ leading c = v.kind := by
  cases h with
  | number hm _ => exact Numeral.leading_head hm r
  | _ => exact ⟨_, _, rfl, rfl⟩

/-- A value begins neither with a blank nor with a closing bracket. -/
theorem Value.head_ne {s r : List Char} {v : Json} (h : Value s v r) :
    ∀ c ∈ s.head?, isSpace c = false ∧ c ≠ ']' := by
  obtain ⟨c, t, rfl, hk⟩ := h.kind_eq
  have hm := kind_mem v
  rw [← hk] at hm
  intro d hd
  obtain rfl : c = d := by simpa using hd
  by_cases hc : c = ' ' ∨ c = '\t' ∨ c = '\n' ∨ c = '\r' ∨ c = ']'
  · rcases hc with rfl | rfl | rfl | rfl | rfl <;> revert hm <;> decide
  · simpa [isSpace, and_assoc] using hc

/-- Both values are of one kind, and the same if there is nothing inside them. -/
def Alike : Json → Json → Prop
  | .null, .null => True
  | .bool a, .bool b => a = b
  | .number _, .number _ => True
  | .string _, .string _ => True
  | .array _, .array _ => True
  | .object _, .object _ => True
  | _, _ => False

theorem alike_of_kind_eq {v w : Json} (h : v.kind = w.kind) : Alike v w := by
  cases v with
  | bool a =>
    cases w with
    | bool b => cases a <;> cases b <;> simp_all [kind, Alike]
    | _ => cases a <;> simp [kind] at h
  | _ =>
    cases w with
    | bool b => cases b <;> simp [kind] at h
    | _ => simp_all [kind, Alike]

theorem Value.alike {s r r' : List Char} {v w : Json} (h : Value s v r) (h' : Value s w r') :
    Alike v w := by
  obtain ⟨c, t, rfl, hv⟩ := h.kind_eq
  obtain ⟨d, u, he, hw⟩ := h'.kind_eq
  obtain ⟨rfl, -⟩ := List.cons.inj he
  exact alike_of_kind_eq (hv.symm.trans hw)

namespace Value

variable {s r : List Char}

theorem null_inv (h : Value s .null r) : s = 'n' :: 'u' :: 'l' :: 'l' :: r := by
  cases h
  rfl

theorem bool_inv {b : Bool} (h : Value s (.bool b) r) :
    s = (if b then ['t', 'r', 'u', 'e'] else ['f', 'a', 'l', 's', 'e']) ++ r := by
  cases h <;> rfl

theorem number_inv {n : Nat} (h : Value s (.number n) r) :
    ∃ m : Numeral, m.WellFormed ∧ m.value = n ∧ s = m.text ++ r := by
  cases h with
  | number hm hn => exact ⟨_, hm, hn, rfl⟩

theorem string_inv {x : String} (h : Value s (.string x) r) :
    ∃ t a, s = '"' :: a ∧ x = String.ofList t ∧ Quoted a t r := by
  cases h with
  | string h => exact ⟨_, _, rfl, rfl, h⟩

theorem array_inv {vs : List Json} (h : Value s (.array vs) r) :
    ∃ a, s = '[' :: a ∧ (vs = [] ∧ Blanks a (']' :: r) ∨ Listed Element a vs (']' :: r)) := by
  cases h with
  | emptyArray h => exact ⟨_, rfl, .inl ⟨rfl, h⟩⟩
  | array h => exact ⟨_, rfl, .inr h⟩

theorem object_inv {ms : List (String × Json)} (h : Value s (.object ms) r) :
    ∃ a, s = '\x7b' :: a ∧ (ms = [] ∧ Blanks a ('\x7d' :: r) ∨ Listed Member a ms ('\x7d' :: r)) := by
  cases h with
  | emptyObject h => exact ⟨_, rfl, .inl ⟨rfl, h⟩⟩
  | object h => exact ⟨_, rfl, .inr h⟩

end Value

/-- What may follow a value and the blanks behind it. -/
def Ends (s : List Char) : Prop := ∀ c ∈ s.head?, c = ',' ∨ c = ']' ∨ c = '\x7d'

theorem Ends.solid {s : List Char} (h : Ends s) : Solid s := by
  intro c hc
  rcases h c hc with rfl | rfl | rfl <;> rfl

theorem Ends.stops_of_blanks {s r : List Char} (hr : Ends r) (h : Blanks s r) : Stops s := by
  cases h with
  | none =>
    intro c hc
    rcases hr c hc with rfl | rfl | rfl <;> decide
  | more hs _ =>
    intro c hc
    obtain rfl : _ = c := by simpa using hc
    simp only [isSpace, Bool.or_eq_true, decide_eq_true_eq] at hs
    rcases hs with ((rfl | rfl) | rfl) | rfl <;> decide

/-- Whatever has a text of this one is this one. -/
def Determined {α : Type} (P : List Char → α → List Char → Prop) (x : α) : Prop :=
  ∀ s y r r', P s x r → P s y r' → Ends r → Ends r' → x = y ∧ r = r'

theorem ends_cons {c : Char} (hc : c = ',' ∨ c = ']' ∨ c = '\x7d') (r : List Char) :
    Ends (c :: r) := by
  intro d hd
  obtain rfl : c = d := by simpa using hd
  exact hc

namespace Listed

variable {α : Type} {P : List Char → α → List Char → Prop} {s r : List Char} {xs : List α}

theorem first (h : Listed P s xs r) : ∃ x a, P s x a := by
  cases h with
  | one h => exact ⟨_, _, h⟩
  | more h _ => exact ⟨_, _, h⟩

theorem unique (hxs : ∀ x ∈ xs, Determined P x) {ys : List α} {c : Char} {r' : List Char}
    (hc : c = ']' ∨ c = '\x7d') (h : Listed P s xs (c :: r)) (h' : Listed P s ys (c :: r')) :
    xs = ys ∧ r = r' := by
  have hcomma : c ≠ ',' := by rcases hc with rfl | rfl <;> decide
  have hends := ends_cons (.inr hc)
  induction xs generalizing s ys with
  | nil => cases h
  | cons x xs ih =>
    have hx := hxs x List.mem_cons_self
    cases h with
    | one h =>
      cases h' with
      | one h' =>
        obtain ⟨rfl, hr⟩ := hx _ _ _ _ h h' (hends r) (hends r')
        exact ⟨rfl, (List.cons.inj hr).2⟩
      | more h' _ =>
        have he := (hx _ _ _ _ h h' (hends r) (ends_cons (.inl rfl) _)).2
        exact (hcomma (List.cons.inj he).1).elim
    | more h hs =>
      cases h' with
      | one h' =>
        have he := (hx _ _ _ _ h h' (ends_cons (.inl rfl) _) (hends r')).2
        exact (hcomma (List.cons.inj he).1.symm).elim
      | more h' hs' =>
        obtain ⟨rfl, ha⟩ := hx _ _ _ _ h h' (ends_cons (.inl rfl) _) (ends_cons (.inl rfl) _)
        obtain ⟨-, rfl⟩ := List.cons.inj ha
        obtain ⟨rfl, hr⟩ := ih (fun y hy => hxs y (List.mem_cons_of_mem _ hy)) hs hs'
        exact ⟨rfl, hr⟩

end Listed

theorem Value.solid {s r : List Char} {v : Json} (h : Value s v r) : Solid s :=
  fun c hc => (h.head_ne c hc).1

theorem determined_element {v : Json}
    (hv : ∀ s w r r', Value s v r → Value s w r' → Stops r → Stops r' → v = w ∧ r = r') :
    Determined Element v := by
  intro s w r r' h h' hr hr'
  obtain ⟨hs, hval, hb⟩ := h
  obtain ⟨hs', hval', hb'⟩ := h'
  obtain rfl := hs.unique hs' hval.solid hval'.solid
  obtain ⟨rfl, rfl⟩ := hv _ _ _ _ hval hval' (hr.stops_of_blanks hb) (hr'.stops_of_blanks hb')
  exact ⟨rfl, hb.unique hb' hr.solid hr'.solid⟩

theorem solid_cons {c : Char} (hc : isSpace c = false) (r : List Char) : Solid (c :: r) := by
  intro d hd
  obtain rfl : c = d := by simpa using hd
  exact hc

theorem determined_member {k : String} {v : Json} (hv : Determined Element v) :
    Determined Member (k, v) := by
  rintro s ⟨k', w⟩ r r' h h' hr hr'
  obtain ⟨hs, hk, hb, hval⟩ := h
  obtain ⟨hs', hk', hb', hval'⟩ := h'
  have hquote := solid_cons (show isSpace '"' = false from rfl)
  have hcolon := solid_cons (show isSpace ':' = false from rfl)
  obtain ⟨-, rfl⟩ := List.cons.inj (hs.unique hs' (hquote _) (hquote _))
  obtain ⟨rfl, rfl⟩ := hk.unique hk'
  obtain ⟨-, rfl⟩ := List.cons.inj (hb.unique hb' (hcolon _) (hcolon _))
  obtain ⟨rfl, hr⟩ := hv _ _ _ _ hval hval' hr hr'
  exact ⟨rfl, hr⟩

/-- No array of some items is one of none. -/
theorem Listed.not_blanks_element {s r r' : List Char} {vs : List Json}
    (h : Listed Element s vs r) : ¬Blanks s (']' :: r') := by
  intro hb
  obtain ⟨v, a, hs, hv, -⟩ := h.first
  obtain rfl := hs.unique hb hv.solid (solid_cons rfl r')
  exact (hv.head_ne ']' rfl).2 rfl

theorem Listed.not_blanks_member {s r r' : List Char} {ms : List (String × Json)}
    (h : Listed Member s ms r) : ¬Blanks s ('\x7d' :: r') := by
  intro hb
  obtain ⟨m, a, hs, -, -, -⟩ := h.first
  have he := hs.unique hb (solid_cons rfl _) (solid_cons rfl r')
  simp at he

namespace Value

variable {s r r' : List Char}

theorem array_unique {vs ws : List Json} (hvs : ∀ v ∈ vs, Determined Element v)
    (h : Value s (.array vs) r) (h' : Value s (.array ws) r') : vs = ws ∧ r = r' := by
  obtain ⟨a, rfl, hv⟩ := h.array_inv
  obtain ⟨a', ha, hw⟩ := h'.array_inv
  obtain ⟨-, rfl⟩ := List.cons.inj ha
  rcases hv with ⟨rfl, hv⟩ | hv <;> rcases hw with ⟨rfl, hw⟩ | hw
  · exact ⟨rfl, (List.cons.inj (hv.unique hw (solid_cons rfl r) (solid_cons rfl r'))).2⟩
  · exact (hw.not_blanks_element hv).elim
  · exact (hv.not_blanks_element hw).elim
  · exact hv.unique hvs (.inl rfl) hw

theorem object_unique {ms ns : List (String × Json)} (hms : ∀ m ∈ ms, Determined Element m.2)
    (h : Value s (.object ms) r) (h' : Value s (.object ns) r') : ms = ns ∧ r = r' := by
  obtain ⟨a, rfl, hm⟩ := h.object_inv
  obtain ⟨a', ha, hn⟩ := h'.object_inv
  obtain ⟨-, rfl⟩ := List.cons.inj ha
  rcases hm with ⟨rfl, hm⟩ | hm <;> rcases hn with ⟨rfl, hn⟩ | hn
  · exact ⟨rfl, (List.cons.inj (hm.unique hn (solid_cons rfl r) (solid_cons rfl r'))).2⟩
  · exact (hn.not_blanks_member hm).elim
  · exact (hm.not_blanks_member hn).elim
  · exact hm.unique (fun m hm => determined_member (hms m hm)) (.inr rfl) hn

theorem number_unique {n k : Nat} (h : Value s (.number n) r) (h' : Value s (.number k) r')
    (hr : Stops r) (hr' : Stops r') : n = k ∧ r = r' := by
  obtain ⟨m, hm, hn, rfl⟩ := h.number_inv
  obtain ⟨m', hm', hk, he⟩ := h'.number_inv
  obtain ⟨rfl, rfl⟩ := Numeral.text_append_inj hm hm' hr hr' he
  exact ⟨Nat.cast_injective (hn.symm.trans hk), rfl⟩

theorem string_unique {x y : String} (h : Value s (.string x) r) (h' : Value s (.string y) r') :
    x = y ∧ r = r' := by
  obtain ⟨t, a, rfl, rfl, ht⟩ := h.string_inv
  obtain ⟨t', a', ha, rfl, ht'⟩ := h'.string_inv
  obtain ⟨-, rfl⟩ := List.cons.inj ha
  obtain ⟨rfl, rfl⟩ := ht.unique ht'
  exact ⟨rfl, rfl⟩

end Value

theorem determined (v : Json) : Determined Element v := by
  induction v using induct with
  | null =>
    refine determined_element fun s w r r' h h' _ _ => ?_
    cases w with
    | null => exact ⟨rfl, by simpa using h.null_inv.symm.trans h'.null_inv⟩
    | _ => exact (h.alike h').elim
  | bool b =>
    refine determined_element fun s w r r' h h' _ _ => ?_
    cases w with
    | bool c =>
      obtain rfl : b = c := h.alike h'
      exact ⟨rfl, List.append_cancel_left (h.bool_inv.symm.trans h'.bool_inv)⟩
    | _ => exact (h.alike h').elim
  | number n =>
    refine determined_element fun s w r r' h h' hr hr' => ?_
    cases w with
    | number k => exact (h.number_unique h' hr hr').imp_left (congrArg number)
    | _ => exact (h.alike h').elim
  | string x =>
    refine determined_element fun s w r r' h h' _ _ => ?_
    cases w with
    | string y => exact (h.string_unique h').imp_left (congrArg string)
    | _ => exact (h.alike h').elim
  | array vs ih =>
    refine determined_element fun s w r r' h h' _ _ => ?_
    cases w with
    | array ws => exact (h.array_unique ih h').imp_left (congrArg array)
    | _ => exact (h.alike h').elim
  | object ms ih =>
    refine determined_element fun s w r r' h h' _ _ => ?_
    cases w with
    | object ns => exact (h.object_unique ih h').imp_left (congrArg object)
    | _ => exact (h.alike h').elim

theorem IsText.unique {text : List Char} {v w : Json} (hv : IsText text v) (hw : IsText text w) :
    v = w := by
  have hends : Ends [] := fun c hc => nomatch hc
  exact (determined v _ _ _ _ hv hw hends hends).1

end StateLint.Json
