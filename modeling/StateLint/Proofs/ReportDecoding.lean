import Mathlib.Data.List.Forall2
import StateLint.Proofs.JsonGrammar
import StateLint.Report

/-! # Reading a report back

What is written for a JSON value is a text of that value, for every value and every indentation. A
text stands for one value at most, so a report in JSON can be read back: nothing that it shows about
a finding is lost, whatever characters it is made of. -/
namespace StateLint

theorem numberOf_toDigits (n : Nat) : numberOf 10 (Nat.toDigits 10 n) = n := by
  have hfold : numberOf 10 (Nat.toDigits 10 n) = Nat.ofDigitChars 10 (Nat.toDigits 10 n) 0 := by
    rw [Nat.ofDigitChars_eq_foldl]
    refine List.foldl_ext _ _ _ fun a c hc => ?_
    simp [CharSet.hexDigit, Nat.isDigit_of_mem_toDigits (by decide) (by decide) hc]
  rw [hfold, Nat.ofDigitChars_ten_toDigits]

theorem toDigits_head_zero {n : Nat} (h : (Nat.toDigits 10 n).head? = some '0') : n = 0 := by
  induction n using Nat.strongRecOn with
  | ind n ih =>
    rw [Nat.toDigits_eq_if (by decide)] at h
    split at h
    next hlt =>
      have hdigit : ∀ k < 10, Nat.digitChar k = '0' → k = 0 := by decide
      exact hdigit n hlt (by simpa using h)
    next hge =>
      -- The leading digit of a longer number is the one of its tenth, which is not zero.
      rw [List.head?_append_of_ne_nil _ Nat.toDigits_ne_nil] at h
      have hten := ih (n / 10) (by omega) h
      omega

namespace Json

def Numeral.ofNat (n : Nat) : Numeral := ⟨[], Nat.toDigits 10 n, none, none⟩

theorem Numeral.ofNat_wellFormed (n : Nat) : (ofNat n).WellFormed where
  sign := by simp [ofNat]
  whole := ⟨Nat.toDigits_ne_nil, fun _ hc =>
    Nat.isDigit_of_mem_toDigits (by decide) (by decide) hc⟩
  zero := by
    intro h
    obtain rfl := toDigits_head_zero h
    rfl
  fraction := by simp [ofNat]
  exponent := by simp [ofNat]

theorem Numeral.ofNat_value (n : Nat) : (ofNat n).value = n := by
  simp [value, ofNat, Decimal.ofParts, numberOf_toDigits]

theorem Numeral.ofNat_text (n : Nat) : (ofNat n).text = (toString n).toList := by
  simp [text, ofNat, fractionText, Exponent.text]

theorem hex_hexDigit {n : Nat} (h : n < 256) :
    Hex '0' '0' (hexDigit (n / 16)) (hexDigit (n % 16)) n := by
  have hdigit : ∀ k < 16, isDigitOf 16 (hexDigit k) ∧ CharSet.hexDigit (hexDigit k) = k := by
    decide
  obtain ⟨hd, hv⟩ := hdigit (n / 16) (by omega)
  obtain ⟨hd', hv'⟩ := hdigit (n % 16) (by omega)
  refine ⟨?_, ?_⟩
  · simp [hd, hd', show isDigitOf 16 '0' from rfl]
  · simp only [numberOf, List.foldl_cons, List.foldl_nil, hv, hv',
      show CharSet.hexDigit '0' = 0 from rfl]
    omega

/-- An escaped character is read as the character. -/
theorem Quoted.escaped (c : Char) {s t r : List Char} (h : Quoted s t r) :
    Quoted (escaped c ++ s) (c :: t) r := by
  unfold Json.escaped
  split
  case h_8 hq hb _ _ _ _ _ =>
    split
    next hlt => exact .code (hex_hexDigit (by omega)) h
    next hge => exact .plain (by omega) hq hb h
  all_goals exact .escape (by decide) h

theorem Quoted.flatMap_escaped (t r : List Char) :
    Quoted (t.flatMap Json.escaped ++ '"' :: r) t r := by
  induction t with
  | nil => exact .close
  | cons c t ih =>
    rw [List.flatMap_cons, List.append_assoc]
    exact ih.escaped c

theorem blanks_newline (level : Nat) (s : List Char) : Blanks (newline level ++ s) s := by
  have hspaces : ∀ n, Blanks (List.replicate n ' ' ++ s) s := by
    intro n
    induction n with
    | zero => exact .none
    | succ n ih => exact .more rfl ih
  exact .more rfl (hspaces _)

theorem listed_items {v : Json} {vs : List Json} {level outer : Nat}
    (h : ∀ w ∈ v :: vs, ∀ r, Value (pretty level w ++ r) w r) (r : List Char) :
    Listed Element
      (newline level ++ (pretty level v ++ (prettyItems level vs ++ (newline outer ++ ']' :: r))))
      (v :: vs) (']' :: r) := by
  induction vs generalizing v with
  | nil => exact .one ⟨blanks_newline _ _, h v List.mem_cons_self _, blanks_newline _ _⟩
  | cons w ws ih =>
    simp only [prettyItems, List.cons_append, List.append_assoc]
    exact .more ⟨blanks_newline _ _, h v List.mem_cons_self _, .none⟩
      (ih fun u hu => h u (List.mem_cons_of_mem _ hu))

theorem member_pretty {k : String} {v : Json} {level : Nat} {s r : List Char}
    (hv : ∀ r, Value (pretty level v ++ r) v r) (hs : Blanks s r) :
    Member (newline level ++ (quoted k ++ (':' :: ' ' :: (pretty level v ++ s)))) (k, v) r := by
  have hk : Member (newline level ++ (quoted k ++ (':' :: ' ' :: (pretty level v ++ s))))
      (String.ofList k.toList, v) r := by
    simp only [quoted, List.cons_append, List.append_assoc, List.nil_append]
    exact ⟨blanks_newline _ _, Quoted.flatMap_escaped _ _, .none, .more rfl .none, hv _, hs⟩
  rwa [String.ofList_toList] at hk

theorem listed_members {k : String} {v : Json} {ms : List (String × Json)} {level outer : Nat}
    (h : ∀ m ∈ (k, v) :: ms, ∀ r, Value (pretty level m.2 ++ r) m.2 r) (r : List Char) :
    Listed Member
      (newline level ++ (quoted k ++ (':' :: ' ' :: (pretty level v ++
        (prettyMembers level ms ++ (newline outer ++ '\x7d' :: r))))))
      ((k, v) :: ms) ('\x7d' :: r) := by
  induction ms generalizing k v with
  | nil => exact .one (member_pretty (h _ List.mem_cons_self) (blanks_newline _ _))
  | cons m ms ih =>
    obtain ⟨k', v'⟩ := m
    simp only [prettyMembers, List.cons_append, List.nil_append, List.append_assoc]
    exact .more (member_pretty (h _ List.mem_cons_self) .none)
      (ih fun m hm => h m (List.mem_cons_of_mem _ hm))

theorem value_pretty (v : Json) (level : Nat) (r : List Char) :
    Value (pretty level v ++ r) v r := by
  induction v using induct generalizing level r with
  | null => exact .null
  | bool b => cases b <;> constructor
  | number n =>
    rw [pretty, ← Numeral.ofNat_text]
    exact .number (Numeral.ofNat_wellFormed n) (Numeral.ofNat_value n)
  | string s =>
    have hs : Value (quoted s ++ r) (.string (String.ofList s.toList)) r := by
      simp only [quoted, List.cons_append, List.append_assoc, List.nil_append]
      exact .string (Quoted.flatMap_escaped _ _)
    rwa [String.ofList_toList] at hs
  | array vs ih =>
    cases vs with
    | nil => exact .emptyArray .none
    | cons v vs =>
      simp only [pretty, List.cons_append, List.append_assoc, List.nil_append]
      exact .array (listed_items (fun w hw => ih w hw (level + 1)) r)
  | object ms ih =>
    cases ms with
    | nil => exact .emptyObject .none
    | cons m ms =>
      obtain ⟨k, v⟩ := m
      simp only [pretty, List.cons_append, List.append_assoc, List.nil_append]
      exact .object (listed_members (fun m hm => ih m hm (level + 1)) r)

theorem isText_render_append (v : Json) {s : List Char} (hs : Blanks s []) :
    IsText (v.render.toList ++ s) v := by
  rw [render, String.toList_ofList]
  exact ⟨.none, value_pretty v 0 s, hs⟩

theorem isText_render_append_iff (v w : Json) {s : List Char} (hs : Blanks s []) :
    IsText (v.render.toList ++ s) w ↔ w = v := by
  constructor
  · exact fun hw => hw.unique (isText_render_append v hs)
  · rintro rfl
    exact isText_render_append w hs

theorem isText_render_iff (v w : Json) : IsText v.render.toList w ↔ w = v := by
  have hw := isText_render_append_iff v w .none
  rwa [List.append_nil] at hw

end Json

namespace Report

/-- What a report in JSON shows of a finding. -/
def shown (f : Finding) : String × String × String × Nat × String × Severity :=
  (f.rule.id, f.message, f.file.text, f.lineNumber, f.line, f.rule.severity)

theorem shown_eq_of_findingJson_eq {f g : Finding} (h : findingJson f = findingJson g) :
    shown f = shown g := by
  simp only [findingJson, Json.object.injEq, List.cons.injEq, Prod.mk.injEq, Json.string.injEq,
    Json.number.injEq, true_and, and_true] at h
  obtain ⟨hid, hmessage, hfile, hnumber, hline, hseverity⟩ := h
  have hs := Severity.ofName?_name f.rule.severity
  rw [hseverity, Severity.ofName?_name] at hs
  rw [shown, shown, hid, hmessage, hfile, hnumber, hline, Option.some.inj hs]

theorem map_shown_eq {fs gs : List Finding} (h : fs.map findingJson = gs.map findingJson) :
    fs.map shown = gs.map shown := by
  rw [← List.forall₂_eq_eq_eq, List.forall₂_map_left_iff, List.forall₂_map_right_iff] at h ⊢
  exact h.imp fun _ _ => shown_eq_of_findingJson_eq

/-- A report in JSON is one text and the end of a line. The text stands for one value, the list of
the findings with six members each, and other findings have another text. -/
theorem render_json_decodes (r : Report) (colored : Bool) :
    ∃ text : String, r.render .json colored = text ++ "\n" ∧
      (∀ v, Json.IsText text.toList v ↔
        v = .array (r.findings.map fun f => .object [
          ("id", .string f.rule.id), ("message", .string f.message),
          ("filename", .string f.file.text), ("linenumber", .number f.lineNumber),
          ("line", .string f.line), ("severity", .string f.rule.severity.name)])) ∧
      ∀ (r' : Report) (colored' : Bool), r'.render .json colored' = r.render .json colored →
        r'.findings.map shown = r.findings.map shown := by
  refine ⟨(Json.array (r.findings.map findingJson)).render, rfl, ?_, ?_⟩
  · exact fun v => Json.isText_render_iff _ v
  · intro r' colored' h
    have htext := (String.append_left_inj "\n").mp h
    have hread := (Json.isText_render_iff (.array (r'.findings.map findingJson)) _).mpr rfl
    rw [htext, Json.isText_render_iff, Json.array.injEq] at hread
    exact map_shown_eq hread

end Report

end StateLint
