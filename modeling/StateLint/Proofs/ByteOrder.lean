import Mathlib.Data.List.Lex
import Mathlib.Tactic.SplitIfs

/-! # Texts are ordered by their bytes

Texts are compared by their code points. The encoding keeps this order: if two characters differ,
so do their bytes, at the first difference in the same direction, whatever follows. Hence to compare
texts is to compare their bytes. -/
namespace StateLint.Text

/-- The bytes of a text. -/
def bytes (s : String) : List UInt8 := s.toByteArray.data.toList

theorem bytes_eq_flatMap (s : String) : bytes s = s.toList.flatMap String.utf8EncodeChar := by
  unfold bytes
  rw [← String.utf8Encode_toList, List.utf8Encode, List.toList_data_toByteArray]

theorem byte_cons_lt_cons_iff {m n : Nat} {x y : List UInt8} (hm : m < 256) (hn : n < 256) :
    UInt8.ofNat m :: x < UInt8.ofNat n :: y ↔ m < n ∨ m = n ∧ x < y := by
  rw [List.cons_lt_cons_iff, UInt8.ofNat_lt_iff_lt hm hn, ← UInt8.toNat_inj,
    UInt8.toNat_ofNat_of_lt' hm, UInt8.toNat_ofNat_of_lt' hn]

/-- Longer codes begin with greater bytes, and codes of one length are digits in base 64. -/
theorem encode_append_lt {c d : Char} (h : c < d) (x y : List UInt8) :
    String.utf8EncodeChar c ++ x < String.utf8EncodeChar d ++ y := by
  have hv : c.val.toNat < d.val.toNat := h
  have hd : d.val.toNat < 1114112 := by
    have := d.valid
    simp only [UInt32.isValidChar, Nat.isValidChar] at this
    omega
  unfold String.utf8EncodeChar
  generalize c.val.toNat = v at hv
  generalize d.val.toNat = w at hv hd
  simp only
  split_ifs
  all_goals
    -- The first digit is small enough to stand without its remainder.
    simp (disch := omega) only [List.cons_append, List.nil_append, byte_cons_lt_cons_iff,
      Nat.mod_eq_of_lt]
    omega

theorem flatMap_encode_lt {l m : List Char} (h : l < m) :
    l.flatMap String.utf8EncodeChar < m.flatMap String.utf8EncodeChar := by
  induction h with
  | @nil c m =>
    obtain ⟨b, bs, hb⟩ := List.exists_cons_of_ne_nil (String.utf8EncodeChar_ne_nil (c := c))
    rw [List.flatMap_nil, List.flatMap_cons, hb]
    exact List.nil_lt_cons b _
  | rel h => exact encode_append_lt h _ _
  | cons _ ih => exact List.append_left_lt ih

theorem compare_of_lt {x y : List UInt8} (h : x < y) : compare x y = .lt := by
  induction h with
  | nil => rfl
  | @rel a x b y h =>
    have hab : compare a b = .lt := compareOfLessAndEq_eq_lt.mpr h
    rw [List.compare_cons_cons, hab]
    rfl
  | @cons a x y _ ih =>
    have haa : compare a a = .eq := Std.ReflOrd.compare_self
    rw [List.compare_cons_cons, haa, ih]
    rfl

theorem compare_bytes_of_lt {s t : String} (h : s < t) : compare (bytes s) (bytes t) = .lt := by
  rw [bytes_eq_flatMap, bytes_eq_flatMap]
  exact compare_of_lt (flatMap_encode_lt h)

theorem compare_eq_compare_bytes (s t : String) : compare s t = compare (bytes s) (bytes t) := by
  cases h : compare s t with
  | lt => exact (compare_bytes_of_lt (compareOfLessAndEq_eq_lt.mp h)).symm
  | eq =>
    obtain rfl := Std.LawfulEqOrd.eq_of_compare h
    exact Std.ReflOrd.compare_self.symm
  | gt =>
    have hts : compare t s = .lt := Std.OrientedCmp.gt_iff_lt.mp h
    have hb := compare_bytes_of_lt (compareOfLessAndEq_eq_lt.mp hts)
    exact (Std.OrientedCmp.gt_iff_lt.mpr hb).symm

theorem bytes_lt_bytes_iff {s t : String} : bytes s < bytes t ↔ s < t := by
  constructor
  · intro h
    have hc := compare_of_lt h
    rw [← compare_eq_compare_bytes] at hc
    exact compareOfLessAndEq_eq_lt.mp hc
  · intro h
    rw [bytes_eq_flatMap, bytes_eq_flatMap]
    exact flatMap_encode_lt h

theorem pairwise_mergeSort_by {α : Type*} (key : α → String) (l : List α) :
    (l.mergeSort fun a b => key a ≤ key b).Pairwise fun a b => key a ≤ key b := by
  refine (List.pairwise_mergeSort ?_ ?_ l).imp of_decide_eq_true
  · intro a b c hab hbc
    rw [decide_eq_true_eq] at hab hbc ⊢
    exact String.le_trans hab hbc
  · intro a b
    rw [Bool.or_eq_true, decide_eq_true_eq, decide_eq_true_eq]
    exact String.le_total (key a) (key b)

end StateLint.Text
