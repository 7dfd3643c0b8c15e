import Mathlib.Data.List.TakeWhile
import StateLint.Proofs.ByteOrder
import StateLint.Proofs.TextPieces
import StateLint.RuleDirectory

/-! # The files of a rule directory, and their order

A directory is listed in whatever order the machine likes, and its files are then read in the order
of their paths: component by component, names by their bytes. The paths of one directory differ in
the last component only, so that this order is the one of the names. Since it leaves no two files
undecided, the order of the listing cannot be seen. -/
namespace StateLint

namespace Path

namespace Component

def rank : Component → Nat
  | root => 0
  | current => 1
  | parent => 2
  | normal _ => 3

def nameBytes : Component → List UInt8
  | normal name => Text.bytes name
  | _ => []

def compare (a b : Component) : Ordering :=
  (Ord.compare a.rank b.rank).then (Ord.compare a.nameBytes b.nameBytes)

theorem compare_self (a : Component) : a.compare a = .eq := by
  simp [compare, Std.ReflOrd.compare_self]

theorem compare_normal (a b : String) : (normal a).compare (normal b) = Ord.compare a b := by
  rw [Text.compare_eq_compare_bytes]
  simp [compare, rank, nameBytes, Std.ReflOrd.compare_self]

end Component

/-- The order of paths: by the first component in which they differ. -/
def compare (p q : Path) : Ordering := p.components.compareLex Component.compare q.components

theorem compareLex_append_left (l x y : List Component) :
    (l ++ x).compareLex Component.compare (l ++ y) = x.compareLex Component.compare y := by
  induction l with
  | nil => rfl
  | cons a l ih =>
    rw [List.cons_append, List.cons_append, List.compareLex_cons_cons, ih, Component.compare_self]
    rfl

theorem segments_append_name {lead name : String} (hl : lead = "" ∨ ∃ l, lead = l ++ "/")
    (hn : '/' ∉ name.toList) (hne : name ≠ "") :
    segments ⟨lead ++ name⟩ = segments ⟨lead⟩ ++ [name] := by
  have hname := Text.split_of_not_mem hn
  rcases hl with rfl | ⟨l, rfl⟩
  · simp [segments, hname, hne, Text.split]
  · have ht : (l ++ "/" ++ name).toList = l.toList ++ '/' :: name.toList := by simp
    have hs : (l ++ "/").toList = l.toList ++ '/' :: [] := by simp
    simp [segments, ht, hs, Text.split_append_cons, hname, hne, Text.split]

theorem isAbsolute_append_name {lead name : String} (hl : lead = "" ∨ ∃ l, lead = l ++ "/")
    (hn : '/' ∉ name.toList) : isAbsolute ⟨lead ++ name⟩ = isAbsolute ⟨lead⟩ := by
  rcases hl with rfl | ⟨l, rfl⟩
  · have hh : name.toList.head? ≠ some '/' := fun h => hn (List.mem_of_head? h)
    simpa [isAbsolute] using hh
  · cases hs : l.toList with
    | nil => simp [isAbsolute, hs]
    | cons c s => simp [isAbsolute, hs]

theorem components_append_name {lead name : String} (hl : lead = "" ∨ ∃ l, lead = l ++ "/")
    (hn : '/' ∉ name.toList) (hne : name ∉ ["", ".", ".."]) :
    components ⟨lead ++ name⟩ = components ⟨lead⟩ ++ [.normal name] := by
  simp only [List.mem_cons, List.not_mem_nil, or_false, not_or] at hne
  obtain ⟨hempty, hdot, hdots⟩ := hne
  have hs := segments_append_name hl hn hempty
  have hh : (segments ⟨lead⟩ ++ [name]).head? = some "." ↔ (segments ⟨lead⟩).head? = some "." := by
    cases segments ⟨lead⟩ with
    | nil => simp [hdot]
    | cons s ss => simp
  unfold components
  rw [isAbsolute_append_name hl hn, hs]
  simp only [hh, List.filter_append, List.map_append]
  split_ifs
  all_goals simp [hdot, hdots]

end Path

namespace RuleDirectory

/-- Before the name, all files of a directory have the same path. -/
theorem exists_lead (dir : Path) :
    ∃ lead : String, (lead = "" ∨ ∃ l, lead = l ++ "/") ∧ ∀ name, filePath dir name = ⟨lead ++ name⟩ := by
  unfold filePath
  simp only
  generalize (if dir.isAbsolute then dir.segments else dir.segments.dropWhile (· = ".")) = names
  by_cases hn : names = []
  · subst names
    refine ⟨String.ofList (dir.text.toList.takeWhile (· = '/')), ?_, fun name => by simp⟩
    rcases List.eq_nil_or_concat (dir.text.toList.takeWhile (· = '/')) with hs | ⟨s, c, hs⟩
    · exact .inl (by simp [hs])
    · have hc : c = '/' := by
        have hm : c ∈ dir.text.toList.takeWhile (· = '/') := by simp [hs]
        simpa using List.mem_takeWhile_imp hm
      exact .inr ⟨String.ofList s, by simp [hs, hc]⟩
  · refine ⟨String.ofList (dir.text.toList.takeWhile (· = '/')) ++ String.intercalate "/" names ++ "/",
      .inr ⟨_, rfl⟩, fun name => ?_⟩
    rw [String.intercalate_append_of_ne_nil hn (by simp)]
    simp [String.append_assoc]

/-- The rule files of a directory, in the order in which it is listed. -/
def listed (fs : FileSystem) (dir : Path) : List Path :=
  (((fs.names dir).filter isRuleFileName).map (filePath dir)).filter fs.isFile

theorem files_perm_listed (fs : FileSystem) (dir : Path) :
    (files fs dir).Perm (listed fs dir) :=
  ((List.mergeSort_perm _ _).map (filePath dir)).filter fs.isFile

/-- Names that are listed in order are not moved. -/
theorem files_of_ascending {fs : FileSystem} {dir : Path}
    (h : ((fs.names dir).filter isRuleFileName).Pairwise (· ≤ ·)) : files fs dir = listed fs dir := by
  unfold files listed
  rw [List.mergeSort_of_pairwise (by simpa using h)]

/-- Any order that files inherit from their names is the order in which they are read. -/
theorem files_pairwise {fs : FileSystem} {dir : Path} {R : Path → Path → Prop}
    (h : ∀ a ∈ fs.names dir, ∀ b ∈ fs.names dir, isRuleFileName a → isRuleFileName b → a ≤ b →
      R (filePath dir a) (filePath dir b)) :
    (files fs dir).Pairwise R := by
  unfold files
  apply List.Pairwise.filter
  rw [List.pairwise_map]
  refine (Text.pairwise_mergeSort_by (fun name => name) _).imp_of_mem ?_
  intro a b ha hb hab
  obtain ⟨ha, hra⟩ := List.mem_filter.mp (List.mem_mergeSort.mp ha)
  obtain ⟨hb, hrb⟩ := List.mem_filter.mp (List.mem_mergeSort.mp hb)
  exact h a ha b hb hra hrb hab

theorem files_sorted_text (fs : FileSystem) (dir : Path) :
    (files fs dir).Pairwise fun a b => a.text ≤ b.text := by
  obtain ⟨lead, -, hlead⟩ := exists_lead dir
  refine files_pairwise fun a _ b _ _ _ hab => ?_
  -- Texts compare as the lists of their characters do.
  have hlist := @List.append_left_le Char _ _ _ lead.toList a.toList b.toList hab
  rw [← String.toList_append, ← String.toList_append] at hlist
  rw [hlead, hlead]
  exact hlist

/-- Another listing of the same files makes no difference. -/
theorem files_eq_of_listed_perm {fs fs' : FileSystem} {dir : Path}
    (h : (listed fs' dir).Perm (listed fs dir)) : files fs' dir = files fs dir := by
  have hp : (files fs' dir).Perm (files fs dir) :=
    (files_perm_listed fs' dir).trans (h.trans (files_perm_listed fs dir).symm)
  refine hp.eq_of_pairwise ?_ (files_sorted_text fs' dir) (files_sorted_text fs dir)
  intro a b _ _ hab hba
  exact congrArg Path.mk (String.le_antisymm hab hba)

/-- What the machine promises: a name in a directory is a single one. -/
def PlainNames (fs : FileSystem) (dir : Path) : Prop := ∀ name ∈ fs.names dir, '/' ∉ name.toList

theorem compare_filePath (dir : Path) {a b : String} (ha : '/' ∉ a.toList) (hb : '/' ∉ b.toList)
    (hra : isRuleFileName a) (hrb : isRuleFileName b) :
    (filePath dir a).compare (filePath dir b) = compare a b := by
  have hproper : ∀ name, isRuleFileName name → name ∉ ["", ".", ".."] := by
    intro name hr hm
    simp only [List.mem_cons, List.not_mem_nil, or_false] at hm
    rcases hm with rfl | rfl | rfl
    all_goals exact absurd hr (by decide)
  obtain ⟨lead, hl, hlead⟩ := exists_lead dir
  rw [hlead, hlead, Path.compare, Path.components_append_name hl ha (hproper a hra),
    Path.components_append_name hl hb (hproper b hrb), Path.compareLex_append_left,
    List.compareLex_cons_cons, Path.Component.compare_normal]
  exact Ordering.then_eq

theorem files_sorted {fs : FileSystem} {dir : Path} (hn : PlainNames fs dir) :
    (files fs dir).Pairwise fun a b => (a.compare b).isLE := by
  refine files_pairwise fun a ha b hb hra hrb hab => ?_
  rw [compare_filePath dir (hn a ha) (hn b hb) hra hrb]
  exact (isLE_compareOfLessAndEq String.le_antisymm String.not_le String.le_total).mpr hab

end RuleDirectory

end StateLint
