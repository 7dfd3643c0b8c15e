import Mathlib.Data.List.Basic
import StateLint.FileSystem.Tree
import StateLint.Proofs.TextPieces

/-! # What the key of a file says

Files are told apart by their keys. A key is said here by the names on the way from the root to the
file: those of the canonical path if there is one, else those of the path as seen from the working
directory. Doubled slashes and `.` do not show in these names, but `..` is one of them: a path that
leads nowhere is not simplified. -/
namespace StateLint

namespace Path

/-- What stands between the slashes of a path, without empty pieces and without `.`. -/
def names (p : Path) : List String :=
  ((Text.split '/' p.text.toList).map String.ofList).filter fun s => s ≠ "" ∧ s ≠ "."

def nameComponent (name : String) : Component := if name = ".." then .parent else .normal name

theorem nameComponent_injective : Function.Injective nameComponent := by
  intro a b h
  unfold nameComponent at h
  split at h
  · next ha =>
    split at h
    · next hb => rw [ha, hb]
    · cases h
  · split at h
    · cases h
    · exact Component.normal.inj h

theorem segments_filter_eq_names (p : Path) : p.segments.filter (· != ".") = p.names := by
  have he : (fun s : List Char => !s.isEmpty) = (fun s : String => s != "") ∘ String.ofList := by
    funext s
    cases s <;> simp
  unfold segments names
  rw [he, ← List.filter_map, List.filter_filter]
  apply List.filter_congr
  intro s _
  rw [Bool.eq_iff_iff]
  simp [and_comm]

theorem components_of_isAbsolute {p : Path} (h : p.isAbsolute) :
    p.components = .root :: p.names.map nameComponent := by
  unfold components
  rw [if_pos h, segments_filter_eq_names]
  rfl

theorem names_mk_append_slash (a b : String) :
    names ⟨a ++ "/" ++ b⟩ = names ⟨a⟩ ++ names ⟨b⟩ := by
  have ht : (a ++ "/" ++ b).toList = a.toList ++ '/' :: b.toList := by simp
  simp only [names, ht, Text.split_append_cons, List.map_append, List.filter_append]

theorem names_mk_slash (a : String) : names ⟨a ++ "/"⟩ = names ⟨a⟩ := by
  have h := names_mk_append_slash a ""
  rw [String.append_empty] at h
  rw [h]
  exact List.append_nil _

/-- Doubled slashes and `.` are not seen, and `..` is. -/
theorem names_spellings (a b : String) :
    names ⟨a ++ "//" ++ b⟩ = names ⟨a ++ "/" ++ b⟩ ∧
      names ⟨a ++ "/./" ++ b⟩ = names ⟨a ++ "/" ++ b⟩ ∧
      names ⟨a ++ "/../" ++ b⟩ ≠ names ⟨a ++ "/" ++ b⟩ := by
  have hslash : a ++ "//" ++ b = a ++ "/" ++ "" ++ "/" ++ b := by simp [← String.toList_inj]
  have hdot : a ++ "/./" ++ b = a ++ "/" ++ "." ++ "/" ++ b := by simp [← String.toList_inj]
  have hdots : a ++ "/../" ++ b = a ++ "/" ++ ".." ++ "/" ++ b := by simp [← String.toList_inj]
  rw [hslash, hdot, hdots]
  simp only [names_mk_append_slash]
  refine ⟨?_, ?_, ?_⟩
  · simp [names, Text.split]
  · simp [names, Text.split]
  · intro h
    have hl := congrArg List.length h
    simp [names, Text.split] at hl

theorem names_join {p q : Path} (hp : p.text ≠ "") (hq : q.isAbsolute = false) :
    (p.join q).names = p.names ++ q.names := by
  unfold join
  rw [hq, Bool.false_or, if_neg (by simpa using hp)]
  split
  · next hl =>
    obtain ⟨a, ha⟩ := List.getLast?_eq_some_iff.mp hl
    have ht : p.text = String.ofList a ++ "/" := by
      rw [← String.toList_inj, ha]
      simp
    have hn : p.names = names ⟨String.ofList a⟩ := by
      rw [← names_mk_slash (String.ofList a), ← ht]
    rw [ht, names_mk_append_slash, hn]
  · exact names_mk_append_slash p.text q.text

theorem isAbsolute_join {p q : Path} (hp : p.isAbsolute) : (p.join q).isAbsolute := by
  unfold isAbsolute at hp ⊢
  obtain ⟨s, hs⟩ := List.head?_eq_some_iff.mp (eq_of_beq hp)
  unfold join
  split
  · next h =>
    rcases Bool.or_eq_true_iff.mp h with hq | he
    · exact hq
    · rw [String.isEmpty_iff.mp he] at hs
      cases hs
  · split
    · simp [hs]
    · simp [hs]

end Path

namespace FileSystem

/-- What the machine promises: the working directory and canonical paths start at the root. -/
structure Rooted (fs : FileSystem) : Prop where
  workingDir : fs.workingDir.isAbsolute
  canonical : ∀ p real, fs.canonical? p = some real → real.isAbsolute

/-- The names on the way from the root to a file. -/
def place (fs : FileSystem) (p : Path) : List String :=
  match fs.canonical? p with
  | some real => real.names
  | none => if p.isAbsolute then p.names else fs.workingDir.names ++ p.names

def placeKey (place : List String) : List Path.Component := .root :: place.map Path.nameComponent

theorem placeKey_injective : Function.Injective placeKey := by
  intro a b h
  exact List.map_injective_iff.mpr Path.nameComponent_injective (List.cons.inj h).2

theorem key_eq_placeKey {fs : FileSystem} (h : fs.Rooted) (p : Path) :
    fs.key p = placeKey (fs.place p) := by
  unfold key keyPath place placeKey
  cases hc : fs.canonical? p with
  | some real => exact Path.components_of_isAbsolute (h.canonical p real hc)
  | none =>
    by_cases hp : p.isAbsolute
    · simp only [hp, if_true, Path.join, Bool.true_or]
      exact Path.components_of_isAbsolute hp
    · have hw : fs.workingDir.text ≠ "" := by
        intro he
        have := h.workingDir
        simp [Path.isAbsolute, he] at this
      simp only [hp, if_false, Bool.false_eq_true]
      rw [Path.components_of_isAbsolute (Path.isAbsolute_join h.workingDir),
        Path.names_join hw (by simpa using hp)]

end FileSystem

theorem FileTree.isAbsolute_absolute (place : List String) : (absolute place).isAbsolute := by
  simp [absolute, Path.isAbsolute]

theorem FileTree.view_rooted (t : FileTree) : t.view.Rooted := by
  refine ⟨isAbsolute_absolute t.workingDir, ?_⟩
  intro p real h
  change t.canonical? p = some real at h
  unfold FileTree.canonical? at h
  split at h
  · cases h
    exact isAbsolute_absolute _
  · cases h

end StateLint
