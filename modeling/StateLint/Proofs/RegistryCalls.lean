import Mathlib.Data.List.Induction
import StateLint.Proofs.RegistryGrowth

/-! # What calls do to a registry, and what they answer

A registry is changed by calls: a rule is registered, rules are added one after the other, or a
directory is loaded. Each call comes to adding the rules that it offers, and a directory that cannot
be loaded offers none, however many of its files are good. So rules are put behind the others and
never touched again, and an id stays with the first rule that was offered under it. -/
namespace StateLint

namespace RuleDirectory

variable {fs : FileSystem}

theorem visit_eq_ok {defined defined' : List (String × Path)} {file : Path} {rules : List Rule}
    (h : visit fs defined file = .ok (rules, defined')) : loadFile fs file = .ok rules := by
  unfold visit at h
  split at h
  · cases h
  · next own hl =>
    split at h
    · cases h
    · cases h
      exact hl

theorem loadFiles_eq_ok {defined : List (String × Path)} {files : List Path} {rules : List Rule}
    (h : loadFiles fs defined files = .ok rules) :
    ∀ file ∈ files, ∃ own, loadFile fs file = .ok own := by
  induction files generalizing defined rules with
  | nil => simp
  | cons first rest ih =>
    unfold loadFiles at h
    split at h
    · cases h
    · next own defined' hv =>
      split at h
      · next more hr =>
        intro file hf
        rcases List.mem_cons.mp hf with rfl | hf
        · exact ⟨own, visit_eq_ok hv⟩
        · exact ih hr file hf
      · cases h

/-- One file that cannot be used spoils its directory. -/
theorem load_eq_ok {dir : Path} {rules : List Rule} (h : load fs dir = .ok rules) :
    ∀ file ∈ files fs dir, ∃ own, loadFile fs file = .ok own := by
  unfold load at h
  split at h
  · exact loadFiles_eq_ok h
  · cases h

end RuleDirectory

namespace Registry

variable {r : Registry}

inductive Call where
  | register (rule : Rule)
  | extend (rules : List Rule)
  | load (fs : FileSystem) (dir : Path)

inductive Answer where
  /-- Whether the rule was added. -/
  | registered (isNew : Bool)
  /-- How many rules were added. -/
  | added (count : Nat)
  | failed (cause : RuleDirectoryError)

/-- The rules that a call adds unless their ids are taken. -/
def Call.offered : Call → List Rule
  | register rule => [rule]
  | extend rules => rules
  | load fs dir =>
    match RuleDirectory.load fs dir with
    | .ok rules => rules
    | .error _ => []

/-- The answer to a call, and the registry after it. -/
def perform (r : Registry) : Call → Answer × Registry
  | .register rule =>
    let (isNew, s) := r.register rule
    (.registered isNew, s)
  | .extend rules =>
    let (count, s) := r.extend rules
    (.added count, s)
  | .load fs dir =>
    match r.loadDirectory fs dir with
    | .ok (count, s) => (.added count, s)
    | .error cause => (.failed cause, r)

/-- The registry after some calls, from an empty one. -/
def after (config : Config) (calls : List Call) : Registry :=
  calls.foldl (fun r call => (r.perform call).2) (empty config)

/-- What an answer tells about the registry before the call and the one after it. -/
def Answer.Tells (before now : Registry) : Call → Answer → Prop
  | .register rule, .registered isNew => isNew = true ↔ rule.id ∉ before.ids
  | .extend _, .added count => now.size = before.size + count
  | .load fs dir, .added count =>
    (∀ file ∈ RuleDirectory.files fs dir, ∃ rules, RuleDirectory.loadFile fs file = .ok rules) ∧
      now.size = before.size + count
  | .load fs dir, .failed cause => RuleDirectory.load fs dir = .error cause ∧ now = before
  | _, _ => False

theorem register_fst_iff {rule : Rule} : (r.register rule).1 = true ↔ rule.id ∉ r.ids := by
  rw [register_eq]
  split
  · next h => simp [h]
  · next h => simp [h]

theorem prefix_register (r : Registry) (rule : Rule) : r.rules <+: (r.register rule).2.rules := by
  rw [register_eq]
  split
  · exact List.prefix_rfl
  · exact List.prefix_append r.rules [rule]

theorem prefix_extend (r : Registry) (rules : List Rule) :
    r.rules <+: (r.extend rules).2.rules := by
  induction rules generalizing r with
  | nil => exact List.prefix_rfl
  | cons rule rules ih => exact (prefix_register r rule).trans (ih (r.register rule).2)

theorem register_size (r : Registry) (rule : Rule) :
    (r.register rule).2.size = r.size + (r.register rule).1.toNat := by
  rw [register_eq]
  split
  · rfl
  · simp [size]

theorem extend_size (r : Registry) (rules : List Rule) :
    (r.extend rules).2.size = r.size + (r.extend rules).1 := by
  induction rules generalizing r with
  | nil => rfl
  | cons rule rules ih =>
    have hr := register_size r rule
    have he := ih (r.register rule).2
    change ((r.register rule).2.extend rules).2.size =
      r.size + (((r.register rule).2.extend rules).1 + (r.register rule).1.toNat)
    omega

/-- A rule whose id is taken would not be found anyway. -/
theorem find?_register (r : Registry) (rule : Rule) (id : String) :
    (r.register rule).2.rules.find? (·.id = id) = (r.rules ++ [rule]).find? (·.id = id) := by
  rw [register_eq]
  split
  · next h =>
    obtain ⟨first, hf, he⟩ := List.mem_map.mp h
    rw [List.find?_append]
    by_cases hi : rule.id = id
    · have hs : (r.rules.find? (·.id = id)).isSome := by
        rw [List.find?_isSome]
        exact ⟨first, hf, by simp [he, hi]⟩
      obtain ⟨found, hfound⟩ := Option.isSome_iff_exists.mp hs
      rw [hfound, Option.some_or]
    · simp [hi]
  · rfl

theorem find?_extend (r : Registry) (rules : List Rule) (id : String) :
    (r.extend rules).2.rules.find? (·.id = id) = (r.rules ++ rules).find? (·.id = id) := by
  induction rules generalizing r with
  | nil => simp [extend]
  | cons rule rules ih =>
    rw [extend_cons, ih, List.find?_append, find?_register, ← List.find?_append, List.append_assoc,
      List.singleton_append]

theorem perform_load_of_ok {fs : FileSystem} {dir : Path} {rules : List Rule}
    (h : RuleDirectory.load fs dir = .ok rules) :
    r.perform (.load fs dir) = (.added (r.extend rules).1, (r.extend rules).2) := by
  simp only [perform, loadDirectory, h]

theorem perform_load_of_error {fs : FileSystem} {dir : Path} {cause : RuleDirectoryError}
    (h : RuleDirectory.load fs dir = .error cause) :
    r.perform (.load fs dir) = (.failed cause, r) := by
  simp only [perform, loadDirectory, h]

theorem perform_eq_extend (r : Registry) (call : Call) :
    (r.perform call).2 = (r.extend call.offered).2 := by
  cases call with
  | register rule => rfl
  | extend rules => rfl
  | load fs dir =>
    cases h : RuleDirectory.load fs dir with
    | ok rules => simp only [perform_load_of_ok h, Call.offered, h]
    | error cause =>
      simp only [perform_load_of_error h, Call.offered, h]
      rfl

theorem perform_tells (r : Registry) (call : Call) :
    Answer.Tells r (r.perform call).2 call (r.perform call).1 := by
  cases call with
  | register rule => exact register_fst_iff
  | extend rules => exact extend_size r rules
  | load fs dir =>
    cases h : RuleDirectory.load fs dir with
    | ok rules =>
      rw [perform_load_of_ok h]
      exact ⟨RuleDirectory.load_eq_ok h, extend_size r rules⟩
    | error cause =>
      rw [perform_load_of_error h]
      exact ⟨h, rfl⟩

theorem after_concat (config : Config) (calls : List Call) (call : Call) :
    after config (calls ++ [call]) = ((after config calls).perform call).2 := by
  simp [after]

/-- Calls come to one after the other offering its rules. -/
theorem after_eq_extend (config : Config) (calls : List Call) :
    after config calls = ((empty config).extend (calls.flatMap Call.offered)).2 := by
  induction calls using List.reverseRecOn with
  | nil => rfl
  | append_singleton calls call ih =>
    rw [after_concat, perform_eq_extend, ih, ← extend_append, List.flatMap_append,
      List.flatMap_singleton]

theorem step_perform (r : Registry) (call : Call) : Step r (r.perform call).2 := by
  cases call with
  | register rule => exact .register r rule
  | extend rules => exact .extend r rules
  | load fs dir =>
    cases h : r.loadDirectory fs dir with
    | ok result =>
      simp only [perform, h]
      exact .load h
    | error cause =>
      simp only [perform, h]
      exact .loadFailure h

theorem exists_call_of_step {s : Registry} (h : Step r s) : ∃ call, (r.perform call).2 = s := by
  cases h with
  | register rule => exact ⟨.register rule, rfl⟩
  | extend rules => exact ⟨.extend rules, rfl⟩
  | @load _ fs dir _ hl => exact ⟨.load fs dir, by simp only [perform, hl]⟩
  | @loadFailure fs dir _ hl => exact ⟨.load fs dir, by simp only [perform, hl]⟩

/-- Calls one after the other lead to the registries that can come about, and to no others. -/
theorem reachable_iff : Reachable r ↔ ∃ config calls, after config calls = r := by
  constructor
  · rintro ⟨config, h⟩
    induction h with
    | refl => exact ⟨config, [], rfl⟩
    | tail _ st ih =>
      obtain ⟨config, calls, rfl⟩ := ih
      obtain ⟨call, rfl⟩ := exists_call_of_step st
      exact ⟨config, calls ++ [call], after_concat config calls call⟩
  · rintro ⟨config, calls, rfl⟩
    refine ⟨config, ?_⟩
    induction calls using List.reverseRecOn with
    | nil => exact .refl
    | append_singleton calls call ih =>
      rw [after_concat]
      exact ih.tail (step_perform _ call)

/-- After every call the ids are distinct, the rules from before stand in front as they were, each
id belongs to the first rule ever offered under it, and the answer tells what happened. -/
theorem calls_only_add (config : Config) (done : List Call) (next : Call) :
    let before := after config done
    let now := after config (done ++ [next])
    now.ids.Nodup ∧ before.rules <+: now.rules ∧
      (∀ id, now.rules.find? (·.id = id) =
        ((done ++ [next]).flatMap Call.offered).find? (·.id = id)) ∧
      Answer.Tells before now next (before.perform next).1 := by
  intro before now
  have hnow : now = (before.perform next).2 := after_concat config done next
  refine ⟨reachable_ids_nodup (reachable_iff.mpr ⟨config, _, rfl⟩), ?_, ?_, ?_⟩
  · rw [hnow, perform_eq_extend]
    exact prefix_extend before next.offered
  · intro id
    have he := find?_extend (empty config) ((done ++ [next]).flatMap Call.offered) id
    rw [← after_eq_extend] at he
    exact he
  · rw [hnow]
    exact perform_tells before next

end Registry

end StateLint
