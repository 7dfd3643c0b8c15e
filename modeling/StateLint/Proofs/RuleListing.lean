import Mathlib.Data.List.Perm.Basic
import Mathlib.Data.String.Basic
import StateLint.Proofs.ByteOrder
import StateLint.Proofs.RegistryGrowth
import StateLint.Rule.Builtin

/-! # The listing of the rules

Rules are listed in the order of their ids, and no two rules of a registry have the same id. So
there is one way to list some rules, in whatever order they were registered, and each of them is
listed once. -/
namespace StateLint.Registry

variable {r s : Registry}

theorem sorted_perm (r : Registry) : r.sorted.Perm r.rules := List.mergeSort_perm r.rules _

theorem sorted_pairwise (r : Registry) : r.sorted.Pairwise fun a b => a.id ≤ b.id :=
  Text.pairwise_mergeSort_by Rule.id r.rules

theorem sorted_ids_nodup (hn : r.ids.Nodup) : (r.sorted.map Rule.id).Nodup :=
  ((sorted_perm r).map Rule.id).nodup_iff.mpr hn

theorem sorted_ascending (hn : r.ids.Nodup) :
    r.sorted.Pairwise fun a b => Text.bytes a.id < Text.bytes b.id := by
  have hne : r.sorted.Pairwise fun a b => a.id ≠ b.id := List.pairwise_map.mp (sorted_ids_nodup hn)
  refine ((sorted_pairwise r).and hne).imp ?_
  rintro a b ⟨hle, hab⟩
  exact Text.bytes_lt_bytes_iff.mpr (lt_of_le_of_ne hle hab)

/-- Rules with the same id are the same rule, so that the order of the ids leaves no choice. -/
theorem sorted_eq_of_perm (hn : r.ids.Nodup) (h : r.rules.Perm s.rules) : r.sorted = s.sorted := by
  have hp : r.sorted.Perm s.sorted := (sorted_perm r).trans (h.trans (sorted_perm s).symm)
  refine hp.eq_of_pairwise ?_ (sorted_pairwise r) (sorted_pairwise s)
  intro a b ha hb hab hba
  exact List.inj_on_of_nodup_map (sorted_ids_nodup hn) ha (hp.mem_iff.mpr hb) (le_antisymm hab hba)

theorem rules_perm (hr : Reachable r) (hs : Reachable s)
    (h : ∀ rule, rule ∈ r.rules ↔ rule ∈ s.rules) : r.rules.Perm s.rules :=
  (List.perm_ext_iff_of_nodup (reachable_ids_nodup hr).of_map (reachable_ids_nodup hs).of_map).mpr h

/-- Two registries with the same rules print the same listing, whatever the order of registration
was. A listing shows the sorted rules, one after the other: those of the registry, each of them
once, in the order of the bytes of their ids. -/
theorem listing_canonical (hr : Reachable r) (hs : Reachable s)
    (h : ∀ rule, rule ∈ r.rules ↔ rule ∈ s.rules) :
    r.listing = s.listing ∧
      r.listing = "\n".intercalate
        (r.sorted.map fun rule => rule.id ++ ": " ++ rule.summary ++ "\n " ++ rule.description) ∧
      r.sorted.Perm r.rules ∧
      (r.sorted.Pairwise fun a b => Text.bytes a.id < Text.bytes b.id) ∧
      ∀ rule ∈ r.rules, ∃! i : Nat, r.sorted[i]? = some rule := by
  have hn := reachable_ids_nodup hr
  have heq : r.sorted = s.sorted := sorted_eq_of_perm hn (rules_perm hr hs h)
  refine ⟨?_, rfl, sorted_perm r, sorted_ascending hn, ?_⟩
  · unfold listing
    rw [heq]
  · intro rule hm
    obtain ⟨i, hi, he⟩ := List.mem_iff_getElem.mp ((sorted_perm r).mem_iff.mpr hm)
    refine ⟨i, List.getElem?_eq_some_iff.mpr ⟨hi, he⟩, ?_⟩
    intro j hj
    have hij : r.sorted[i]? = r.sorted[j]? := by rw [hj, List.getElem?_eq_getElem hi, he]
    exact ((List.getElem?_inj hi (sorted_ids_nodup hn).of_map).mp hij).symm

/-- The order is not that of numbers: 1000 comes before 203, and 203 before 5. -/
theorem listing_canonical_unequalLengths :
    let five := Rule.inert "5" "Five"
    let thousand := Rule.inert "1000" "Thousand"
    let r := ((empty .default).extend [five, Builtin.tabs, thousand]).2
    let s := ((((empty .default).register thousand).2.extend [Builtin.tabs, thousand, five])).2
    Reachable r ∧ Reachable s ∧ (∀ rule, rule ∈ r.rules ↔ rule ∈ s.rules) ∧
      r.listing = s.listing ∧ s.listing = "1000: Thousand\n \n" ++
        "203: Most files should not contain tabs\n " ++
        "Tabs can cause unexpected display issues, use spaces\n5: Five\n " := by
  intro five thousand r s
  have hr : Reachable r := ⟨.default, .single (.extend _ _)⟩
  have hs : Reachable s :=
    ⟨.default, (Relation.ReflTransGen.single (.register _ _)).tail (.extend _ _)⟩
  have hp : r.rules.Perm s.rules := List.reverse_perm [thousand, Builtin.tabs, five]
  have hm : ∀ rule, rule ∈ r.rules ↔ rule ∈ s.rules := fun rule => hp.mem_iff
  obtain ⟨hsame, -⟩ := listing_canonical hr hs hm
  obtain ⟨-, hshown, -⟩ := listing_canonical hs hr fun rule => (hm rule).symm
  have hsorted : s.sorted = [thousand, Builtin.tabs, five] :=
    List.mergeSort_of_pairwise (by decide)
  refine ⟨hr, hs, hm, hsame, ?_⟩
  rw [hshown, hsorted]
  rfl

end StateLint.Registry
