import Mathlib.Data.List.Induction
import Mathlib.Order.Defs.Unbundled
import StateLint.Proofs.ByteOrder
import StateLint.Proofs.ReportOrder

/-! # Sorting a report again and again

A report is made by two calls: findings are added, or what is there is sorted. To sort in between
changes what stands where, but at each single place the findings stay in the order in which they
were added. So it is as good to sort once, at the end. -/
namespace StateLint

namespace Finding

/-- The order of reports, said with bytes. -/
theorem compare_eq_compare_bytes (f g : Finding) :
    compare f g = (Ord.compare (Text.bytes f.file.text) (Text.bytes g.file.text)).then
      ((Ord.compare f.lineNumber g.lineNumber).then
        (Ord.compare (Text.bytes f.rule.id) (Text.bytes g.rule.id))) := by
  rw [compare, Text.compare_eq_compare_bytes, Text.compare_eq_compare_bytes f.rule.id]

theorem isPreorder_compare : IsPreorder Finding fun f g => (compare f g).isLE where
  refl f := by simp [compare_eq_iff.mpr (rfl : f.place = f.place)]
  trans := compare_isLE_trans

theorem total_compare : Std.Total fun f g : Finding => (compare f g).isLE where
  total f g := Bool.or_eq_true_iff.mp (compare_isLE_total f g)

end Finding

namespace Report

inductive Call where
  | extend (findings : List Finding)
  | sort

namespace Call

/-- The findings that a call brings. -/
def added : Call → List Finding
  | extend findings => findings
  | sort => []

def isExtend : Call → Bool
  | extend _ => true
  | sort => false

end Call

def perform (r : Report) : Call → Report
  | .extend findings => r.extend findings
  | .sort => r.sort

/-- The report after some calls, from an empty one. -/
def after (calls : List Call) : Report := calls.foldl perform .empty

/-- All findings that some calls bring, in the order of the calls. -/
def added (calls : List Call) : List Finding := calls.flatMap Call.added

theorem after_concat (calls : List Call) (call : Call) :
    after (calls ++ [call]) = (after calls).perform call := by
  simp [after]

theorem added_concat (calls : List Call) (call : Call) :
    added (calls ++ [call]) = added calls ++ call.added := by
  simp [added]

theorem added_filter_isExtend (calls : List Call) :
    added (calls.filter Call.isExtend) = added calls := by
  induction calls with
  | nil => rfl
  | cons call calls ih =>
    cases call with
    | extend findings => simpa [added, List.filter_cons, Call.isExtend] using ih
    | sort => simpa [added, List.filter_cons, Call.isExtend, Call.added] using ih

theorem perform_agree {r : Report} {l : List Finding} (h : Finding.Agree r.findings l)
    (call : Call) : Finding.Agree (r.perform call).findings (l ++ call.added) := by
  cases call with
  | extend findings => exact h.append (.refl findings)
  | sort =>
    rw [Call.added, List.append_nil]
    exact (Finding.sort_agree r.findings).trans h

theorem after_agree (calls : List Call) : Finding.Agree (after calls).findings (added calls) := by
  induction calls using List.reverseRecOn with
  | nil => exact .refl []
  | append_singleton calls call ih =>
    rw [after_concat, added_concat]
    exact perform_agree ih call

theorem after_concat_sort (calls : List Call) :
    after (calls ++ [.sort]) = ⟨Finding.sort (added calls)⟩ := by
  have hs := Finding.sort_eq_sort_iff.mpr (after_agree calls)
  rw [after_concat, perform, sort, hs]

/-- When calls end with a sort, all the other sorts may be left out. The report then holds what was
added, in an order that is a total preorder on names by bytes, lines and ids by bytes; findings that
compare equal stand in the order in which they were added. -/
theorem after_sort_eq_sort_once (calls : List Call) :
    let final := after (calls ++ [.sort])
    final = after (calls.filter Call.isExtend ++ [.sort]) ∧
      final.findings.Perm (added calls) ∧
      final.findings.Pairwise (fun f g => (Finding.compare f g).isLE) ∧
      (∀ f : Finding, final.findings.filter (fun g => Finding.compare g f = .eq) =
        (added calls).filter fun g => Finding.compare g f = .eq) ∧
      IsPreorder Finding (fun f g => (Finding.compare f g).isLE) ∧
      Std.Total (fun f g : Finding => (Finding.compare f g).isLE) ∧
      ∀ f g : Finding, Finding.compare f g =
        (compare (Text.bytes f.file.text) (Text.bytes g.file.text)).then
          ((compare f.lineNumber g.lineNumber).then
            (compare (Text.bytes f.rule.id) (Text.bytes g.rule.id))) := by
  intro final
  have hfinal : final = ⟨Finding.sort (added calls)⟩ := after_concat_sort calls
  refine ⟨?_, ?_, ?_, ?_, Finding.isPreorder_compare, Finding.total_compare,
    Finding.compare_eq_compare_bytes⟩
  · rw [hfinal, after_concat_sort, added_filter_isExtend]
  · rw [hfinal]
    exact Finding.sort_perm (added calls)
  · rw [hfinal]
    exact Finding.sort_sorted (added calls)
  · intro f
    simp only [Finding.compare_eq_iff]
    rw [hfinal]
    exact Finding.sort_agree (added calls) f.place

end Report

end StateLint
