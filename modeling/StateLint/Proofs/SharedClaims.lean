import Mathlib.Data.Finset.Card
import Mathlib.Data.List.GetD
import Mathlib.Data.List.Induction
import StateLint.CheckedFiles
import StateLint.Proofs.FileKeys

/-! # Claims through shared handles

Handles are opened, shared, and used to claim files. The handles that come from one another by
sharing are a family. What a handle answers is said here by the calls made before, without the sets
that the handles stand for: a file can be claimed through a handle if and only if no handle of its
family claimed it before. Between two calls the files may change. -/
namespace StateLint

namespace CheckedFiles

variable {fs : FileSystem} {p : Path}

theorem contains_iff (c : CheckedFiles) : c.contains fs p = true ↔ fs.key p ∈ c.keys := by
  simp [contains]

theorem claim_eq (c : CheckedFiles) :
    c.claim fs p = if fs.key p ∈ c.keys then (false, c) else (true, ⟨c.keys ++ [fs.key p]⟩) := by
  simp [claim, contains_iff]

theorem claim_fst_iff (c : CheckedFiles) : (c.claim fs p).1 = true ↔ fs.key p ∉ c.keys := by
  rw [claim_eq]
  split
  · next h => simp [h]
  · next h => simp [h]

theorem mem_claim_keys (c : CheckedFiles) {k : List Path.Component} :
    k ∈ (c.claim fs p).2.keys ↔ k ∈ c.keys ∨ k = fs.key p := by
  rw [claim_eq]
  split
  · next h =>
    constructor
    · exact Or.inl
    · rintro (hk | rfl)
      · exact hk
      · exact h
  · simp

theorem claim_keys_nodup {c : CheckedFiles} (h : c.keys.Nodup) : (c.claim fs p).2.keys.Nodup := by
  rw [claim_eq]
  split
  · exact h
  · next hk => simpa using h.concat hk

theorem prefix_claim_keys (c : CheckedFiles) : c.keys <+: (c.claim fs p).2.keys := by
  rw [claim_eq]
  split
  · exact List.prefix_rfl
  · exact List.prefix_append _ _

theorem claim_size (c : CheckedFiles) :
    (c.claim fs p).2.size = c.size + (c.claim fs p).1.toNat := by
  rw [claim_eq]
  split
  · rfl
  · simp [size]

end CheckedFiles

namespace CheckedHandles

inductive Call where
  | fresh
  | share (handle : Nat)
  | claim (handle : Nat) (path : Path)
  | contains (handle : Nat) (path : Path)
  deriving DecidableEq, Repr

inductive Answer where
  | opened (handle : Nat)
  | told (yes : Bool)
  deriving DecidableEq, Repr

/-- The answer to a call, and the handles after it. -/
def perform (c : CheckedHandles) (fs : FileSystem) : Call → Answer × CheckedHandles
  | .fresh => (.opened c.fresh.1, c.fresh.2)
  | .share h => (.opened (c.share h).1, (c.share h).2)
  | .claim h p => (.told (c.claim fs h p).1, (c.claim fs h p).2)
  | .contains h p => (.told (c.contains fs h p), c)

/-- A call, and the files as they are when it is made. -/
structure Event where
  fs : FileSystem
  call : Call

/-- The handles after some calls. -/
def after (events : List Event) : CheckedHandles :=
  events.foldl (fun c e => (c.perform e.fs e.call).2) empty

/-- The handle that a call is made on. -/
def Call.handle? : Call → Option Nat
  | fresh => none
  | share h => some h
  | claim h _ => some h
  | contains h _ => some h

/-- A new handle is the first of its family, a shared one joins the family of the other. -/
def Call.enroll (families : List Nat) : Call → List Nat
  | fresh => families ++ [families.length]
  | share h => families ++ [families.getD h 0]
  | _ => families

/-- For each handle, the first handle of its family. -/
def families (events : List Event) : List Nat :=
  events.foldl (fun families e => e.call.enroll families) []

/-- Two handles come from one another by sharing. -/
def Related (events : List Event) (g h : Nat) : Prop := (families events)[g]? = (families events)[h]?

instance (events : List Event) (g h : Nat) : Decidable (Related events g h) :=
  inferInstanceAs (Decidable (_ = _))

/-- Calls are made on handles that were opened before. -/
def Proper (events : List Event) : Prop :=
  ∀ e ∈ events.zipIdx, ∀ h ∈ e.1.call.handle?, h < (families (events.take e.2)).length

instance (events : List Event) : Decidable (Proper events) :=
  inferInstanceAs (Decidable (∀ e ∈ events.zipIdx, ∀ h ∈ e.1.call.handle?, _))

/-- The places that were claimed through some of the handles, in order. -/
def claimsThrough (isMember : Nat → Bool) (events : List Event) : List (List String) :=
  events.filterMap fun e =>
    match e.call with
    | .claim g p => if isMember g then some (e.fs.place p) else none
    | _ => none

/-- The places that were claimed through the handles of a family. -/
def claims (events : List Event) (h : Nat) : List (List String) :=
  claimsThrough (fun g => Related events g h) events

variable {events : List Event} {e : Event} {g h : Nat}

theorem after_concat (events : List Event) (e : Event) :
    after (events ++ [e]) = ((after events).perform e.fs e.call).2 := by
  simp [after]

theorem families_concat (events : List Event) (e : Event) :
    families (events ++ [e]) = e.call.enroll (families events) := by
  simp [families]

theorem proper_concat :
    Proper (events ++ [e]) ↔ Proper events ∧ ∀ h ∈ e.call.handle?, h < (families events).length := by
  have hold : ∀ x ∈ events.zipIdx, (events ++ [e]).take x.2 = events.take x.2 := by
    intro x hx
    have := List.snd_lt_of_mem_zipIdx hx
    exact List.take_append_of_le_length (by omega)
  unfold Proper
  rw [List.zipIdx_append]
  simp only [List.mem_append, or_imp, forall_and]
  constructor
  · rintro ⟨ho, hn⟩
    refine ⟨fun x hx => hold x hx ▸ ho x hx, ?_⟩
    simpa using hn
  · rintro ⟨ho, hn⟩
    refine ⟨fun x hx => (hold x hx).symm ▸ ho x hx, ?_⟩
    simpa using hn

theorem prefix_enroll (families : List Nat) (call : Call) : families <+: call.enroll families := by
  cases call with
  | fresh => exact List.prefix_append _ _
  | share h => exact List.prefix_append _ _
  | claim h p => exact List.prefix_rfl
  | contains h p => exact List.prefix_rfl

theorem length_families_le (events : List Event) (e : Event) :
    (families events).length ≤ (families (events ++ [e])).length := by
  rw [families_concat]
  exact (prefix_enroll _ _).length_le

theorem families_concat_of_lt (hh : h < (families events).length) :
    (families (events ++ [e]))[h]? = (families events)[h]? := by
  obtain ⟨more, hm⟩ := prefix_enroll (families events) e.call
  rw [families_concat, ← hm, List.getElem?_append_left hh]

/-- A family is named after one of its handles. -/
theorem lt_of_mem_families {f : Nat} (hf : f ∈ families events) : f < (families events).length := by
  induction events using List.reverseRecOn with
  | nil => cases hf
  | append_singleton events e ih =>
    have hlen := length_families_le events e
    rw [families_concat] at hf hlen ⊢
    cases hc : e.call with
    | fresh =>
      simp only [hc, Call.enroll, List.mem_append, List.mem_singleton, List.length_append,
        List.length_singleton] at hf ⊢
      rcases hf with hf | rfl
      · have := ih hf
        omega
      · omega
    | share h =>
      simp only [hc, Call.enroll, List.mem_append, List.mem_singleton, List.length_append,
        List.length_singleton] at hf ⊢
      rcases hf with hf | rfl
      · have := ih hf
        omega
      · by_cases hh : h < (families events).length
        · rw [List.getD_eq_getElem _ _ hh] at ih ⊢
          have := ih (List.getElem_mem hh)
          omega
        · rw [List.getD_eq_default _ _ (by omega)]
          omega
    | claim h p =>
      simp only [hc, Call.enroll] at hf ⊢
      exact ih hf
    | contains h p =>
      simp only [hc, Call.enroll] at hf ⊢
      exact ih hf

/-- Families do not change. -/
theorem related_concat (hg : g < (families events).length) (hh : h < (families events).length) :
    Related (events ++ [e]) g h ↔ Related events g h := by
  rw [Related, families_concat_of_lt hg, families_concat_of_lt hh, Related]

theorem handle_lt (hp : Proper events) {x : Event} (hx : x ∈ events) (hg : g ∈ x.call.handle?) :
    g < (families events).length := by
  induction events using List.reverseRecOn with
  | nil => cases hx
  | append_singleton events e ih =>
    obtain ⟨ho, hn⟩ := proper_concat.mp hp
    have hlen := length_families_le events e
    rcases List.mem_append.mp hx with hx | hx
    · exact Nat.lt_of_lt_of_le (ih ho hx) hlen
    · rw [List.mem_singleton.mp hx] at hg
      exact Nat.lt_of_lt_of_le (hn g hg) hlen

theorem claimsThrough_congr {P Q : Nat → Bool}
    (hpq : ∀ x ∈ events, ∀ g ∈ x.call.handle?, P g = Q g) :
    claimsThrough P events = claimsThrough Q events := by
  apply List.filterMap_congr
  intro x hx
  cases hc : x.call with
  | claim g p => simp only [hpq x hx g (by simp [hc, Call.handle?])]
  | fresh => rfl
  | share h => rfl
  | contains h p => rfl

theorem claimsThrough_append (P : Nat → Bool) (a b : List Event) :
    claimsThrough P (a ++ b) = claimsThrough P a ++ claimsThrough P b :=
  List.filterMap_append

theorem claimsThrough_of_claim (P : Nat → Bool) {p : Path} (he : e.call = .claim g p) :
    claimsThrough P [e] = if P g then [e.fs.place p] else [] := by
  by_cases hP : P g
  · simp [claimsThrough, he, hP]
  · simp [claimsThrough, he, hP]

theorem claimsThrough_of_not_claim (P : Nat → Bool) (he : ∀ g p, e.call ≠ .claim g p) :
    claimsThrough P [e] = [] := by
  unfold claimsThrough
  cases hc : e.call with
  | claim g p => exact (he g p hc).elim
  | fresh => simp [hc]
  | share h => simp [hc]
  | contains h p => simp [hc]

theorem claimsThrough_none (events : List Event) : claimsThrough (fun _ => false) events = [] := by
  rw [claimsThrough, List.filterMap_eq_nil_iff]
  intro x _
  cases x.call <;> rfl

theorem claims_concat (hp : Proper events) (hh : h < (families events).length) :
    claims (events ++ [e]) h =
      claims events h ++ claimsThrough (fun g => Related (events ++ [e]) g h) [e] := by
  have hc : claimsThrough (fun g => Related (events ++ [e]) g h) events = claims events h := by
    apply claimsThrough_congr
    intro x hx g hg
    rw [decide_eq_decide]
    exact related_concat (handle_lt hp hx hg) hh
  rw [claims, claimsThrough_append, hc]

section Get

variable {c : CheckedHandles} {i : Nat}

theorem get_of_getElem? (hi : c.handles[h]? = some i) : c.get h = (c.sets[i]?).getD .empty := by
  simp [get, hi]

theorem get_fresh_of_lt (hw : ∀ i ∈ c.handles, i < c.sets.length) (hh : h < c.handles.length) :
    c.fresh.2.get h = c.get h := by
  have hi : c.handles[h]? = some c.handles[h] := List.getElem?_eq_getElem hh
  have hi' : c.fresh.2.handles[h]? = some c.handles[h] := by
    rw [← hi]
    exact List.getElem?_append_left hh
  rw [get_of_getElem? hi, get_of_getElem? hi']
  congr 1
  exact List.getElem?_append_left (hw _ (List.getElem_mem hh))

theorem get_fresh_new (c : CheckedHandles) : c.fresh.2.get c.handles.length = .empty := by
  simp [get, fresh]

theorem get_share_of_lt (hh : h < c.handles.length) : (c.share g).2.get h = c.get h := by
  simp [get, share, List.getElem?_append_left hh]

theorem get_share_new (hg : g < c.handles.length) :
    (c.share g).2.get c.handles.length = c.get g := by
  simp [get, share, hg]

theorem claim_snd (hh : h < c.handles.length) (fs : FileSystem) (p : Path) :
    (c.claim fs h p).2 =
      { c with sets := c.sets.set c.handles[h] ((c.get h).claim fs p).2 } := by
  simp only [claim, List.getElem?_eq_getElem hh]

/-- A claim changes the set of the handle, for all handles that share it. -/
theorem get_claim (hw : ∀ i ∈ c.handles, i < c.sets.length) (hh : h < c.handles.length)
    (fs : FileSystem) (p : Path) (g : Nat) :
    (c.claim fs h p).2.get g =
      if c.handles[g]? = c.handles[h]? then ((c.get h).claim fs p).2 else c.get g := by
  have hi : c.handles[h]? = some c.handles[h] := List.getElem?_eq_getElem hh
  rw [claim_snd hh, hi]
  split
  · next hg =>
    have hlt := hw _ (List.getElem_mem hh)
    simp [get, hg, hlt]
  · next hg =>
    unfold get
    cases hj : c.handles[g]? with
    | none => rfl
    | some j =>
      have hne : c.handles[h] ≠ j := fun he => hg (by rw [hj, he])
      simp [List.getElem?_set_ne hne]

end Get

/-- The set behind a handle holds the keys of the places claimed in its family, each once. -/
structure Holds (events : List Event) (c : CheckedHandles) (h : Nat) : Prop where
  nodup : (c.get h).keys.Nodup
  mem : ∀ k, k ∈ (c.get h).keys ↔ k ∈ (claims events h).map FileSystem.placeKey

theorem Holds.congr {c d : CheckedHandles} {more : List Event} (hh : Holds events c h)
    (hget : d.get g = c.get h) (hclaims : claims more g = claims events h) : Holds more d g := by
  constructor
  · rw [hget]
    exact hh.nodup
  · rw [hget, hclaims]
    exact hh.mem

/-- What is true of the handles after some calls. -/
structure Consistent (events : List Event) (c : CheckedHandles) : Prop where
  opened : c.handles.length = (families events).length
  within : ∀ i ∈ c.handles, i < c.sets.length
  related : ∀ g < c.handles.length, ∀ h < c.handles.length,
    (c.handles[g]? = c.handles[h]? ↔ Related events g h)
  holds : ∀ h < c.handles.length, Holds events c h

namespace Consistent

variable {c : CheckedHandles} {p : Path}

theorem fresh (hc : Consistent events c) (hp : Proper events) (he : e.call = .fresh) :
    Consistent (events ++ [e]) c.fresh.2 := by
  have hfam : families (events ++ [e]) = families events ++ [(families events).length] := by
    rw [families_concat, he]
    rfl
  have hlen : c.fresh.2.handles.length = c.handles.length + 1 := by simp [CheckedHandles.fresh]
  have hold : ∀ g < c.handles.length, c.fresh.2.handles[g]? = c.handles[g]? :=
    fun g hg => List.getElem?_append_left hg
  -- The new handle shares neither its set nor its family with a handle from before.
  have hset : ∀ g < c.handles.length,
      c.fresh.2.handles[g]? ≠ c.fresh.2.handles[c.handles.length]? := by
    intro g hg hs
    have hnew : c.fresh.2.handles[c.handles.length]? = some c.sets.length :=
      List.getElem?_concat_length
    rw [hold g hg, hnew] at hs
    exact Nat.lt_irrefl _ (hc.within _ (List.mem_of_getElem? hs))
  have hkin : ∀ g < c.handles.length, ¬ Related (events ++ [e]) g c.handles.length := by
    intro g hg hr
    rw [Related, families_concat_of_lt (hc.opened ▸ hg), hfam, hc.opened,
      List.getElem?_concat_length] at hr
    exact Nat.lt_irrefl _ (lt_of_mem_families (List.mem_of_getElem? hr))
  have hlast : ∀ P, claimsThrough P [e] = [] :=
    fun P => claimsThrough_of_not_claim P (by simp [he])
  have hnone : claims (events ++ [e]) c.handles.length = [] := by
    rw [claims, claimsThrough_append, hlast, List.append_nil, ← claimsThrough_none events]
    apply claimsThrough_congr
    intro x hx g hg
    exact decide_eq_false (hkin g (hc.opened ▸ handle_lt hp hx hg))
  constructor
  · rw [hlen, hfam, hc.opened]
    simp
  · intro i hi
    have hsets : c.fresh.2.sets.length = c.sets.length + 1 := by simp [CheckedHandles.fresh]
    rw [hsets]
    rcases List.mem_append.mp hi with hi | hi
    · exact Nat.lt_succ_of_lt (hc.within i hi)
    · rw [List.mem_singleton.mp hi]
      exact Nat.lt_succ_self _
  · intro g hg h hh
    rw [hlen] at hg hh
    rcases Nat.lt_succ_iff_lt_or_eq.mp hg with hg | rfl
    · rcases Nat.lt_succ_iff_lt_or_eq.mp hh with hh | rfl
      · rw [hold g hg, hold h hh, hc.related g hg h hh,
          related_concat (hc.opened ▸ hg) (hc.opened ▸ hh)]
      · simp only [hset g hg, hkin g hg]
    · rcases Nat.lt_succ_iff_lt_or_eq.mp hh with hh | rfl
      · constructor
        · exact fun hs => (hset h hh hs.symm).elim
        · exact fun hr => (hkin h hh hr.symm).elim
      · exact iff_of_true rfl rfl
  · intro h hh
    rw [hlen] at hh
    rcases Nat.lt_succ_iff_lt_or_eq.mp hh with hh | rfl
    · refine (hc.holds h hh).congr (get_fresh_of_lt hc.within hh) ?_
      rw [claims_concat hp (hc.opened ▸ hh), hlast, List.append_nil]
    · constructor
      · rw [get_fresh_new]
        exact List.nodup_nil
      · rw [get_fresh_new, hnone]
        simp [CheckedFiles.empty]

theorem share (hc : Consistent events c) (hp : Proper events) (he : e.call = .share g)
    (hg : g < c.handles.length) : Consistent (events ++ [e]) (c.share g).2 := by
  have hfam : families (events ++ [e]) = families events ++ [(families events).getD g 0] := by
    rw [families_concat, he]
    rfl
  have hlen : (c.share g).2.handles.length = c.handles.length + 1 := by
    simp [CheckedHandles.share]
  have hlast : ∀ P, claimsThrough P [e] = [] :=
    fun P => claimsThrough_of_not_claim P (by simp [he])
  -- Each handle now stands for one from before, with its set and its family.
  have hold : ∀ h < c.handles.length + 1, ∃ f < c.handles.length,
      (c.share g).2.handles[h]? = c.handles[f]? ∧
        (families (events ++ [e]))[h]? = (families events)[f]? ∧
        (c.share g).2.get h = c.get f := by
    intro h hh
    rcases Nat.lt_succ_iff_lt_or_eq.mp hh with hh | rfl
    · exact ⟨h, hh, List.getElem?_append_left hh, families_concat_of_lt (hc.opened ▸ hh),
        get_share_of_lt hh⟩
    · refine ⟨g, hg, ?_, ?_, get_share_new hg⟩
      · simp [CheckedHandles.share, hg]
      · rw [hc.opened] at hg ⊢
        simp [hfam, hg]
  constructor
  · rw [hlen, hfam, hc.opened]
    simp
  · intro i hi
    rcases List.mem_append.mp hi with hi | hi
    · exact hc.within i hi
    · rw [List.mem_singleton.mp hi, List.getD_eq_getElem _ _ hg]
      exact hc.within _ (List.getElem_mem hg)
  · intro a ha b hb
    rw [hlen] at ha hb
    obtain ⟨a', ha', hseta, hfama, -⟩ := hold a ha
    obtain ⟨b', hb', hsetb, hfamb, -⟩ := hold b hb
    rw [Related, hseta, hsetb, hfama, hfamb]
    exact hc.related a' ha' b' hb'
  · intro h hh
    rw [hlen] at hh
    obtain ⟨f, hf, -, hfamh, hget⟩ := hold h hh
    refine (hc.holds f hf).congr hget ?_
    rw [claims, claimsThrough_append, hlast, List.append_nil]
    apply claimsThrough_congr
    intro x hx k hk
    rw [decide_eq_decide, Related, families_concat_of_lt (handle_lt hp hx hk), hfamh]
    rfl

theorem claim (hc : Consistent events c) (hp : Proper events) (hr : e.fs.Rooted)
    (he : e.call = .claim g p) (hg : g < c.handles.length) :
    Consistent (events ++ [e]) (c.claim e.fs g p).2 := by
  have hfam : families (events ++ [e]) = families events := by
    rw [families_concat, he]
    rfl
  have hkin : ∀ a b, Related (events ++ [e]) a b ↔ Related events a b := by
    intro a b
    rw [Related, hfam]
    rfl
  have hset := claim_snd hg e.fs p
  have hhandles : (c.claim e.fs g p).2.handles = c.handles := by rw [hset]
  constructor
  · rw [hhandles, hfam, hc.opened]
  · rw [hset]
    simpa using hc.within
  · intro a ha b hb
    rw [hhandles] at ha hb ⊢
    rw [hkin, hc.related a ha b hb]
  · intro h hh
    rw [hhandles] at hh
    have hnew : claims (events ++ [e]) h =
        claims events h ++ if Related events g h then [e.fs.place p] else [] := by
      rw [claims_concat hp (hc.opened ▸ hh), claimsThrough_of_claim _ he]
      simp only [hkin, decide_eq_true_eq]
    have hrel := hc.related h hh g hg
    have hget := get_claim hc.within hg e.fs p h
    by_cases hgh : Related events g h
    · rw [if_pos (hrel.mpr hgh.symm)] at hget
      have hsame : c.get g = c.get h := by
        rw [CheckedHandles.get, CheckedHandles.get, hrel.mpr hgh.symm]
      constructor
      · rw [hget]
        exact CheckedFiles.claim_keys_nodup (hc.holds g hg).nodup
      · intro k
        rw [hget, CheckedFiles.mem_claim_keys, hsame, (hc.holds h hh).mem, hnew, if_pos hgh,
          FileSystem.key_eq_placeKey hr]
        simp
    · rw [if_neg (fun hs => hgh (hrel.mp hs).symm)] at hget
      refine (hc.holds h hh).congr hget ?_
      rw [hnew, if_neg hgh, List.append_nil]

theorem contains (hc : Consistent events c) (hp : Proper events) (he : e.call = .contains g p) :
    Consistent (events ++ [e]) c := by
  have hfam : families (events ++ [e]) = families events := by
    rw [families_concat, he]
    rfl
  constructor
  · rw [hfam, hc.opened]
  · exact hc.within
  · intro a ha b hb
    rw [Related, hfam]
    exact hc.related a ha b hb
  · intro h hh
    refine (hc.holds h hh).congr rfl ?_
    rw [claims_concat hp (hc.opened ▸ hh), claimsThrough_of_not_claim _ (by simp [he]),
      List.append_nil]

theorem step (hc : Consistent events c) (hp : Proper (events ++ [e])) (hr : e.fs.Rooted) :
    Consistent (events ++ [e]) (c.perform e.fs e.call).2 := by
  obtain ⟨hp, hn⟩ := proper_concat.mp hp
  rw [← hc.opened] at hn
  cases he : e.call with
  | fresh => exact hc.fresh hp he
  | share g => exact hc.share hp he (hn g (by simp [he, Call.handle?]))
  | claim g p => exact hc.claim hp hr he (hn g (by simp [he, Call.handle?]))
  | contains g p => exact hc.contains hp he

end Consistent

theorem consistent_after (hp : Proper events) (hr : ∀ e ∈ events, e.fs.Rooted) :
    Consistent events (after events) := by
  induction events using List.reverseRecOn with
  | nil => exact ⟨rfl, by simp [after, empty], by simp [after, empty], by simp [after, empty]⟩
  | append_singleton events e ih =>
    rw [after_concat]
    refine (ih (proper_concat.mp hp).1 ?_).step hp (hr e (by simp))
    exact fun x hx => hr x (List.mem_append_left _ hx)

theorem Consistent.get_size {c : CheckedHandles} (hc : Consistent events c)
    (hh : h < (families events).length) : (c.get h).size = (claims events h).toFinset.card := by
  have hold := hc.holds h (hc.opened ▸ hh)
  have hf : (c.get h).keys.toFinset = (claims events h).toFinset.image FileSystem.placeKey := by
    ext k
    rw [List.mem_toFinset, hold.mem, Finset.mem_image]
    simp
  rw [CheckedFiles.size, ← List.toFinset_card_of_nodup hold.nodup, hf,
    Finset.card_image_of_injective _ FileSystem.placeKey_injective]

/-- A key is in the set of a handle if a claim for its place was made in the family. -/
theorem Consistent.key_mem_iff {c : CheckedHandles} (hc : Consistent events c)
    (hh : h < c.handles.length) {fs : FileSystem} (hr : fs.Rooted) (p : Path) :
    fs.key p ∈ (c.get h).keys ↔ fs.place p ∈ claims events h := by
  rw [(hc.holds h hh).mem, FileSystem.key_eq_placeKey hr,
    List.mem_map_of_injective FileSystem.placeKey_injective]

/-- What the set behind a handle can become in one call. -/
theorem get_perform {c : CheckedHandles} (hw : ∀ i ∈ c.handles, i < c.sets.length)
    (fs : FileSystem) (call : Call) (hn : ∀ g ∈ call.handle?, g < c.handles.length)
    (hh : h < c.handles.length) :
    (c.perform fs call).2.get h = c.get h ∨
      ∃ g p, call = .claim g p ∧ c.handles[h]? = c.handles[g]? ∧
        (c.perform fs call).2.get h = ((c.get h).claim fs p).2 := by
  cases call with
  | fresh => exact .inl (get_fresh_of_lt hw hh)
  | share g => exact .inl (get_share_of_lt hh)
  | contains g p => exact .inl rfl
  | claim g p =>
    have hg := hn g (by simp [Call.handle?])
    have hget := get_claim hw hg fs p h
    by_cases hs : c.handles[h]? = c.handles[g]?
    · have hsame : c.get h = c.get g := by rw [get, get, hs]
      rw [if_pos hs] at hget
      exact .inr ⟨g, p, rfl, hs, by rw [hsame]; exact hget⟩
    · rw [if_neg hs] at hget
      exact .inl hget

/-- What an answer tells, in terms of the calls made before. -/
def Answer.Tells (done : List Event) (before now : CheckedHandles) (fs : FileSystem) :
    Call → Answer → Prop
  | .fresh, .opened h => h = (families done).length
  | .share _, .opened h => h = (families done).length
  | .claim h p, .told first =>
    (first = true ↔ fs.place p ∉ claims done h) ∧
      (now.get h).size = (before.get h).size + first.toNat
  | .contains h p, .told known => (known = true ↔ fs.place p ∈ claims done h) ∧ now = before
  | _, _ => False

theorem perform_tells {c : CheckedHandles} (hc : Consistent events c) {fs : FileSystem}
    (hr : fs.Rooted) (call : Call) (hn : ∀ g ∈ call.handle?, g < c.handles.length) :
    Answer.Tells events c (c.perform fs call).2 fs call (c.perform fs call).1 := by
  cases call with
  | fresh => exact hc.opened
  | share g => exact hc.opened
  | claim g p =>
    have hg := hn g (by simp [Call.handle?])
    have hget := get_claim hc.within hg fs p g
    rw [if_pos rfl] at hget
    constructor
    · change ((c.get g).claim fs p).1 = true ↔ _
      rw [CheckedFiles.claim_fst_iff, hc.key_mem_iff hg hr]
    · change ((c.claim fs g p).2.get g).size = _
      rw [hget, CheckedFiles.claim_size]
      rfl
  | contains g p =>
    have hg := hn g (by simp [Call.handle?])
    refine ⟨?_, rfl⟩
    change (c.get g).contains fs p = true ↔ _
    rw [CheckedFiles.contains_iff, hc.key_mem_iff hg hr]

/-- A claim succeeds through a handle if no claim for the same file was made in its family before,
whatever was done through other handles; a set grows by one for each claim that succeeds, never
shrinks, and is not touched by other families. Two paths are for the same file if they lead to the
same place, and in a place `..` counts, but no doubled slash and no `.`. -/
theorem claims_shared_in_family (done : List Event) (next : Event)
    (hp : Proper (done ++ [next])) (hr : ∀ e ∈ done ++ [next], e.fs.Rooted) :
    let before := after done
    let now := after (done ++ [next])
    Answer.Tells done before now next.fs next.call (before.perform next.fs next.call).1 ∧
      (∀ h < (families (done ++ [next])).length,
        (now.get h).size = (claims (done ++ [next]) h).toFinset.card) ∧
      (∀ h < (families done).length, (before.get h).keys <+: (now.get h).keys) ∧
      (∀ h < (families done).length, (∀ g ∈ next.call.handle?, ¬ Related done g h) →
        now.get h = before.get h) ∧
      (∀ p q, next.fs.key p = next.fs.key q ↔ next.fs.place p = next.fs.place q) ∧
      ∀ a b, Path.names ⟨a ++ "//" ++ b⟩ = Path.names ⟨a ++ "/" ++ b⟩ ∧
        Path.names ⟨a ++ "/./" ++ b⟩ = Path.names ⟨a ++ "/" ++ b⟩ ∧
        Path.names ⟨a ++ "/../" ++ b⟩ ≠ Path.names ⟨a ++ "/" ++ b⟩ := by
  intro before now
  obtain ⟨hpd, hn⟩ := proper_concat.mp hp
  have hc : Consistent done before :=
    consistent_after hpd fun e he => hr e (List.mem_append_left _ he)
  have hnext : next.fs.Rooted := hr next (by simp)
  have hnow : now = (before.perform next.fs next.call).2 := after_concat done next
  rw [← hc.opened] at hn
  refine ⟨?_, ?_, ?_, ?_, ?_, Path.names_spellings⟩
  · rw [hnow]
    exact perform_tells hc hnext next.call hn
  · exact fun h hh => (consistent_after hp hr).get_size hh
  · intro h hh
    rw [hnow]
    rcases get_perform hc.within next.fs next.call hn (hc.opened ▸ hh) with hg | ⟨g, p, -, -, hg⟩
    · rw [hg]
    · rw [hg]
      exact CheckedFiles.prefix_claim_keys _
  · intro h hh hother
    rw [hnow]
    rcases get_perform hc.within next.fs next.call hn (hc.opened ▸ hh) with hg | ⟨g, p, he, hs, -⟩
    · exact hg
    · have hg : g ∈ next.call.handle? := by simp [he, Call.handle?]
      exact (hother g hg ((hc.related h (hc.opened ▸ hh) g (hn g hg)).mp hs).symm).elim
  · intro p q
    rw [FileSystem.key_eq_placeKey hnext, FileSystem.key_eq_placeKey hnext,
      FileSystem.placeKey_injective.eq_iff]

/-- A file and a link to it. -/
def linkedFiles : FileSystem where
  workingDir := ⟨"/srv"⟩
  canonical? p := if p.text ∈ ["a.sls", "link.sls"] then some ⟨"/srv/a.sls"⟩ else none
  isDir _ := false
  isFile p := p.text ∈ ["a.sls", "link.sls"]
  read p := if p.text ∈ ["a.sls", "link.sls"] then .ok "a:\n" else .error .notFound
  names _ := []

theorem linkedFiles_rooted : linkedFiles.Rooted := by
  refine ⟨by decide, ?_⟩
  intro p real h
  simp only [linkedFiles] at h
  split at h
  · cases h
    decide
  · cases h

/-- Two families, and claims in both of them. -/
def linkedCalls : List Call :=
  [.fresh, .share 0, .fresh, .claim 0 ⟨"a.sls"⟩, .claim 2 ⟨"b//./c"⟩, .contains 1 ⟨"b/c"⟩]

theorem claims_shared_in_family_linked :
    let done := linkedCalls.map (Event.mk linkedFiles)
    let next : Event := ⟨linkedFiles, .claim 1 ⟨"link.sls"⟩⟩
    Proper (done ++ [next]) ∧ (∀ e ∈ done ++ [next], e.fs.Rooted) ∧
      ((after done).claim linkedFiles 1 ⟨"link.sls"⟩).1 = false ∧
      ((after (done ++ [next])).get 0).size = 1 := by
  intro done next
  have hr : ∀ e ∈ done ++ [next], e.fs.Rooted := by
    intro e he
    rcases List.mem_append.mp he with he | he
    · obtain ⟨call, -, rfl⟩ := List.mem_map.mp he
      exact linkedFiles_rooted
    · rw [List.mem_singleton.mp he]
      exact linkedFiles_rooted
  have hp : Proper (done ++ [next]) := by decide +kernel
  obtain ⟨⟨hfirst, -⟩, hsize, -⟩ := claims_shared_in_family done next hp hr
  refine ⟨hp, hr, ?_, ?_⟩
  · rw [Bool.eq_false_iff]
    intro ht
    exact hfirst.mp ht (by decide +kernel)
  · rw [hsize 0 (by decide +kernel)]
    decide +kernel

end CheckedHandles

end StateLint
