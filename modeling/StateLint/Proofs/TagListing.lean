import StateLint.Proofs.ByteOrder
import StateLint.Proofs.FewerRules
import StateLint.Proofs.KeyEntries
import StateLint.Proofs.RegistryBuild

/-! # The listing of the tags

The listing is made from the tags that rules were given, and to pick rules by a tag is to look at
the names that they go by. Both agree on which rules have a tag. They do not agree on how often: a
name is a name however often it is given, but an id is listed once for each time that its rule has
the tag. -/
namespace StateLint.Registry

variable {r : Registry} {rule : Rule} {tag id : String}

/-- The ids that the listing shows for a tag, none if it does not show the tag. -/
def listedUnder (r : Registry) (tag : String) : List String := (r.tags.lookup tag).getD []

theorem lookup_map_listed (keys : List String) (ids : String → List String) (tag : String) :
    (keys.map fun key => (key, ids key)).lookup tag =
      if tag ∈ keys then some (ids tag) else none := by
  induction keys with
  | nil => rfl
  | cons key keys ih =>
    by_cases h : tag = key
    · subst h
      simp
    · simp [List.lookup_cons, beq_eq_false_iff_ne.mpr h, ih, h]

theorem idsTagged_eq (r : Registry) (tag : String) :
    r.idsTagged tag = r.rules.flatMap fun rule => List.replicate (rule.tags.count tag) rule.id := by
  unfold idsTagged
  congr 1
  funext rule
  rw [List.count_eq_length_filter]
  simp only [List.map_const', beq_eq_decide]

theorem listedUnder_eq (r : Registry) (tag : String) :
    r.listedUnder tag =
      r.rules.flatMap fun rule => List.replicate (rule.tags.count tag) rule.id := by
  rw [← idsTagged_eq, listedUnder, tags, lookup_map_listed]
  split
  · rfl
  · next h =>
    -- A tag that is not shown is no rule's, so nothing would stand beside it.
    rw [Keys.mem_ofList, List.mem_flatMap] at h
    symm
    rw [idsTagged_eq, Option.getD_none, List.flatMap_eq_nil_iff]
    intro rule hr
    rw [List.count_eq_zero_of_not_mem fun ht => h ⟨rule, hr, ht⟩, List.replicate_zero]

theorem mem_listedUnder :
    id ∈ r.listedUnder tag ↔ ∃ rule ∈ r.rules, rule.id = id ∧ tag ∈ rule.tags := by
  simp only [listedUnder_eq, List.mem_flatMap, List.mem_replicate, ne_eq, List.count_eq_zero,
    not_not]
  constructor
  · rintro ⟨rule, hr, ht, rfl⟩
    exact ⟨rule, hr, rfl, ht⟩
  · rintro ⟨rule, hr, rfl, ht⟩
    exact ⟨rule, hr, ht, rfl⟩

theorem tags_ascending (r : Registry) :
    (r.tags.map Prod.fst).Pairwise fun a b => Text.bytes a < Text.bytes b := by
  have hk : r.tags.map Prod.fst = Keys.ofList (r.rules.flatMap (·.tags)) := by
    rw [tags, List.map_map]
    exact List.map_id _
  rw [hk]
  exact (Keys.ofList_ascending _).imp Text.bytes_lt_bytes_iff.mpr

/-- An id stands for one rule, so what is listed under a tag are the rules that have it. -/
theorem id_mem_listedUnder_iff (hn : r.ids.Nodup) (hr : rule ∈ r.rules) :
    rule.id ∈ r.listedUnder tag ↔ tag ∈ rule.tags := by
  rw [mem_listedUnder]
  constructor
  · rintro ⟨other, ho, hid, ht⟩
    rwa [← List.inj_on_of_nodup_map hn ho hr hid]
  · intro ht
    exact ⟨rule, hr, rfl, ht⟩

theorem hasKeyIn_singleton_iff (hn : r.ids.Nodup) (hr : rule ∈ r.rules) :
    hasKeyIn rule [tag] = true ↔ rule.id ∈ r.listedUnder tag ∨ rule.id = tag := by
  rw [hasKeyIn_iff, id_mem_listedUnder_iff hn hr]
  constructor
  · rintro ⟨name, hn, ht⟩
    obtain rfl := List.mem_singleton.mp ht
    rcases List.mem_cons.mp hn with hid | htag
    · exact .inr hid.symm
    · exact .inl htag
  · rintro (htag | rfl)
    · exact ⟨tag, List.mem_cons_of_mem rule.id htag, List.mem_singleton_self tag⟩
    · exact ⟨rule.id, List.mem_cons_self, List.mem_singleton_self rule.id⟩

/-- The listing shows tags in ascending order, each with the ids of the rules that have it. To pick
rules by a tag keeps the findings of the rules that are listed under it, or have it for their id. -/
theorem run_of_tag_eq_listed (hr : Reachable r) (fs : FileSystem) (file : StateFile)
    (tag : String) :
    ((r.tags.map Prod.fst).Pairwise fun a b => Text.bytes a < Text.bytes b) ∧
    (∀ id, id ∈ r.listedUnder tag ↔ ∃ rule ∈ r.rules, rule.id = id ∧ tag ∈ rule.tags) ∧
    r.run fs file [tag] [] =
      (r.run fs file [] []).filter fun f => f.rule.id ∈ r.listedUnder tag ∨ f.rule.id = tag := by
  refine ⟨tags_ascending r, fun id => mem_listedUnder, ?_⟩
  have hrun : r.run fs file [tag] [] =
      (r.run fs file [] []).filter fun f => hasKeyIn f.rule [tag] := by
    refine run_of_filter (p := fun rule => hasKeyIn rule [tag]) ?_
    rw [List.filter_filter]
    exact List.filter_congr fun rule _ => runs_of_tags (by simp)
  rw [hrun]
  apply List.filter_congr
  intro f hf
  obtain ⟨_, _, rule, hm, _, hf⟩ := mem_run.mp hf
  obtain ⟨-, rfl⟩ := Rule.mem_findings hf
  rw [Bool.eq_iff_iff, decide_eq_true_eq, hasKeyIn_singleton_iff (reachable_ids_nodup hr) hm]

/-- One rule that fires has the id 203, the next one has it for a tag, and the third neither. -/
theorem run_of_tag_eq_listed_asId :
    let byTag := { Builtin.trailingBlanks with id := "901", tags := ["203"] }
    let r := ((empty .default).extend [Builtin.tabs, byTag, Builtin.trailingBlanks]).2
    Reachable r ∧ r.listedUnder "203" = ["901"] ∧
      r.run Lint.webFiles ⟨⟨"web/init.sls"⟩, .state⟩ ["203"] [] =
        ((r.run Lint.webFiles ⟨⟨"web/init.sls"⟩, .state⟩ [] []).filter fun f =>
          f.rule.id ∈ r.listedUnder "203" ∨ f.rule.id = "203") ∧
      (r.run Lint.webFiles ⟨⟨"web/init.sls"⟩, .state⟩ ["203"] []).map (·.rule.id) = ["203", "901"] ∧
      (r.run Lint.webFiles ⟨⟨"web/init.sls"⟩, .state⟩ [] []).map (·.rule.id) =
        ["203", "901", "201"] := by
  intro byTag r
  have hr : Reachable r := ⟨.default, .single (.extend _ _)⟩
  obtain ⟨-, -, hrun⟩ := run_of_tag_eq_listed hr Lint.webFiles ⟨⟨"web/init.sls"⟩, .state⟩ "203"
  exact ⟨hr, by decide +kernel, hrun, by decide +kernel, by decide +kernel⟩

/-- Rules stand in a registry in the order of the places of their ids. -/
theorem rules_idxOf_ascending (hn : r.ids.Nodup) :
    r.rules.Pairwise fun a b => r.ids.idxOf a.id < r.ids.idxOf b.id := by
  have hplace : ∀ i (h : i < r.rules.length), r.ids.idxOf r.rules[i].id = i := by
    intro i h
    simpa [ids] using hn.idxOf_getElem i (by simpa [ids] using h)
  rw [List.pairwise_iff_getElem]
  intro i j hi hj hij
  rwa [hplace i hi, hplace j hj]

theorem listedUnder_in_order (hn : r.ids.Nodup) (tag : String) :
    (r.listedUnder tag).Pairwise fun a b => r.ids.idxOf a ≤ r.ids.idxOf b := by
  rw [listedUnder_eq, List.pairwise_flatMap]
  constructor
  · intro rule _
    exact List.pairwise_replicate.mpr (.inr le_rfl)
  · refine (rules_idxOf_ascending hn).imp ?_
    intro a b hab x hx y hy
    rw [List.eq_of_mem_replicate hx, List.eq_of_mem_replicate hy]
    exact hab.le

theorem count_listedUnder (hn : r.ids.Nodup) (hr : rule ∈ r.rules) (tag : String) :
    (r.listedUnder tag).count rule.id = rule.tags.count tag := by
  obtain ⟨before, after, hs⟩ := List.append_of_mem hr
  have hp : r.rules.Perm (rule :: (before ++ after)) := hs ▸ List.perm_middle
  have hother : rule.id ∉ (before ++ after).map Rule.id :=
    (List.nodup_cons.mp ((hp.map Rule.id).nodup_iff.mp hn)).1
  have hnone : rule.id ∉ (before ++ after).flatMap fun rule =>
      List.replicate (rule.tags.count tag) rule.id := by
    intro hm
    obtain ⟨other, ho, hid⟩ := List.mem_flatMap.mp hm
    rw [List.eq_of_mem_replicate hid] at hother
    exact hother (List.mem_map_of_mem ho)
  rw [listedUnder_eq, (hp.flatMap_right _).count_eq, List.flatMap_cons, List.count_append,
    List.count_replicate_self, List.count_eq_zero_of_not_mem hnone, Nat.add_zero]

/-- Ids are listed in the order of registration, each as often as its rule has the tag. So the ids
under a tag are distinct if and only if no rule was given the tag twice. -/
theorem listedUnder_nodup_iff (hr : Reachable r) (tag : String) :
    (∀ rule ∈ r.rules, (r.listedUnder tag).count rule.id = rule.tags.count tag) ∧
    ((r.listedUnder tag).Pairwise fun a b => r.ids.idxOf a ≤ r.ids.idxOf b) ∧
    ((r.listedUnder tag).Nodup ↔ ∀ rule ∈ r.rules, rule.tags.count tag ≤ 1) := by
  have hn := reachable_ids_nodup hr
  refine ⟨fun rule hm => count_listedUnder hn hm tag, listedUnder_in_order hn tag, ?_⟩
  rw [List.nodup_iff_count_le_one]
  constructor
  · intro h rule hm
    rw [← count_listedUnder hn hm tag]
    exact h rule.id
  · intro h id
    by_cases hl : id ∈ r.listedUnder tag
    · obtain ⟨rule, hm, rfl, -⟩ := mem_listedUnder.mp hl
      rw [count_listedUnder hn hm tag]
      exact h rule hm
    · rw [List.count_eq_zero_of_not_mem hl]
      exact Nat.zero_le 1

/-- Of two rules with the tag `formatting`, one has another tag twice. -/
theorem listedUnder_nodup_iff_blanks :
    let twice := { Builtin.trailingBlanks with tags := ["blanks", "formatting", "blanks"] }
    let r := ((empty .default).extend [twice, Builtin.tabs]).2
    Reachable r ∧ r.listedUnder "formatting" = ["201", "203"] ∧ (r.listedUnder "formatting").Nodup ∧
      r.listedUnder "blanks" = ["201", "201"] ∧ ¬ (r.listedUnder "blanks").Nodup := by
  intro twice r
  have hr : Reachable r := ⟨.default, .single (.extend _ _)⟩
  obtain ⟨-, -, hformatting⟩ := listedUnder_nodup_iff hr "formatting"
  obtain ⟨-, -, hblanks⟩ := listedUnder_nodup_iff hr "blanks"
  refine ⟨hr, by decide +kernel, hformatting.mpr (by decide), by decide +kernel, ?_⟩
  exact fun h => absurd (hblanks.mp h) (by decide)

/-- A directory with one rule, which is given a tag twice. -/
def repeatedTag : FileSystem :=
  { ownTabs with
    read := fun p =>
      if p.text = "rules/tabs.toml" then
        .ok ("[[rule]]\nid = \"901\"\nshortdesc = \"Tab\"\n" ++
          "tags = [\"tabs\", \"tabs\"]\npattern = '\\t'\n")
      else .error .notFound }

/-- Such a rule is accepted, and its id is then listed twice. -/
theorem repeated_tag_lists_id_twice :
    ¬ ∀ (config : Config) (fs : FileSystem) (dir : Path) (added : Nat) (r : Registry)
        (tag : String),
      (empty config).loadDirectory fs dir = .ok (added, r) → (r.listedUnder tag).Nodup := by
  intro h
  have hfiles : RuleDirectory.files repeatedTag ⟨"rules"⟩ = [⟨"rules/tabs.toml"⟩] := by
    rw [RuleDirectory.files_of_ascending (by decide)]
    rfl
  have hlisted : (RuleDirectory.loadFiles repeatedTag [] [⟨"rules/tabs.toml"⟩]).toOption.map
      (fun rules => ((empty .default).extend rules).2.listedUnder "tabs") =
        some ["901", "901"] := by
    decide +kernel
  cases hload : RuleDirectory.loadFiles repeatedTag [] [⟨"rules/tabs.toml"⟩] with
  | error e =>
    rw [hload] at hlisted
    cases hlisted
  | ok rules =>
    have hdir : RuleDirectory.load repeatedTag ⟨"rules"⟩ = .ok rules := by
      rw [RuleDirectory.load, if_pos (by decide), hfiles, hload]
    have hn := h .default repeatedTag ⟨"rules"⟩ _ _ "tabs" (loadDirectory_of_ok hdir)
    rw [hload] at hlisted
    have hids : ((empty .default).extend rules).2.listedUnder "tabs" = ["901", "901"] :=
      Option.some.inj hlisted
    rw [hids] at hn
    exact absurd hn (by decide)

end StateLint.Registry
