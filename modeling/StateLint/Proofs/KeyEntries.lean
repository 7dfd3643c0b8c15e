import Mathlib.Data.List.Sort
import Mathlib.Data.String.Basic
import Mathlib.Logic.Relation
import StateLint.Proofs.RuleSelection
import StateLint.Proofs.TextPieces

/-! # How ids and tags are written does not matter

Ids and tags are given on the command line and in the file, several in one text or each by itself.
What counts is which names stand between the commas. The texts may therefore be joined and divided
at commas, moved from one source to the other, repeated and put in another order, and the keys of a
configuration can be given back as they are. -/
namespace StateLint

namespace Keys

theorem insert_ascending {keys : List String} (h : keys.Pairwise (· < ·)) (key : String) :
    (insert key keys).Pairwise (· < ·) := by
  induction keys with
  | nil => simp [insert]
  | cons k keys ih =>
    obtain ⟨hk, hkeys⟩ := List.pairwise_cons.mp h
    unfold insert
    split
    · next hlt =>
      refine List.pairwise_cons.mpr ⟨?_, h⟩
      intro j hj
      rcases List.mem_cons.mp hj with rfl | hj
      · exact hlt
      · exact hlt.trans (hk j hj)
    · next hge =>
      split
      · exact h
      · next hne =>
        refine List.pairwise_cons.mpr ⟨?_, ih hkeys⟩
        intro j hj
        rcases mem_insert.mp hj with rfl | hj
        · exact lt_of_le_of_ne (not_lt.mp hge) (Ne.symm hne)
        · exact hk j hj

theorem ofList_ascending (keys : List String) : (ofList keys).Pairwise (· < ·) := by
  have hfold : ∀ set : List String, set.Pairwise (· < ·) →
      (keys.foldl (fun set key => insert key set) set).Pairwise (· < ·) := by
    induction keys with
    | nil => exact fun set hs => hs
    | cons key keys ih => exact fun set hs => ih _ (insert_ascending hs key)
  exact hfold [] .nil

end Keys

theorem commaPieces_join (a b : String) :
    commaPieces (a ++ "," ++ b) = commaPieces a ++ commaPieces b :=
  Text.map_split_join rfl a b

theorem not_comma_mem_of_mem_commaPieces {text piece : String} (h : piece ∈ commaPieces text) :
    ',' ∉ piece.toList := by
  obtain ⟨s, hs, rfl⟩ := List.mem_map.mp h
  rw [String.toList_ofList]
  exact Text.not_mem_of_mem_split hs

theorem commaPieces_of_not_mem {text : String} (h : ',' ∉ text.toList) :
    commaPieces text = [text] := by
  rw [commaPieces, Text.split_of_not_mem h, List.map_singleton, String.ofList_toList]

namespace Config

/-- Some piece between the commas of an entry is not blank, and is the key up to the blanks around
it. -/
def Names (entries : List String) (key : String) : Prop :=
  ∃ entry ∈ entries, ∃ piece ∈ commaPieces entry, ¬ IsBlankText piece ∧ trimmed piece = key

theorem mem_keysOf_iff_names {entries : List String} {key : String} :
    key ∈ keysOf entries ↔ Names entries key := by
  rw [mem_keysOf]
  constructor
  · rintro ⟨hne, entry, he, piece, hp, rfl⟩
    exact ⟨entry, he, piece, hp, fun hb => hne (trimmed_eq_empty_iff.mpr hb), rfl⟩
  · rintro ⟨entry, he, piece, hp, hb, rfl⟩
    exact ⟨fun ht => hb (trimmed_eq_empty_iff.mp ht), entry, he, piece, hp, rfl⟩

theorem keysOf_congr {entries others : List String}
    (h : ∀ key, Names entries key ↔ Names others key) : keysOf entries = keysOf others := by
  refine (Keys.ofList_ascending _).eq_of_mem_iff (Keys.ofList_ascending _) ?_
  intro key
  have hkey := h key
  rw [← mem_keysOf_iff_names, ← mem_keysOf_iff_names] at hkey
  exact hkey

/-- A key as it is kept: not empty, without a comma, and without blanks at its ends. -/
structure Plain (key : String) : Prop where
  ne_empty : key ≠ ""
  no_comma : ',' ∉ key.toList
  bare : Bare key

theorem Names.plain {entries : List String} {key : String} (h : Names entries key) : Plain key := by
  obtain ⟨entry, -, piece, hp, hb, rfl⟩ := h
  refine ⟨fun ht => hb (trimmed_eq_empty_iff.mp ht), ?_, bare_trimmed piece⟩
  intro hc
  rw [trimmed, String.toList_ofList] at hc
  exact not_comma_mem_of_mem_commaPieces hp ((Text.trim_infix piece.toList).subset hc)

/-- A plain key as an entry names itself, and nothing else. -/
theorem names_plain_iff {entries : List String} (h : ∀ entry ∈ entries, Plain entry) {key : String} :
    Names entries key ↔ key ∈ entries := by
  have hself : ∀ entry ∈ entries, commaPieces entry = [entry] ∧ trimmed entry = entry := fun entry he =>
    ⟨commaPieces_of_not_mem (h entry he).no_comma, (h entry he).bare.trimmed_eq⟩
  constructor
  · rintro ⟨entry, he, piece, hp, -, rfl⟩
    obtain ⟨hpieces, htrim⟩ := hself entry he
    rw [hpieces, List.mem_singleton] at hp
    rw [hp, htrim]
    exact he
  · intro hk
    obtain ⟨hpieces, htrim⟩ := hself key hk
    refine ⟨key, hk, key, by simp [hpieces], ?_, htrim⟩
    intro hb
    exact (h key hk).ne_empty (htrim.symm.trans (trimmed_eq_empty_iff.mpr hb))

theorem keysOf_keysOf (entries : List String) : keysOf (keysOf entries) = keysOf entries := by
  apply keysOf_congr
  intro key
  have hplain : ∀ k ∈ keysOf entries, Plain k := fun k hk => (mem_keysOf_iff_names.mp hk).plain
  rw [names_plain_iff hplain, mem_keysOf_iff_names]

/-- Other texts for the same names, all from one source. -/
inductive Rewritten : List String → List String → Prop where
  | joined (before after : List String) (a b : String) :
      Rewritten (before ++ a :: b :: after) (before ++ (a ++ "," ++ b) :: after)
  | repeated {entries : List String} {entry : String} (h : entry ∈ entries) :
      Rewritten entries (entry :: entries)
  | reordered {entries others : List String} (h : entries.Perm others) : Rewritten entries others

/-- Other texts for the same names, on the command line and in the file. -/
inductive RewrittenIn : List String × List String → List String × List String → Prop where
  | commandLine {a b : List String} (file : List String) (h : Rewritten a b) :
      RewrittenIn (a, file) (b, file)
  | file (options : List String) {a b : List String} (h : Rewritten a b) :
      RewrittenIn (options, a) (options, b)
  | moved (before after above below : List String) (entry : String) :
      RewrittenIn (before ++ entry :: after, above ++ below)
        (before ++ after, above ++ entry :: below)

/-- The texts that skip rules, by their sources. -/
def skipTexts (options : Options) (file : ConfigFile) : List String × List String :=
  (options.skipList, file.skipList.map Label.text)

/-- The texts that pick rules, by their sources. -/
def tagTexts (options : Options) (file : ConfigFile) : List String × List String :=
  (options.tags, (file.tags.map Entries.texts).getD [])

theorem names_append {a b : List String} {key : String} :
    Names (a ++ b) key ↔ Names a key ∨ Names b key := by
  simp only [Names, List.mem_append, or_and_right, exists_or]

theorem names_cons (entry : String) (entries : List String) {key : String} :
    Names (entry :: entries) key ↔ Names [entry] key ∨ Names entries key := by
  rw [← List.singleton_append, names_append]

theorem names_joined {a b key : String} :
    Names [a ++ "," ++ b] key ↔ Names [a] key ∨ Names [b] key := by
  simp only [Names, List.mem_singleton, exists_eq_left, commaPieces_join, List.mem_append,
    or_and_right, exists_or]

theorem Rewritten.names_iff {a b : List String} (h : Rewritten a b) (key : String) :
    Names a key ↔ Names b key := by
  cases h with
  | joined before after a b =>
    rw [names_append, names_append, names_cons a, names_cons b, names_cons (a ++ "," ++ b),
      names_joined, or_assoc (a := Names [a] key)]
  | repeated he =>
    constructor
    · intro h
      exact (names_cons _ _).mpr (.inr h)
    · intro h
      rcases (names_cons _ _).mp h with h | h
      · obtain ⟨e, hm, hpiece⟩ := h
        rw [List.mem_singleton.mp hm] at hpiece
        exact ⟨_, he, hpiece⟩
      · exact h
  | reordered hp => simp only [Names, hp.mem_iff]

theorem RewrittenIn.names_iff {a b : List String × List String} (h : RewrittenIn a b)
    (key : String) : Names (a.1 ++ a.2) key ↔ Names (b.1 ++ b.2) key := by
  cases h with
  | commandLine file h => rw [names_append, names_append, h.names_iff key]
  | file options h => rw [names_append, names_append, h.names_iff key]
  | moved before after above below entry =>
    have hp : (before ++ entry :: after ++ (above ++ below)).Perm
        (before ++ after ++ (above ++ entry :: below)) := by
      rw [List.append_assoc, List.append_assoc, List.cons_append]
      refine List.Perm.append_left before ?_
      rw [← List.append_assoc, ← List.append_assoc]
      exact List.perm_middle.symm
    simp only [Names, hp.mem_iff]

theorem keysOf_of_eqvGen {a b : List String × List String} (h : Relation.EqvGen RewrittenIn a b) :
    keysOf (a.1 ++ a.2) = keysOf (b.1 ++ b.2) := by
  induction h with
  | rel _ _ h => exact keysOf_congr h.names_iff
  | refl _ => rfl
  | symm _ _ _ ih => exact ih.symm
  | trans _ _ _ _ _ ih ih' => exact ih.trans ih'

/-- With other entries for ids and tags, nothing else of a configuration is different. -/
theorem resolve_with_entries {here : Path} {options : Options} {file : ConfigFile} {config : Config}
    (h : resolve here options file = .ok config) (skips tags : List String) :
    resolve here { options with skipList := skips, tags := tags }
        { file with skipList := [], tags := none } =
      .ok { config with skipList := keysOf skips, tags := keysOf tags } := by
  unfold resolve at h ⊢
  split at h
  · cases h
  next hx =>
  split at h
  · cases h
  next hr =>
  cases h
  simp [hx, hr]

/-- The keys of a configuration are the names between the commas of all entries. They are plain, so
that another way to write the same names makes no difference, and the keys themselves can be given
for the entries. -/
theorem resolve_keys_of_names {here : Path} {options : Options} {file : ConfigFile} {config : Config}
    (h : resolve here options file = .ok config) :
    (∀ key, key ∈ config.skipList ↔ Names (skipEntries options file) key) ∧
    (∀ key, key ∈ config.tags ↔ Names (tagEntries options file) key) ∧
    config.skipList.Pairwise (· < ·) ∧ config.tags.Pairwise (· < ·) ∧
    (∀ key, key ∈ config.skipList ∨ key ∈ config.tags → Plain key) ∧
    (∀ (here' : Path) (options' : Options) (file' : ConfigFile) (config' : Config),
      resolve here' options' file' = .ok config' →
      (Relation.EqvGen RewrittenIn (skipTexts options file) (skipTexts options' file') →
        config'.skipList = config.skipList) ∧
      (Relation.EqvGen RewrittenIn (tagTexts options file) (tagTexts options' file') →
        config'.tags = config.tags)) ∧
    resolve here { options with skipList := config.skipList, tags := config.tags }
      { file with skipList := [], tags := none } = .ok config := by
  obtain ⟨ht, hs⟩ := resolve_eq_ok h
  have hskips : ∀ key, key ∈ config.skipList ↔ Names (skipEntries options file) key := by
    intro key
    rw [hs, mem_keysOf_iff_names]
  have htags : ∀ key, key ∈ config.tags ↔ Names (tagEntries options file) key := by
    intro key
    rw [ht, mem_keysOf_iff_names]
  refine ⟨hskips, htags, ?_, ?_, ?_, ?_, ?_⟩
  · rw [hs]
    exact Keys.ofList_ascending _
  · rw [ht]
    exact Keys.ofList_ascending _
  · rintro key (hk | hk)
    · exact ((hskips key).mp hk).plain
    · exact ((htags key).mp hk).plain
  · intro here' options' file' config' h'
    obtain ⟨ht', hs'⟩ := resolve_eq_ok h'
    constructor
    · intro hw
      rw [hs, hs']
      exact (keysOf_of_eqvGen hw).symm
    · intro hw
      rw [ht, ht', tagEntries_eq, tagEntries_eq]
      exact (keysOf_of_eqvGen hw).symm
  · rw [resolve_with_entries h, hs, ht, keysOf_keysOf, keysOf_keysOf, ← hs, ← ht]

/-- Two entries on the command line, and a number in the file. -/
def apartOptions : Options := { skipList := ["201", " 203 "], tags := [" , formatting"] }

/-- The same names, all in the file. -/
def togetherFile : ConfigFile :=
  { skipList := [.name "201, 203 ", .number 204], tags := some (.one " , formatting") }

/-- The entries are joined, and moved to the file. -/
theorem resolve_keys_of_names_together :
    ∃ config config', resolve ⟨"/srv"⟩ apartOptions { skipList := [.number 204] } = .ok config ∧
      resolve ⟨"/home"⟩ {} togetherFile = .ok config' ∧
      config.skipList = ["201", "203", "204"] ∧ config'.skipList = config.skipList ∧
      config'.tags = config.tags := by
  let apart : Config :=
    { Config.default with
      excludePaths := ⟨some ⟨"/srv"⟩, []⟩, skipList := ["201", "203", "204"], tags := ["formatting"] }
  have hapart : resolve ⟨"/srv"⟩ apartOptions { skipList := [.number 204] } = .ok apart := by rfl
  obtain ⟨config', htogether⟩ : ∃ config', resolve ⟨"/home"⟩ {} togetherFile = .ok config' :=
    ⟨_, rfl⟩
  have hskips : Relation.EqvGen RewrittenIn (skipTexts apartOptions { skipList := [.number 204] })
      (skipTexts {} togetherFile) :=
    .trans _ _ _ (.rel _ _ (.commandLine ["204"] (.joined [] [] "201" " 203 ")))
      (.rel _ _ (.moved [] [] [] ["204"] "201, 203 "))
  have htags : Relation.EqvGen RewrittenIn (tagTexts apartOptions { skipList := [.number 204] })
      (tagTexts {} togetherFile) :=
    .rel _ _ (.moved [] [] [] [] " , formatting")
  obtain ⟨-, -, -, -, -, hsame, -⟩ := resolve_keys_of_names hapart
  obtain ⟨hs, ht⟩ := hsame ⟨"/home"⟩ {} togetherFile config' htogether
  exact ⟨apart, config', hapart, htogether, rfl, hs hskips, ht htags⟩

end Config

end StateLint
