import Mathlib.Logic.Relation
import StateLint.PathPatternSet
import StateLint.Proofs.FileKeys

/-! # Patterns see the names of a path, and not its spelling

Before patterns are tried, a path is reduced to its names as seen from the base. Hence a path below
the base counts as the relative path that leads there, and any other absolute path as if it had no
root. What the patterns are asked about is never empty, and never starts at the root. -/
namespace StateLint

namespace Path

/-- The path without the slashes at its beginning. -/
def withoutRoot (p : Path) : Path := ⟨String.ofList (p.text.toList.dropWhile (· = '/'))⟩

/-- Another spelling of a path, with a slash or a `.` more. -/
inductive Respelled : Path → Path → Prop where
  | slash (a b : String) : Respelled ⟨a ++ "/" ++ b⟩ ⟨a ++ "//" ++ b⟩
  | dot (a b : String) : Respelled ⟨a ++ "/" ++ b⟩ ⟨a ++ "/./" ++ b⟩
  | firstDot {p : Path} (h : p.isAbsolute = false) : Respelled p ⟨"./" ++ p.text⟩
  | lastSlash (p : Path) : Respelled p ⟨p.text ++ "/"⟩

/-- A name between slashes. -/
structure IsName (name : String) : Prop where
  ne_empty : name ≠ ""
  ne_dot : name ≠ "."
  no_slash : '/' ∉ name.toList

theorem isName_of_mem_names {p : Path} {name : String} (h : name ∈ p.names) : IsName name := by
  unfold names at h
  obtain ⟨hm, hne⟩ := List.mem_filter.mp h
  obtain ⟨s, hs, rfl⟩ := List.mem_map.mp hm
  simp only [decide_eq_true_eq] at hne
  refine ⟨hne.1, hne.2, ?_⟩
  rw [String.toList_ofList]
  exact Text.not_mem_of_mem_split hs

/-- A path that is not empty, does not start at the root and has no `.`. -/
structure Normal (p : Path) : Prop where
  nonempty : p.text ≠ ""
  rootless : p.isAbsolute = false
  no_dot : "." ∉ p.segments
  components : ∀ c ∈ p.components, c ≠ .root ∧ c ≠ .current

theorem components_of_relative {p : Path} (hp : p.isAbsolute = false)
    (hd : p.segments.head? ≠ some ".") : p.components = p.names.map nameComponent := by
  unfold components
  rw [hp, if_neg (by simp), if_neg hd, segments_filter_eq_names]
  rfl

section Joined

variable {names : List String} (hne : names ≠ []) (h : ∀ name ∈ names, IsName name)
include hne h

theorem segments_intercalate : segments ⟨String.intercalate "/" names⟩ = names := by
  rw [segments, Text.split_intercalate rfl hne fun name hn => (h name hn).no_slash,
    List.filter_eq_self.mpr]
  · simp
  · intro s hs
    obtain ⟨name, hn, rfl⟩ := List.mem_map.mp hs
    simpa using (h name hn).ne_empty

theorem names_intercalate : Path.names ⟨String.intercalate "/" names⟩ = names := by
  rw [← segments_filter_eq_names, segments_intercalate hne h, List.filter_eq_self]
  intro name hn
  simpa using (h name hn).ne_dot

theorem isAbsolute_intercalate : isAbsolute ⟨String.intercalate "/" names⟩ = false := by
  by_contra habs
  have hroot : (String.intercalate "/" names).toList.head? = some '/' := by
    simpa [isAbsolute] using habs
  obtain ⟨s, hs⟩ := List.head?_eq_some_iff.mp hroot
  -- Nothing stands before the first slash, but the first name does.
  have hfirst := Text.head?_split '/' (String.intercalate "/" names).toList
  rw [Text.split_intercalate rfl hne fun name hn => (h name hn).no_slash, hs,
    List.takeWhile_cons_of_neg (by simp)] at hfirst
  obtain ⟨name, hn, he⟩ := List.mem_map.mp (List.mem_of_head? hfirst)
  exact (h name hn).ne_empty (String.toList_eq_nil_iff.mp he)

theorem normal_intercalate : Normal ⟨String.intercalate "/" names⟩ := by
  have hseg := segments_intercalate hne h
  have hrel := isAbsolute_intercalate hne h
  have hdot : "." ∉ segments ⟨String.intercalate "/" names⟩ := by
    rw [hseg]
    exact fun hm => (h "." hm).ne_dot rfl
  refine ⟨?_, hrel, hdot, ?_⟩
  · intro (he : String.intercalate "/" names = "")
    rw [he] at hseg
    exact hne hseg.symm
  · rw [components_of_relative hrel fun hh => hdot (List.mem_of_head? hh)]
    intro c hc
    obtain ⟨name, -, rfl⟩ := List.mem_map.mp hc
    unfold nameComponent
    split <;> simp

end Joined

theorem names_slash_mk (a : String) : names ⟨"/" ++ a⟩ = names ⟨a⟩ := by
  have h := names_mk_append_slash "" a
  rw [String.empty_append] at h
  rw [h]
  rfl

theorem names_withoutRoot (p : Path) : p.withoutRoot.names = p.names := by
  obtain ⟨text⟩ := p
  obtain ⟨s, rfl⟩ : ∃ s, text = String.ofList s := ⟨text.toList, by simp⟩
  simp only [withoutRoot, String.toList_ofList]
  induction s with
  | nil => rfl
  | cons c s ih =>
    by_cases hc : c = '/'
    · have ht : String.ofList ('/' :: s) = "/" ++ String.ofList s := by
        rw [← String.toList_inj]
        simp
      rw [hc, List.dropWhile_cons_of_pos (by simp), ih, ht, names_slash_mk]
    · rw [List.dropWhile_cons_of_neg (by simpa using hc)]

theorem isAbsolute_withoutRoot (p : Path) : p.withoutRoot.isAbsolute = false := by
  have hn := List.head?_dropWhile_not (fun c : Char => decide (c = '/')) p.text.toList
  unfold isAbsolute withoutRoot
  rw [String.toList_ofList]
  cases hh : (p.text.toList.dropWhile fun c => decide (c = '/')).head? with
  | none => rfl
  | some c =>
    rw [hh] at hn
    simpa using hn

theorem isAbsolute_slash (a b : String) : isAbsolute ⟨a ++ "/" ++ b⟩ = isAbsolute ⟨a ++ "/"⟩ := by
  cases ha : a.toList with
  | nil => simp [isAbsolute, ha]
  | cons c s => simp [isAbsolute, ha]

theorem components_join {p q : Path} (hp : p.isAbsolute) (hq : q.isAbsolute = false) :
    (p.join q).components = p.components ++ q.names.map nameComponent := by
  have hne : p.text ≠ "" := by
    intro he
    simp [isAbsolute, he] at hp
  rw [components_of_isAbsolute (isAbsolute_join hp), components_of_isAbsolute hp,
    names_join hne hq, List.map_append, List.cons_append]

/-- Another spelling has the same names, and is absolute if the first one is, unless it has no names
at all. -/
theorem Respelled.names_eq {p q : Path} (h : Respelled p q) :
    q.names = p.names ∧ (q.isAbsolute = p.isAbsolute ∨ p.names = []) := by
  cases h with
  | slash a b =>
    have hab : a ++ "//" ++ b = a ++ "/" ++ ("/" ++ b) := by simp [← String.toList_inj]
    refine ⟨(names_spellings a b).1, .inl ?_⟩
    rw [hab, isAbsolute_slash a b, isAbsolute_slash a]
  | dot a b =>
    have hab : a ++ "/./" ++ b = a ++ "/" ++ ("./" ++ b) := by simp [← String.toList_inj]
    refine ⟨(names_spellings a b).2.1, .inl ?_⟩
    rw [hab, isAbsolute_slash a b, isAbsolute_slash a]
  | firstDot hp =>
    constructor
    · exact names_mk_append_slash "." p.text
    · left
      rw [hp]
      simp [isAbsolute]
  | lastSlash =>
    refine ⟨names_mk_slash p.text, ?_⟩
    obtain ⟨text⟩ := p
    cases ht : text.toList with
    | nil =>
      right
      simp [names, ht, Text.split]
    | cons c s =>
      left
      simp [isAbsolute, ht]

end Path

namespace PathPatternSet

theorem filterMap_nameComponent (names : List String) :
    (names.map Path.nameComponent).filterMap componentName? = names := by
  induction names with
  | nil => rfl
  | cons name names ih =>
    by_cases hn : name = ".."
    · subst hn
      simp [Path.nameComponent, componentName?, ih]
    · simp [Path.nameComponent, componentName?, hn, ih]

theorem filterMap_components (p : Path) : p.components.filterMap componentName? = p.names := by
  have hnamed : (p.segments.filter (· != ".")).map (fun s => if s = ".." then Path.Component.parent
      else .normal s) = p.names.map Path.nameComponent := by
    rw [Path.segments_filter_eq_names]
    rfl
  unfold Path.components
  simp only [hnamed]
  split_ifs
  all_goals simp only [List.filterMap_cons, componentName?, filterMap_nameComponent]

/-- The path lies in the directory `base`, or is the directory itself. -/
def Below (base path : Path) : Prop := base.components <+: path.components

theorem namesFrom_of_relative (base : Option Path) {p : Path} (h : p.isAbsolute = false) :
    namesFrom base p = p.names := by
  unfold namesFrom
  cases base with
  | none => exact filterMap_components p
  | some b => simp [h, filterMap_components]

theorem namesFrom_of_not_below {base : Option Path} {p : Path}
    (h : ∀ b, base = some b → ¬ Below b p) : namesFrom base p = p.names := by
  unfold namesFrom
  cases base with
  | none => exact filterMap_components p
  | some b =>
    have hb : b.components.isPrefixOf p.components = false := by
      rw [← Bool.not_eq_true, List.isPrefixOf_iff_prefix]
      exact h b rfl
    simp [Path.relativeTo?, hb, filterMap_components]

theorem namesFrom_of_below {b p : Path} {rest : List Path.Component} (hp : p.isAbsolute)
    (h : p.components = b.components ++ rest) :
    namesFrom (some b) p = rest.filterMap componentName? := by
  have hr : p.relativeTo? b = some rest := by
    rw [Path.relativeTo?, h, if_pos (by simp), List.drop_left]
  simp only [namesFrom, hp, if_true, hr, Option.getD_some]

theorem namesFrom_join {base p : Path} (hb : base.isAbsolute) (hp : p.isAbsolute = false) :
    namesFrom (some base) (base.join p) = p.names := by
  have hc := Path.components_join hb hp
  rw [namesFrom_of_below (Path.isAbsolute_join hb) hc, filterMap_nameComponent]

/-- Two paths with the same names are seen alike if both or none of them start at the root. -/
theorem namesFrom_congr (base : Option Path) {p q : Path} (ha : q.isAbsolute = p.isAbsolute)
    (hn : q.names = p.names) : namesFrom base q = namesFrom base p := by
  by_cases hp : p.isAbsolute
  · have hc : q.components = p.components := by
      rw [Path.components_of_isAbsolute hp, Path.components_of_isAbsolute (ha.trans hp), hn]
    simp only [namesFrom, Path.relativeTo?, hc, ha]
  · have hp : p.isAbsolute = false := by simpa using hp
    rw [namesFrom_of_relative base hp, namesFrom_of_relative base (ha.trans hp), hn]

/-- Seen from a base, a path has no other names than its own. -/
theorem namesFrom_suffix (base : Option Path) (p : Path) : namesFrom base p <:+ p.names := by
  rw [← filterMap_components p]
  unfold namesFrom
  cases base with
  | none => exact List.suffix_refl _
  | some b =>
    simp only
    split
    · unfold Path.relativeTo?
      split
      · exact (List.drop_suffix _ _).filterMap componentName?
      · exact List.suffix_refl _
    · exact List.suffix_refl _

theorem contains_congr (set : PathPatternSet) {p q : Path}
    (h : namesFrom set.base q = namesFrom set.base p) : set.contains q = set.contains p := by
  unfold contains
  rw [h]

theorem contains_respelled (set : PathPatternSet) {p q : Path} (h : p.Respelled q) :
    set.contains p = set.contains q := by
  apply contains_congr
  obtain ⟨hn, ha | hnil⟩ := h.names_eq
  · exact (namesFrom_congr set.base ha hn).symm
  · have hp := namesFrom_suffix set.base p
    have hq := namesFrom_suffix set.base q
    rw [hn] at hq
    rw [hnil, List.suffix_nil] at hp hq
    rw [hp, hq]

/-- What the patterns are asked about: the path whose names are those seen from the base. Without
patterns or names there is no question. -/
def asked? (set : PathPatternSet) (p : Path) : Option Path :=
  if set.isEmpty then none
  else
    match namesFrom set.base p with
    | [] => none
    | names => some ⟨String.intercalate "/" names⟩

/-- What patterns say about a path. They refuse one that starts at the root. -/
def answer? (patterns : List PathPattern) (p : Path) : Option Bool :=
  if p.isAbsolute then none else some (verdict? patterns false p.names.reverse == some true)

/-- Whether a path is ignored, as the patterns answer; `none` if they refuse. -/
def matched? (set : PathPatternSet) (p : Path) : Option Bool :=
  match set.asked? p with
  | none => some false
  | some q => answer? set.patterns q

theorem asked?_eq_some {set : PathPatternSet} {p q : Path} (h : set.asked? p = some q) :
    namesFrom set.base p ≠ [] ∧ q = ⟨String.intercalate "/" (namesFrom set.base p)⟩ := by
  unfold asked? at h
  split at h
  · cases h
  split at h
  · cases h
  next hne =>
  exact ⟨hne, (Option.some.inj h).symm⟩

theorem isName_of_mem_namesFrom {base : Option Path} {p : Path} {name : String}
    (h : name ∈ namesFrom base p) : Path.IsName name :=
  Path.isName_of_mem_names ((namesFrom_suffix base p).subset h)

theorem normal_of_asked? {set : PathPatternSet} {p q : Path} (h : set.asked? p = some q) :
    q.Normal := by
  obtain ⟨hne, rfl⟩ := asked?_eq_some h
  exact Path.normal_intercalate hne fun _ => isName_of_mem_namesFrom

theorem matched?_eq (set : PathPatternSet) (p : Path) : set.matched? p = some (set.contains p) := by
  unfold matched? asked? contains
  cases hn : namesFrom set.base p with
  | nil => cases set.isEmpty <;> rfl
  | cons name names =>
    cases he : set.isEmpty with
    | true => rfl
    | false =>
      have hname : ∀ n ∈ name :: names, Path.IsName n := by
        rw [← hn]
        exact fun _ => isName_of_mem_namesFrom
      have hne : name :: names ≠ [] := by simp
      simp [answer?, Path.isAbsolute_intercalate hne hname, Path.names_intercalate hne hname]

/-- Patterns see a path below the base as the relative path that leads there, all spellings of a path
alike, and an absolute path that is not below the base as if it had no root. What they are asked
about is normal, so that they never refuse. -/
theorem contains_of_names (set : PathPatternSet) :
    (∀ base p, set.base = some base → base.isAbsolute = true → p.isAbsolute = false →
      set.contains (base.join p) = set.contains p) ∧
    (∀ p q, Relation.EqvGen Path.Respelled p q → set.contains p = set.contains q) ∧
    (∀ p, (∀ base, set.base = some base → ¬ Below base p) →
      set.contains p = set.contains p.withoutRoot) ∧
    (∀ p, (∀ q, set.asked? p = some q → q.Normal) ∧ set.matched? p = some (set.contains p)) := by
  refine ⟨?_, ?_, ?_, fun p => ⟨fun q => normal_of_asked?, matched?_eq set p⟩⟩
  · intro base p hbase hb hp
    apply contains_congr
    rw [hbase, namesFrom_join hb hp, namesFrom_of_relative (some base) hp]
  · intro p q h
    induction h with
    | rel p q h => exact contains_respelled set h
    | refl p => rfl
    | symm p q _ ih => exact ih.symm
    | trans p q r _ _ ih ih' => exact ih.trans ih'
  · intro p hb
    apply contains_congr
    rw [namesFrom_of_not_below hb, namesFrom_of_relative set.base p.isAbsolute_withoutRoot,
      Path.names_withoutRoot]

def jinjaSet : PathPatternSet :=
  (compile (some ⟨"/srv/salt"⟩) ["tests/**/*.jinja"]).toOption.getD empty

/-- Below the base, with a doubled slash, and elsewhere. -/
theorem contains_of_names_jinja :
    jinjaSet.base = some ⟨"/srv/salt"⟩ ∧ jinjaSet.contains ⟨"tests/a/b.jinja"⟩ = true ∧
      jinjaSet.contains ⟨"/srv/salt/tests/a/b.jinja"⟩ = true ∧
      jinjaSet.contains ⟨"/srv/salt/tests//a/b.jinja"⟩ = true ∧
      jinjaSet.contains ⟨"//tests/a/b.jinja"⟩ = true ∧
      jinjaSet.matched? ⟨"//tests/a/b.jinja"⟩ = some true := by
  have hbase : jinjaSet.base = some ⟨"/srv/salt"⟩ := by rfl
  have hrel : jinjaSet.contains ⟨"tests/a/b.jinja"⟩ = true := by decide +kernel
  obtain ⟨hjoin, hspell, hroot, hasked⟩ := contains_of_names jinjaSet
  have hbelow : jinjaSet.contains ⟨"/srv/salt/tests/a/b.jinja"⟩ = true :=
    (hjoin ⟨"/srv/salt"⟩ ⟨"tests/a/b.jinja"⟩ hbase (by decide) (by decide)).trans hrel
  have hdoubled : jinjaSet.contains ⟨"/srv/salt/tests//a/b.jinja"⟩ = true :=
    (hspell _ _ (.rel _ _ (.slash "/srv/salt/tests" "a/b.jinja"))).symm.trans hbelow
  have helsewhere : jinjaSet.contains ⟨"//tests/a/b.jinja"⟩ = true := by
    refine (hroot ⟨"//tests/a/b.jinja"⟩ ?_).trans hrel
    intro base hb
    rw [← Option.some.inj (hbase.symm.trans hb)]
    unfold Below
    decide +kernel
  exact ⟨hbase, hrel, hbelow, hdoubled, helsewhere, (hasked _).2.trans (congrArg some helsewhere)⟩

end PathPatternSet

end StateLint
