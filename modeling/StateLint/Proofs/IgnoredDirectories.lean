import StateLint.Proofs.CountedInputs
import StateLint.Proofs.PathSpellings
import StateLint.Proofs.PatternLines

/-! # Directories that are ignored, and what lies in them

If no line takes paths back, a path is ignored as soon as one of its levels is, so all that lies
below an ignored path is ignored too. A line that ends in a slash says nothing about files: it can
ignore a path only through a directory above it. The last of these directories is the one that
relative paths start from, and lines such as `*/` speak about that one as well. -/
namespace StateLint

namespace Path

theorem isAbsolute_join_of_relative {p q : Path} (hp : p.isAbsolute = false)
    (hq : q.isAbsolute = false) : (p.join q).isAbsolute = false := by
  unfold join
  rw [hq, Bool.false_or]
  split
  · exact hq
  next hne =>
  have hcons : p.text.toList ≠ [] := by simpa using hne
  obtain ⟨c, s, hs⟩ := List.exists_cons_of_ne_nil hcons
  unfold isAbsolute at hp ⊢
  rw [hs] at hp
  split <;> simpa [hs] using hp

end Path

namespace PathPattern

theorem applies_as_directory {q : PathPattern} {names : List String}
    (h : q.applies false names = true) : q.applies true names = true := by
  unfold applies at h ⊢
  exact (Bool.and_eq_true_iff.mp h).2

end PathPattern

namespace PathPatternSet

variable {base : Option Path} {lines : List String} {set : PathPatternSet}
  {ps : List PathPattern} {isDir : Bool} {names above : List String}

section NothingTakenBack

variable (hpos : ∀ q ∈ ps, q.negated = false)
include hpos

/-- At each level the path is ignored, or nothing is said. -/
theorem verdictAt?_cases :
    verdictAt? ps isDir names = some true ∨ verdictAt? ps isDir names = none := by
  cases h : verdictAt? ps isDir names with
  | none => exact .inr rfl
  | some v =>
    obtain ⟨q, hq, -, hv⟩ := verdictAt?_eq_some h
    rw [hv, hpos q hq]
    exact .inl rfl

theorem verdict?_cons_of_above {name : String} (h : verdict? ps true above = some true) :
    verdict? ps isDir (name :: above) = some true := by
  rw [verdict?_cons, h]
  rcases verdictAt?_cases hpos with hv | hv
  · rw [hv, Option.some_or]
  · rw [hv, Option.none_or]

/-- An ignored file would be ignored as a directory, too. -/
theorem verdict?_as_directory (h : verdict? ps false above = some true) :
    verdict? ps true above = some true := by
  have hlevel : verdictAt? ps false above.reverse = some true →
      verdictAt? ps true above.reverse = some true := by
    intro hf
    obtain ⟨q, hq, ha, -⟩ := verdictAt?_eq_some hf
    apply (verdictAt?_cases hpos).resolve_right
    intro hnone
    have hno := verdictAt?_eq_none_iff.mp hnone q hq
    rw [PathPattern.applies_as_directory ha] at hno
    cases hno
  cases above with
  | nil => exact hlevel h
  | cons name above =>
    rw [verdict?_cons] at h
    rcases Option.or_eq_some_iff.mp h with hf | ⟨-, hup⟩
    · rw [verdict?_cons, hlevel hf, Option.some_or]
    · exact verdict?_cons_of_above hpos hup

/-- All that lies below an ignored path is ignored. -/
theorem verdict?_below (h : verdict? ps false above = some true) (lower : List String) :
    verdict? ps false (lower ++ above) = some true := by
  -- Only the path itself is tested as a file; from the next level on, all are directories.
  have hdir : ∀ lower, verdict? ps true (lower ++ above) = some true := by
    intro lower
    induction lower with
    | nil => exact verdict?_as_directory hpos h
    | cons name lower ih => exact verdict?_cons_of_above hpos ih
  cases lower with
  | nil => exact h
  | cons name lower => exact verdict?_cons_of_above hpos (hdir lower)

end NothingTakenBack

/-- Seen from the base, what lies below `d` has the names of `d` in front, unless the base itself
lies below `d`. -/
theorem namesFrom_join_of_clear {d x : Path} (hd : d.text ≠ "") (hx : x.isAbsolute = false)
    (hclear : d.isAbsolute = true → ∀ b, base = some b → Below b (d.join x) → Below b d) :
    namesFrom base (d.join x) = namesFrom base d ++ x.names := by
  by_cases ha : d.isAbsolute
  swap
  · have ha : d.isAbsolute = false := by simpa using ha
    have hj := Path.isAbsolute_join_of_relative ha hx
    rw [namesFrom_of_relative base ha, namesFrom_of_relative base hj, Path.names_join hd hx]
  by_cases hb : ∃ b, base = some b ∧ Below b d
  · obtain ⟨b, rfl, rest, hrest⟩ := hb
    have hj : (d.join x).components = b.components ++ (rest ++ x.names.map Path.nameComponent) := by
      rw [Path.components_join ha hx, ← hrest, List.append_assoc]
    rw [namesFrom_of_below (Path.isAbsolute_join ha) hj, namesFrom_of_below ha hrest.symm,
      List.filterMap_append, filterMap_nameComponent]
  · have hno : ∀ b, base = some b → ¬ Below b d := fun b he hb' => hb ⟨b, he, hb'⟩
    rw [namesFrom_of_not_below hno, ← Path.names_join hd hx]
    exact namesFrom_of_not_below fun b he hj => hno b he (hclear ha b he hj)

theorem text_ne_empty_of_contains {p : Path} (h : set.contains p = true) : p.text ≠ "" := by
  intro he
  have hsuffix := namesFrom_suffix set.base p
  have hnil : p.names = [] := by simp [Path.names, he, Text.split]
  rw [hnil, List.suffix_nil] at hsuffix
  exact (contains_eq_true_iff.mp h).1 hsuffix

theorem contains_join_of_clear (hpos : ∀ q ∈ set.patterns, q.negated = false) {d x : Path}
    (hx : x.isAbsolute = false)
    (hclear : d.isAbsolute = true → ∀ b, set.base = some b → Below b (d.join x) → Below b d)
    (h : set.contains d = true) : set.contains (d.join x) = true := by
  obtain ⟨hne, hv⟩ := contains_eq_true_iff.mp h
  rw [contains_eq_true_iff, namesFrom_join_of_clear (text_ne_empty_of_contains h) hx hclear,
    List.reverse_append]
  exact ⟨by simp [hne], verdict?_below hpos hv _⟩

theorem not_negated_of_lines (h : compile base lines = .ok set)
    (hn : ∀ line ∈ set.lines, ¬ TakesBack line) : ∀ q ∈ set.patterns, q.negated = false := by
  intro q hq
  rw [← Bool.not_eq_true, (described_of_mem h hq).negated_iff]
  exact hn q.text (List.mem_map_of_mem hq)

/-- If no line takes paths back, all that lies below an ignored relative path is ignored. Hence no
file is checked for an excluded directory, nor for one that is given by an absolute path, unless the
base is where its file should be. -/
theorem contains_below_ignored (h : compile base lines = .ok set)
    (hn : ∀ line ∈ set.lines, ¬ TakesBack line) :
    (∀ d x : Path, d.isAbsolute = false → x.isAbsolute = false → set.contains d = true →
      set.contains (d.join x) = true) ∧
    ∀ (fs : FileSystem) (config : Config) (d : Path), config.excludePaths = set →
      fs.isDir d = true → config.isExcluded d = true →
      (d.isAbsolute = true → ∀ b, set.base = some b →
        b.components ≠ (d.join ⟨StateFile.entryName⟩).components) →
      Lint.files fs config d = [] := by
  have hpos := not_negated_of_lines h hn
  constructor
  · intro d x hd hx hc
    refine contains_join_of_clear hpos hx ?_ hc
    intro ha
    rw [hd] at ha
    cases ha
  · rintro fs config d rfl hdir hex hb
    have hentry : Path.isAbsolute ⟨StateFile.entryName⟩ = false := by decide
    have hin : config.excludePaths.contains (d.join ⟨StateFile.entryName⟩) = true := by
      refine contains_join_of_clear hpos hentry ?_ hex
      intro ha b he hbelow
      -- A base that leads to the file of `d` leads to `d`, or is that file.
      have hnames : Path.names ⟨StateFile.entryName⟩ = ["init.sls"] := by decide
      have hne := hb ha b he
      unfold Below at hbelow
      rw [Path.components_join ha hentry, hnames] at hbelow hne
      rcases List.prefix_concat_iff.mp hbelow with heq | hbelow
      · exact absurd heq hne
      · exact hbelow
    simp only [Lint.files, StateFile.ofInput, hdir, if_true, Config.isExcluded, hin]

def webOnly : PathPatternSet := (compile (some ⟨"/srv"⟩) ["web"]).toOption.getD empty

/-- A name that is ignored at every depth, as a directory and as the file of an input. -/
theorem contains_below_ignored_web :
    compile (some ⟨"/srv"⟩) ["web"] = .ok webOnly ∧ (∀ line ∈ webOnly.lines, ¬ TakesBack line) ∧
      webOnly.contains ⟨"roles/web"⟩ = true ∧ webOnly.contains ⟨"roles/web/a/b.sls"⟩ = true ∧
      Lint.webFiles.isDir ⟨"web"⟩ = true ∧
      Lint.files Lint.webFiles { Config.default with excludePaths := webOnly } ⟨"web"⟩ = [] := by
  have hset : compile (some ⟨"/srv"⟩) ["web"] = .ok webOnly := by rfl
  have hlines : ∀ line ∈ webOnly.lines, ¬ TakesBack line := by decide +kernel
  have hroles : webOnly.contains ⟨"roles/web"⟩ = true := by decide +kernel
  have hweb : webOnly.contains ⟨"web"⟩ = true := by decide +kernel
  obtain ⟨hbelow, hinput⟩ := contains_below_ignored hset hlines
  refine ⟨hset, hlines, hroles, ?_, by decide, ?_⟩
  · exact hbelow ⟨"roles/web"⟩ ⟨"a/b.sls"⟩ (by decide) (by decide) hroles
  · refine hinput _ _ _ rfl (by decide) hweb ?_
    intro ha
    cases ha

/-- The line ends in a slash, whether it is quoted or not. -/
def EndsInSlash (line : String) : Prop := line.toList.getLast? = some '/'

instance (line : String) : Decidable (EndsInSlash line) := inferInstanceAs (Decidable (_ = _))

end PathPatternSet

namespace PathPattern

/-- The slash at the end is still there without the marks at the start, unless it is one of them. -/
theorem outlineStart_of_slash {s : List Char} (h : s.getLast? = some '/') :
    (outlineStart s).body.getLast? = some '/' ∨
      (outlineStart s).body = [] ∧ (outlineStart s).anchored = true := by
  unfold outlineStart
  split
  · exact .inl (by simpa using h)
  · exact .inl (by simpa using h)
  · next s =>
    cases s with
    | nil => exact .inr ⟨rfl, rfl⟩
    | cons c s => exact .inl (by simpa using h)
  · next s _ =>
    cases s with
    | nil => simp at h
    | cons c s => exact .inl (by simpa using h)
  · next s =>
    cases s with
    | nil => exact .inr ⟨rfl, rfl⟩
    | cons c s => exact .inl (by simpa using h)
  · exact .inl h

/-- A line that ends in a slash asks for a directory, or has nothing but marks. -/
theorem outline_of_slash {s : List Char} (h : s.getLast? = some '/') :
    (outline s).dirOnly = true ∨ (outline s).globText = [] := by
  rcases outlineStart_of_slash h with hb | ⟨hb, ha⟩
  · left
    obtain ⟨t, ht⟩ := List.getLast?_eq_some_iff.mp hb
    unfold outline
    simp only [ht, List.reverse_append, List.reverse_singleton, List.singleton_append]
    split
    · rfl
    · rfl
    · next hno => exact absurd rfl (hno _)
  · right
    have ho : outline s = outlineStart s := by
      unfold outline
      simp only [hb, List.reverse_nil]
    simp [Outline.globText, ho, hb, ha]

end PathPattern

namespace Glob

theorem bytesOf_eq_nil_iff {path : String} : bytesOf path = [] ↔ path = "" := by
  rw [bytesOf, List.flatMap_eq_nil_iff, ← String.toList_eq_nil_iff]
  constructor
  · intro h
    by_contra hne
    obtain ⟨c, hc⟩ := List.exists_mem_of_ne_nil _ hne
    exact String.utf8EncodeChar_ne_nil (h c hc)
  · intro h
    simp [h]

/-- A pattern without tokens matches the empty path only. -/
theorem eq_empty_of_accepts {g : Glob} (hg : g.tokens = []) {path : String}
    (h : g.accepts path = true) : path = "" := by
  rw [← bytesOf_eq_nil_iff]
  simp only [accepts, hg, restsList] at h
  simpa using (Bool.and_eq_true_iff.mp h).1

end Glob

namespace PathPatternSet

variable {base : Option Path} {lines : List String} {set : PathPatternSet} {p : Path}

/-- A line that ends in a slash does not speak about a file. -/
theorem applies_of_slash {q : PathPattern} (hd : q.Described) (hs : EndsInSlash q.text)
    {names : List String} (hne : String.intercalate "/" names ≠ "") :
    q.applies false names = false := by
  rw [← Bool.not_eq_true]
  intro h
  obtain ⟨hfile, hglob⟩ := Bool.and_eq_true_iff.mp h
  rcases PathPattern.outline_of_slash hs with hdir | hnone
  · rw [← hd.dirOnly] at hdir
    simp [hdir] at hfile
  · have hparse : Glob.parse [] = .ok q.glob := hnone ▸ hd.glob
    have htokens : q.glob.tokens = [] := by
      rw [← Except.ok.inj hparse]
      rfl
    exact hne (Glob.eq_empty_of_accepts htokens hglob)

/-- Lines that end in slashes are asked about the directory that holds the path, and about those
above it. -/
theorem contains_iff_of_slashes (h : compile base lines = .ok set)
    (hs : ∀ line ∈ set.lines, EndsInSlash line) {dir : List String} {name : String}
    (hn : namesFrom set.base p = dir ++ [name]) :
    set.contains p = true ↔ verdict? set.patterns true dir.reverse = some true := by
  have hne : String.intercalate "/" (dir ++ [name]) ≠ "" := by
    have hname : ∀ n ∈ dir ++ [name], Path.IsName n := by
      rw [← hn]
      exact fun _ => isName_of_mem_namesFrom
    exact (Path.normal_intercalate (by simp) hname).nonempty
  have hfile : verdictAt? set.patterns false (dir ++ [name]) = none := by
    rw [verdictAt?_eq_none_iff]
    intro q hq
    exact applies_of_slash (described_of_mem h hq) (hs q.text (List.mem_map_of_mem hq)) hne
  rw [contains_eq_true_iff, hn, List.reverse_concat, verdict?_cons, List.reverse_cons,
    List.reverse_reverse, hfile, Option.none_or]
  simp

/-- The directory that relative paths start from is ignored. -/
def IgnoresStart (set : PathPatternSet) : Prop := verdictAt? set.patterns true [] = some true

instance (set : PathPatternSet) : Decidable set.IgnoresStart :=
  inferInstanceAs (Decidable (_ = _))

/-- If all lines end in slashes, a path is ignored only through a directory above it that one of the
patterns matches. Unless they ignore the directory that paths start from, this is one with a name,
so that the path has two names or more. A path with a single name is ignored exactly if they do. -/
theorem contains_through_directory (h : compile base lines = .ok set)
    (hs : ∀ line ∈ set.lines, EndsInSlash line) (p : Path) :
    (set.contains p = true →
      ∃ dir name rest, namesFrom set.base p = dir ++ name :: rest ∧
        (∃ q ∈ set.patterns, q.negated = false ∧ q.applies true dir = true) ∧
        (¬ set.IgnoresStart → dir ≠ [] ∧ 2 ≤ (namesFrom set.base p).length)) ∧
    ((namesFrom set.base p).length = 1 → (set.contains p = true ↔ set.IgnoresStart)) := by
  constructor
  · intro hc
    obtain ⟨above, name, hn⟩ :=
      (List.eq_nil_or_concat' (namesFrom set.base p)).resolve_left (contains_eq_true_iff.mp hc).1
    obtain ⟨dir, ⟨more, rfl⟩, hv⟩ :=
      exists_level_of_verdict? ((contains_iff_of_slashes h hs hn).mp hc)
    obtain ⟨q, hq, ha, hneg⟩ := verdictAt?_eq_some hv
    obtain ⟨first, rest, hrest⟩ := List.exists_cons_of_ne_nil (List.concat_ne_nil name more)
    have hnames : namesFrom set.base p = dir ++ first :: rest := by
      rw [hn, List.append_assoc, hrest]
    refine ⟨dir, first, rest, hnames, ⟨q, hq, by simpa using hneg, ha⟩, ?_⟩
    intro hstart
    have hdir : dir ≠ [] := by
      rintro rfl
      exact hstart hv
    have hpos := List.length_pos_iff.mpr hdir
    refine ⟨hdir, ?_⟩
    rw [hnames, List.length_append, List.length_cons]
    omega
  · intro hone
    obtain ⟨name, hn⟩ := List.length_eq_one_iff.mp hone
    have hn : namesFrom set.base p = [] ++ [name] := hn
    exact contains_iff_of_slashes h hs hn

def buildSet : PathPatternSet := (compile none ["build*/", "!build/keep/"]).toOption.getD empty

/-- A file below the second of two directories, the first of which is not spoken about. -/
theorem contains_through_directory_build :
    compile none ["build*/", "!build/keep/"] = .ok buildSet ∧
      (∀ line ∈ buildSet.lines, EndsInSlash line) ∧ ¬ buildSet.IgnoresStart ∧
      buildSet.contains ⟨"src/build-a/init.sls"⟩ = true ∧
      (∃ dir, dir ≠ [] ∧ ∃ q ∈ buildSet.patterns, q.negated = false ∧
        q.applies true dir = true) ∧
      buildSet.contains ⟨"build"⟩ ≠ true := by
  have hset : compile none ["build*/", "!build/keep/"] = .ok buildSet := by rfl
  have hlines : ∀ line ∈ buildSet.lines, EndsInSlash line := by decide +kernel
  have hstart : ¬ buildSet.IgnoresStart := by decide +kernel
  have hin : buildSet.contains ⟨"src/build-a/init.sls"⟩ = true := by decide +kernel
  obtain ⟨dir, -, -, -, hq, hdir⟩ := (contains_through_directory hset hlines _).1 hin
  have hone := (contains_through_directory hset hlines ⟨"build"⟩).2 (by decide +kernel)
  exact ⟨hset, hlines, hstart, hin, ⟨dir, (hdir hstart).1, hq⟩, fun hc => hstart (hone.mp hc)⟩

/-- A line that ends in a slash can ignore a path with a single name: a star also stands for no name
at all, and so the directory that paths start from is ignored. -/
theorem star_ignores_single_name :
    ¬ ∀ (base : Option Path) (lines : List String) (set : PathPatternSet) (p : Path),
      compile base lines = .ok set →
      (∀ line ∈ set.lines, EndsInSlash line ∧ '\\' ∉ line.toList) →
      set.contains p = true → 2 ≤ (namesFrom set.base p).length := by
  intro h
  have hlines : ((compile none ["*/"]).toOption.map lines) = some ["*/"] := by decide +kernel
  have hin : ((compile none ["*/"]).toOption.map (·.contains ⟨"a.sls"⟩)) = some true := by
    decide +kernel
  cases hc : compile none ["*/"] with
  | error e => simp [hc, Except.toOption] at hin
  | ok set =>
    rw [hc] at hlines hin
    have hl : set.lines = ["*/"] := Option.some.inj hlines
    have hslash : ∀ line ∈ set.lines, EndsInSlash line ∧ '\\' ∉ line.toList := by
      rw [hl]
      decide +kernel
    have htwo := h none ["*/"] set ⟨"a.sls"⟩ hc hslash (Option.some.inj hin)
    have hone : namesFrom none ⟨"a.sls"⟩ = ["a.sls"] := by decide +kernel
    rw [(compile_eq_ok_iff.mp hc).2, hone] at htwo
    simp at htwo

end PathPatternSet

end StateLint
