import Mathlib.Data.List.Infix
import Mathlib.Tactic.ByContra
import ComplexityLint.Proofs.Path

/-!
A name in a directory. However the directory is written, with slashes or dots at its end, as the
root or not at all, the path of a name in it has the steps of the directory and then the name
(`components_join`), and the directory above a path has its steps but for the last one
(`parent?_cases`). Also what names there are in paths, and where a name has its extension.
-/

namespace ComplexityLint

namespace Path

open Text (pieces)

/-! ### Steps and segments -/

/-- The steps that some segments stand for. -/
def stepsOf : List (List Char) → List Component
  | [] => []
  | s :: rest =>
    let first :=
      if s = [] ∧ rest ≠ [] then some .root
      else if s = ['.'] then some .here
      else Component.ofSegment? s
    first.toList ++ rest.filterMap Component.ofSegment?

theorem components_eq (p : Path) : p.components = stepsOf p.segments := by
  unfold components stepsOf
  cases p.segments <;> rfl

/-- Segments that stand for no step behind others. -/
abbrev Idle (s : List Char) : Prop := s = [] ∨ s = ['.']

/-- A text that is a file name. -/
structure Plain (n : List Char) : Prop where
  slash : '/' ∉ n
  busy : ¬ Idle n
  down : n ≠ ['.', '.']

theorem Plain.ofSegment? {n : List Char} (hn : Plain n) : Component.ofSegment? n = some (.name n) := by
  rw [Component.ofSegment?, if_neg hn.busy, if_neg hn.down]

theorem filterMap_idle {segments : List (List Char)} (h : ∀ s ∈ segments, Idle s) :
    segments.filterMap Component.ofSegment? = [] := by
  rw [List.filterMap_eq_nil_iff]
  exact fun s hs => if_pos (h s hs)

/-- What stands behind a first segment and is not nothing counts step by step. -/
theorem stepsOf_append {s : List Char} {rest more : List (List Char)}
    (h : s = [] → rest ≠ [] ∨ more = []) :
    stepsOf (s :: rest ++ more) = stepsOf (s :: rest) ++ more.filterMap Component.ofSegment? := by
  have hroot : (s = [] ∧ rest ++ more ≠ []) ↔ (s = [] ∧ rest ≠ []) := by
    rw [and_congr_right_iff]
    intro hs
    rcases h hs with hrest | hmore
    · simp [hrest]
    · rw [hmore, List.append_nil]
  simp only [stepsOf, List.cons_append, hroot, List.filterMap_append, List.append_assoc]

theorem stepsOf_nil_cons {rest : List (List Char)} (h : rest ≠ []) :
    stepsOf ([] :: rest) = .root :: rest.filterMap Component.ofSegment? := by
  simp [stepsOf, h]

/-- A path starts at the root exactly if its first step is the root. -/
theorem head?_components (p : Path) : p.components.head? = some .root ↔ p.isAbsolute = true := by
  rw [components_eq, segments, isAbsolute, decide_eq_true_iff]
  cases p.spelling.toList with
  | nil => simp [Text.pieces, stepsOf, Component.ofSegment?]
  | cons c s =>
    by_cases hc : c = '/'
    · rw [hc, Text.pieces_cons_sep, stepsOf_nil_cons (Text.pieces_ne_nil s)]
      simp
    · obtain ⟨first, rest, -, hpieces⟩ := Text.exists_pieces_cons hc s
      rw [hpieces, stepsOf]
      -- a first segment that is not empty stands for another step than the root
      by_cases hdot : c :: first = ['.']
      · simp [hdot, hc]
      · by_cases hup : c :: first = ['.', '.'] <;> simp [hdot, hup, hc, Component.ofSegment?]

theorem stepsOf_singleton {n : List Char} (hn : Plain n) : stepsOf [n] = [.name n] := by
  have hdot : n ≠ ['.'] := fun h => hn.busy (.inr h)
  simp [stepsOf, hdot, hn.ofSegment?]

theorem exists_ofSegment? {s : List Char} (hbusy : ¬ Idle s) :
    ∃ c, Component.ofSegment? s = some c := by
  rw [Component.ofSegment?, if_neg hbusy]
  split <;> exact ⟨_, rfl⟩

/-- The last step is that of the last segment, if that stands for one. -/
theorem getLast?_stepsOf (init : List (List Char)) {last : List Char} (hbusy : ¬ Idle last) :
    (stepsOf (init ++ [last])).getLast? = Component.ofSegment? last := by
  obtain ⟨c, hc⟩ := exists_ofSegment? hbusy
  rcases init with _ | ⟨s, rest⟩
  · have hdot : last ≠ ['.'] := fun h => hbusy (.inr h)
    simp [stepsOf, hdot, hc]
  · have hmore : [last].filterMap Component.ofSegment? = [c] := by simp [hc]
    simp only [stepsOf, List.cons_append, List.filterMap_append, hmore]
    rw [← List.append_assoc, List.getLast?_concat, hc]

/-! ### Joining -/

/-- The segments of a directory, but for the empty one behind a slash at its end. -/
def base (dir : Path) : List (List Char) :=
  if dir.segments.getLast? = some [] then dir.segments.dropLast else dir.segments

theorem segments_join_of_relative (dir : Path) {p : Path} (hp : p.isAbsolute = false) :
    (dir.join p).segments = dir.base ++ p.segments := by
  rw [join, if_neg (by simp [hp])]
  by_cases hnil : dir.spelling = ""
  · rw [if_pos (.inl hnil)]
    simp [segments, base, hnil, pieces]
  obtain ⟨s, c, hs⟩ := (List.eq_nil_or_concat dir.spelling.toList).resolve_left (by simpa using hnil)
  rw [List.concat_eq_append] at hs
  obtain ⟨ps, q, hps, hq, hsep⟩ := Text.pieces_concat '/' s c
  have hsegments : dir.segments = ps ++ [q] := by rw [segments, hs, hps]
  have hends : dir.endsWithSlash = true ↔ c = '/' := by simp [endsWithSlash, hs]
  by_cases hc : c = '/'
  · rw [if_pos (.inr (hends.mpr hc)), base, hsegments, hq.mpr hc, List.getLast?_concat, if_pos rfl,
      List.dropLast_concat, hsep hc, segments, String.toList_append, hs, hc, List.append_assoc,
      List.singleton_append, Text.pieces_append_sep]
    rfl
  · have hlast : (ps ++ [q]).getLast? ≠ some [] := by
      rw [List.getLast?_concat, Ne, Option.some.injEq, hq]
      exact hc
    rw [if_neg (by simp [hnil, hends, hc]), base, hsegments, if_neg hlast, ← hsegments, segments,
      segments, String.toList_append, String.toList_append, List.append_assoc]
    change pieces '/' (dir.spelling.toList ++ '/' :: p.spelling.toList) = _
    rw [Text.pieces_append_sep]
    rfl

theorem isAbsolute_of_notMem {n : String} (hn : '/' ∉ n.toList) : isAbsolute ⟨n⟩ = false := by
  rw [isAbsolute, decide_eq_false_iff_not]
  exact fun h => hn (List.mem_of_mem_head? h)

theorem segments_join (dir : Path) {n : String} (hn : '/' ∉ n.toList) :
    (dir.join ⟨n⟩).segments = dir.base ++ [n.toList] := by
  rw [segments_join_of_relative dir (isAbsolute_of_notMem hn)]
  exact congrArg (dir.base ++ ·) (Text.pieces_of_notMem hn)

/-- A directory by its base: as it is, or with an empty segment behind it. -/
theorem segments_cases (dir : Path) :
    dir.segments = dir.base ++ [[]] ∨ dir.segments = dir.base ∧ dir.base.getLast? ≠ some [] := by
  unfold base
  split
  · rename_i hlast
    obtain ⟨ps, hps⟩ := List.getLast?_eq_some_iff.mp hlast
    exact .inl (by rw [hps, List.dropLast_concat])
  · rename_i hlast
    exact .inr ⟨rfl, hlast⟩

theorem stepsOf_eq_nil {s : List Char} {rest : List (List Char)} (h : stepsOf (s :: rest) = []) :
    s = [] ∧ rest = [] := by
  rw [stepsOf, List.append_eq_nil_iff] at h
  obtain ⟨hfirst, -⟩ := h
  split at hfirst
  · cases hfirst
  · rename_i hroot
    split at hfirst
    · cases hfirst
    · rename_i hdot
      rw [Option.toList_eq_nil_iff, Component.ofSegment?] at hfirst
      split at hfirst
      · rename_i hidle
        have hs : s = [] := hidle.resolve_right hdot
        exact ⟨hs, by_contra fun hrest => hroot ⟨hs, hrest⟩⟩
      · split at hfirst <;> cases hfirst

/-- Only the empty path has no steps. -/
theorem base_eq_nil_iff (dir : Path) : dir.base = [] ↔ dir.components = [] := by
  rw [components_eq]
  constructor
  · intro hbase
    rcases segments_cases dir with hslash | ⟨hself, -⟩
    · rw [hslash, hbase]
      rfl
    · exact absurd (hself.trans hbase) (Text.pieces_ne_nil _)
  · intro hsteps
    rcases hs : dir.segments with _ | ⟨s, rest⟩
    · exact absurd hs (Text.pieces_ne_nil _)
    · rw [hs] at hsteps
      obtain ⟨rfl, rfl⟩ := stepsOf_eq_nil hsteps
      rw [base, hs]
      rfl

/-- The steps of a path in a directory that is not the empty path: those of the directory, and then
one for each segment that stands for any. -/
theorem components_join_of_relative (dir : Path) (hdir : dir.components ≠ []) {p : Path}
    (hp : p.isAbsolute = false) :
    (dir.join p).components =
      dir.components ++ p.segments.filterMap Component.ofSegment? := by
  obtain ⟨s, rest, hb⟩ := List.exists_cons_of_ne_nil (mt (base_eq_nil_iff dir).mp hdir)
  rw [components_eq, components_eq, segments_join_of_relative dir hp, hb]
  rcases segments_cases dir with hslash | ⟨hself, hlast⟩
  · -- behind a slash at the end the path takes the place of the empty segment
    have hidle : [([] : List Char)].filterMap Component.ofSegment? = [] :=
      filterMap_idle (by simp [Idle])
    have hstep : ∀ more : List (List Char), more ≠ [] → stepsOf (s :: rest ++ more) =
        stepsOf [s, []] ++ (rest ++ more).filterMap Component.ofSegment? := fun more hmore => by
      have hroot : (s = [] ∧ rest ++ more ≠ []) ↔ (s = [] ∧ [([] : List Char)] ≠ []) := by
        simp [hmore]
      simp only [stepsOf, List.cons_append, hroot, hidle, List.append_nil]
    rw [hslash, hb, hstep p.segments (Text.pieces_ne_nil _), hstep [[]] (List.cons_ne_nil _ _),
      List.filterMap_append, List.filterMap_append, hidle, List.append_nil, List.append_assoc]
  · rw [hself, hb, stepsOf_append]
    rintro rfl
    refine .inl fun hrest => hlast ?_
    rw [hb, hrest]
    rfl

/-- **The steps of a name in a directory.** -/
theorem components_join (dir : Path) {n : String} (hn : Plain n.toList) :
    (dir.join ⟨n⟩).components = dir.components ++ [.name n.toList] := by
  have hname : segments ⟨n⟩ = [n.toList] := Text.pieces_of_notMem hn.slash
  by_cases hdir : dir.components = []
  · rw [components_eq, segments_join dir hn.slash, (base_eq_nil_iff dir).mpr hdir, hdir,
      List.nil_append, stepsOf_singleton hn, List.nil_append]
  · rw [components_join_of_relative dir hdir (isAbsolute_of_notMem hn.slash), hname]
    simp [hn.ofSegment?]

/-- A path in two directories with the same steps. -/
theorem same_join {dir dir' : Path} (h : dir.same dir' = true) (p : Path) :
    (dir.join p).same (dir'.join p) = true := by
  rw [same_iff] at h ⊢
  cases hp : p.isAbsolute with
  | true => rw [join, if_pos hp, join, if_pos hp]
  | false =>
    by_cases hdir : dir.components = []
    · have hdir' : dir'.components = [] := h ▸ hdir
      rw [components_eq, components_eq, segments_join_of_relative dir hp,
        segments_join_of_relative dir' hp, (base_eq_nil_iff dir).mpr hdir,
        (base_eq_nil_iff dir').mpr hdir']
    · rw [components_join_of_relative dir hdir hp, components_join_of_relative dir' (h ▸ hdir) hp, h]

/-! ### The directory above -/

/-- Only segments that stand for no step are dropped, and something is left. -/
theorem exists_dropIdle {l : List (List Char)} (hne : l ≠ []) :
    ∃ idles, l = idles ++ dropIdle l ∧ (∀ s ∈ idles, Idle s) ∧ dropIdle l ≠ [] := by
  fun_induction dropIdle l with
  | case1 => exact absurd rfl hne
  | case2 s => exact ⟨[], rfl, by simp, by simp⟩
  | case3 s t rest hidle ih =>
    obtain ⟨idles, hl, hidles, hkept⟩ := ih (by simp)
    refine ⟨s :: idles, by rw [List.cons_append, ← hl], ?_, hkept⟩
    exact List.forall_mem_cons.mpr ⟨hidle, hidles⟩
  | case4 s t rest hbusy => exact ⟨[], rfl, by simp, by simp⟩

/-- Read from the front, what is dropped stands behind what is left and stands for no step. -/
theorem exists_reverse_dropIdle {l : List (List Char)} (hne : l ≠ []) :
    ∃ idles, l.reverse = (dropIdle l).reverse ++ idles ∧
      idles.filterMap Component.ofSegment? = [] ∧ dropIdle l ≠ [] := by
  obtain ⟨idles, hl, hidles, hleft⟩ := exists_dropIdle hne
  refine ⟨idles.reverse, ?_, ?_, hleft⟩
  · rw [← List.reverse_append, ← hl]
  · exact filterMap_idle fun s hs => hidles s (List.mem_reverse.mp hs)

/-- What is left starts with a segment that stands for a step, unless it is the only one. -/
theorem busy_of_dropIdle {l : List (List Char)} {s t : List Char} {rest : List (List Char)}
    (h : dropIdle l = s :: t :: rest) : ¬ Idle s := by
  fun_induction dropIdle l with
  | case1 => cases h
  | case2 => cases h
  | case3 _ _ _ _ ih => exact ih h
  | case4 _ _ _ hbusy =>
    cases h
    exact hbusy

/-- Behind some segments others count step by step, except behind a slash in front. -/
theorem stepsOf_append_of_ne {kept : List (List Char)} (hne : kept ≠ []) (hroot : kept ≠ [[]])
    (more : List (List Char)) :
    stepsOf (kept ++ more) = stepsOf kept ++ more.filterMap Component.ofSegment? := by
  obtain ⟨s, rest, rfl⟩ := List.exists_cons_of_ne_nil hne
  refine stepsOf_append ?_
  rintro rfl
  exact .inl fun hrest => hroot (by rw [hrest])

/-- Segments that were joined by slashes are those of the path. -/
theorem segments_intercalate {kept : List (List Char)} (hne : kept ≠ [])
    (hslash : ∀ s ∈ kept, '/' ∉ s) :
    segments ⟨"/".intercalate (kept.map String.ofList)⟩ = kept := by
  have hself : (kept.map String.ofList).map String.toList = kept := by simp
  rw [segments, String.toList_intercalate, hself]
  exact Text.pieces_intercalate hne hslash

/-- **The directory above a path** has its steps but for the last one, however the path is written.
Only the root and the empty path have none. -/
theorem parent?_cases (p : Path) :
    p.parent? = none ∧ (p.components = [] ∨ p.components = [.root]) ∨
      ∃ up, p.parent? = some up ∧ up.components = p.components.dropLast := by
  have hne : p.segments.reverse ≠ [] := by
    rw [Ne, List.reverse_eq_nil_iff]
    exact Text.pieces_ne_nil _
  obtain ⟨idles, hsegments, hidles, hleft⟩ := exists_reverse_dropIdle hne
  rw [List.reverse_reverse] at hsegments
  unfold parent?
  rw [components_eq]
  rcases hkept : dropIdle p.segments.reverse with _ | ⟨s, _ | ⟨t, rest⟩⟩
  · exact absurd hkept hleft
  · rw [hkept, List.reverse_singleton] at hsegments
    by_cases hs : s = []
    · -- nothing but a slash in front, or not even that
      refine .inl ⟨by simp [hs], ?_⟩
      by_cases hmore : idles = []
      · exact .inl (by rw [hsegments, hmore, hs]; rfl)
      · refine .inr ?_
        rw [hsegments, hs, List.singleton_append, stepsOf_nil_cons hmore, hidles]
    · refine .inr ⟨⟨""⟩, by simp [hs], ?_⟩
      have hone : [s] ≠ [[]] := by simpa using hs
      have honly : ∀ first : Option Component, first.toList.dropLast = [] := by
        rintro (_ | _) <;> rfl
      rw [hsegments, stepsOf_append_of_ne (by simp) hone, hidles, List.append_nil, stepsOf,
        List.filterMap_nil, List.append_nil, honly]
      rfl
  · obtain ⟨c, hc⟩ := exists_ofSegment? (busy_of_dropIdle hkept)
    obtain ⟨inner, hinner, hidles', hleft'⟩ := exists_reverse_dropIdle (List.cons_ne_nil t rest)
    have hsplit : p.segments = (dropIdle (t :: rest)).reverse ++ (inner ++ s :: idles) := by
      rw [hsegments, hkept, List.reverse_cons, hinner, List.append_assoc, List.append_assoc,
        List.singleton_append]
    have hlast : (inner ++ s :: idles).filterMap Component.ofSegment? = [c] := by
      rw [List.filterMap_append, hidles', List.filterMap_cons, hc, hidles, List.nil_append]
    refine .inr ?_
    by_cases hone : dropIdle (t :: rest) = [[]]
    · refine ⟨⟨"/"⟩, by simp [hone], ?_⟩
      rw [hsplit, hone, List.reverse_singleton, List.singleton_append, stepsOf_nil_cons (by simp),
        hlast]
      rfl
    · have hne' : (dropIdle (t :: rest)).reverse ≠ [] := by simpa using hleft'
      have hmany : (dropIdle (t :: rest)).reverse ≠ [[]] := by
        intro heq
        rw [List.reverse_eq_iff] at heq
        exact hone heq
      have hslash : ∀ q ∈ (dropIdle (t :: rest)).reverse, '/' ∉ q := by
        intro q hq
        have hmem : q ∈ p.segments := by
          rw [hsplit]
          exact List.mem_append_left _ hq
        exact Text.notMem_of_mem_pieces hmem
      refine ⟨⟨"/".intercalate ((dropIdle (t :: rest)).reverse.map String.ofList)⟩,
        by simp [hone], ?_⟩
      rw [components_eq, segments_intercalate hne' hslash, hsplit,
        stepsOf_append_of_ne hne' hmany, hlast, List.dropLast_concat]

/-- The directory above a path is above it. -/
theorem above_of_parent? {p up : Path} (h : p.parent? = some up) : up.components <+: p.components := by
  rcases p.parent?_cases with ⟨hnone, -⟩ | ⟨up', hup, hsteps⟩
  · cases hnone.symm.trans h
  · cases hup.symm.trans h
    rw [hsteps]
    exact List.dropLast_prefix _

/-- **The directory above a name in a directory** has the steps of the directory. -/
theorem parent?_join (dir : Path) {n : String} (hn : Plain n.toList) :
    ∃ up, (dir.join ⟨n⟩).parent? = some up ∧ up.same dir = true := by
  have hsteps := components_join dir hn
  rcases (dir.join ⟨n⟩).parent?_cases with ⟨-, hnone | hroot⟩ | ⟨up, hup, hsame⟩
  · rw [hsteps] at hnone
    simp at hnone
  · rw [hsteps] at hroot
    simpa using congrArg List.getLast? hroot
  · refine ⟨up, hup, same_iff.mpr ?_⟩
    rw [hsame, hsteps, List.dropLast_concat]

/-! ### File names -/

theorem plain_of_ofSegment? {s n : List Char} (hs : '/' ∉ s)
    (h : Component.ofSegment? s = some (.name n)) : Plain n := by
  unfold Component.ofSegment? at h
  split at h
  · cases h
  · rename_i hbusy
    split at h
    · cases h
    · rename_i hdown
      cases h
      exact ⟨hs, hbusy, hdown⟩

/-- The names in a path are file names. -/
theorem plain_of_mem_components {p : Path} {n : List Char} (h : .name n ∈ p.components) :
    Plain n := by
  have hslash : ∀ s ∈ p.segments, '/' ∉ s := fun s hs => Text.notMem_of_mem_pieces hs
  unfold components at h
  rcases hseg : p.segments with _ | ⟨s, rest⟩
  · rw [hseg] at h
    cases h
  rw [hseg] at h hslash
  obtain ⟨hs, hrest⟩ := List.forall_mem_cons.mp hslash
  rcases List.mem_append.mp h with hfirst | hlater
  · split at hfirst
    · cases List.mem_singleton.mp hfirst
    · split at hfirst
      · cases List.mem_singleton.mp hfirst
      · exact plain_of_ofSegment? hs (Option.mem_toList.mp hfirst)
  · obtain ⟨t, ht, hname⟩ := List.mem_filterMap.mp hlater
    exact plain_of_ofSegment? (hrest t ht) hname

theorem plain_of_fileName? {p : Path} {n : List Char} (h : p.fileName? = some n) : Plain n := by
  unfold fileName? at h
  split at h
  · rename_i m hlast
    cases h
    exact plain_of_mem_components (List.mem_of_getLast? hlast)
  · cases h

theorem fileName?_eq_some_iff {p : Path} {n : List Char} :
    p.fileName? = some n ↔ p.components.getLast? = some (.name n) := by
  unfold fileName?
  split
  · rename_i m hlast
    rw [hlast, Option.some.injEq, Option.some.injEq, Component.name.injEq]
  · rename_i hother
    exact iff_of_false nofun (hother n)

theorem ofSegment?_eq_name_iff {s n : List Char} :
    Component.ofSegment? s = some (.name n) ↔ s = n ∧ ¬ Idle n ∧ n ≠ ['.', '.'] := by
  unfold Component.ofSegment?
  split
  · rename_i hidle
    exact iff_of_false nofun fun h => h.2.1 (h.1 ▸ hidle)
  · rename_i hbusy
    split
    · rename_i hup
      exact iff_of_false nofun fun h => h.2.2 (h.1 ▸ hup)
    · rename_i hdown
      rw [Option.some.injEq, Component.name.injEq]
      exact ⟨fun h => ⟨h, h ▸ hbusy, h ▸ hdown⟩, fun h => h.1⟩

theorem fileName?_of_components {p : Path} {cs : List Component} {n : List Char}
    (h : p.components = cs ++ [.name n]) : p.fileName? = some n := by
  rw [fileName?, h, List.getLast?_concat]

/-- A path with a file name ends with it, or with a segment that stands for no step. -/
theorem ofSegment?_of_fileName? {p : Path} {n last : List Char} {init : List (List Char)}
    (h : p.fileName? = some n) (hsegments : p.segments = init ++ [last]) (hbusy : ¬ Idle last) :
    Component.ofSegment? last = some (.name n) := by
  rw [← getLast?_stepsOf init hbusy, ← hsegments, ← components_eq]
  unfold fileName? at h
  split at h
  · rename_i m hlast
    cases h
    exact hlast
  · cases h

/-- The stem of a name is not empty and holds characters of the name. -/
theorem stem_splitName {n : List Char} (hn : n ≠ []) :
    (splitName n).1 ≠ [] ∧ ∀ c ∈ (splitName n).1, c ∈ n := by
  simp only [splitName]
  split
  · exact ⟨hn, fun _ hc => hc⟩
  · rename_i hstem
    exact ⟨fun h => hstem (.inr h), fun _ hc => List.mem_of_mem_take hc⟩

/-- What stands behind the last dot is the extension, if something stands before it. -/
theorem splitName_append {t e : List Char} (ht : t ≠ []) (he : '.' ∉ e) :
    splitName (t ++ '.' :: e) = (t, some e) := by
  have hext : ((t ++ '.' :: e).reverse.takeWhile (· ≠ '.')).reverse = e := by
    rw [List.reverse_append, List.reverse_cons, List.append_assoc,
      List.takeWhile_append_of_pos (fun c hc => ?_), List.singleton_append,
      List.takeWhile_cons_of_neg (by simp), List.append_nil, List.reverse_reverse]
    rw [List.mem_reverse] at hc
    exact decide_eq_true fun h => he (h ▸ hc)
  have hlen : (t ++ '.' :: e).length - e.length - 1 = t.length := by
    rw [List.length_append, List.length_cons]
    omega
  have hlong : e.length ≠ (t ++ '.' :: e).length := by
    rw [List.length_append, List.length_cons]
    omega
  simp only [splitName, hext, hlen, List.take_left', hlong, ht, or_self, if_false]

theorem fileName?_congr {p q : Path} (h : p.same q = true) : p.fileName? = q.fileName? := by
  rw [fileName?, fileName?, same_iff.mp h]

end Path

end ComplexityLint
