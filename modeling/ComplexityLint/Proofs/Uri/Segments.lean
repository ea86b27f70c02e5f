import ComplexityLint.Proofs.Path.Join
import ComplexityLint.Proofs.Text.Ascii
import ComplexityLint.Uri.Basic

/-!
The segments of a URI and the steps of the path that it names. Segments that say to stay are gone when
a URI has been read (`resolved_of_parse?`). A last segment that holds no escape and is not empty is
spelt at the end of the path as it stands, so it is the last step of the path
(`getLast?_components_filePath?`).
-/

namespace ComplexityLint.Uri

open Text

/-! ### Segments of a URI that has been read -/

/-- Segments as they are left when a URI is read: without slashes, and none that says to stay. -/
def Resolved (segments : List (List Char)) : Prop := ∀ s ∈ segments, '/' ∉ s ∧ s ≠ ['.']

theorem Resolved.subset {segments segments' : List (List Char)} (h : Resolved segments)
    (hsub : segments' ⊆ segments) : Resolved segments' := fun s hs => h s (hsub hs)

theorem Resolved.cons {s : List Char} {segments : List (List Char)} (h : Resolved segments)
    (hs : '/' ∉ s ∧ s ≠ ['.']) : Resolved (s :: segments) := List.forall_mem_cons.mpr ⟨hs, h⟩

theorem resolved_reverse {segments : List (List Char)} (h : Resolved segments) :
    Resolved segments.reverse := h.subset fun _ hs => List.mem_reverse.mp hs

/-- Going up drops a segment or none. -/
theorem Resolved.above {d : List Char} {ds : List (List Char)} (h : Resolved (d :: ds)) :
    Resolved (if isDrive d then d :: ds else ds) := by
  split
  · exact h
  · exact h.subset (List.subset_cons_self d ds)

theorem resolved_resolve {done segments : List (List Char)} (hdone : Resolved done)
    (hslash : ∀ s ∈ segments, '/' ∉ s) : Resolved (resolve done segments) := by
  have hempty : '/' ∉ ([] : List Char) ∧ [] ≠ ['.'] := by decide
  fun_induction resolve done segments with
  | case1 done => exact resolved_reverse hdone
  | case2 done s =>
    refine resolved_reverse (Resolved.cons ?_ hempty)
    cases done with
    | nil => exact hdone
    | cons d ds => exact hdone.above
  | case3 done s rest _ hup hrest ih =>
    refine ih ?_ (List.forall_mem_cons.mp hslash).2
    cases done with
    | nil => exact hdone
    | cons d ds => exact hdone.above
  | case4 done s hup hstay => exact resolved_reverse (hdone.cons hempty)
  | case5 done s rest hup hstay hrest ih => exact ih hdone (List.forall_mem_cons.mp hslash).2
  | case6 done s rest hup hstay ih =>
    obtain ⟨hs, hrest⟩ := List.forall_mem_cons.mp hslash
    have hdot : s ≠ ['.'] := by
      rintro rfl
      exact hstay rfl
    exact ih (hdone.cons ⟨hs, hdot⟩) hrest

theorem resolved_segmentsOf (path : List Char) : Resolved (segmentsOf path) :=
  resolved_resolve (fun _ hs => absurd hs List.not_mem_nil) fun _ hs => notMem_of_mem_pieces hs

theorem resolved_dropEmpty {segments : List (List Char)} (h : Resolved segments) :
    Resolved (dropEmpty segments) := by
  fun_induction dropEmpty segments with
  | case1 s rest ih => exact ih (h.subset (List.subset_cons_self _ _))
  | case2 => exact h

theorem resolved_ofFile {host : Host} {segments kept : List (List Char)} (h : Resolved segments)
    (hkept : (ofFile host segments).segments = some kept) : Resolved kept := by
  cases hkept
  exact resolved_dropEmpty h

theorem resolved_ofDrive {host : Host} {segments kept : List (List Char)} (h : Resolved segments)
    (hkept : (ofDrive host segments).segments = some kept) : Resolved kept := by
  unfold ofDrive at hkept
  split at hkept
  · rename_i c d rest
    split at hkept
    · -- the letter of a drive and a colon
      obtain ⟨hdrive, hrest⟩ := List.forall_mem_cons.mp h
      have hc : c ≠ '/' := fun heq => hdrive.1 (by simp [heq])
      have hcolon : '/' ∉ [c, ':'] ∧ [c, ':'] ≠ ['.'] := by simp [hc.symm]
      exact resolved_ofFile (Resolved.cons hrest hcolon) hkept
    · exact resolved_ofFile h hkept
  · exact resolved_ofFile h hkept

theorem resolved_of_file? {s : List Char} {u : Uri} (h : file? s = some u)
    {segments : List (List Char)} (hsegments : u.segments = some segments) : Resolved segments := by
  unfold file? at h
  split at h
  · dsimp only at h
    split at h
    · cases h
      exact resolved_ofDrive (resolved_segmentsOf _) hsegments
    · split at h
      · cases h
        exact resolved_ofFile (resolved_segmentsOf _) hsegments
      · obtain ⟨host, -, rfl⟩ := Option.map_eq_some_iff.mp h
        split at hsegments
        · exact resolved_ofFile (resolved_segmentsOf _) hsegments
        · exact resolved_ofDrive (resolved_segmentsOf _) hsegments
  · cases h
    exact resolved_ofFile (resolved_segmentsOf _) hsegments
  · cases h
    exact resolved_ofDrive (resolved_segmentsOf _) hsegments

/-- **What is left of a path when a URI is read** says nowhere to stay. -/
theorem resolved_of_parse? {text : String} {u : Uri} (h : parse? text = some u)
    {segments : List (List Char)} (hsegments : u.segments = some segments) : Resolved segments := by
  obtain ⟨⟨scheme, rest⟩, -, h⟩ := Option.bind_eq_some_iff.mp h
  dsimp only at h
  split at h
  · exact resolved_of_file? h hsegments
  split at h
  · obtain ⟨⟨host, path⟩, -, h⟩ := Option.bind_eq_some_iff.mp h
    cases h
    cases hsegments
    exact resolved_segmentsOf path
  split at h
  · obtain ⟨⟨host, path⟩, -, h⟩ := Option.bind_eq_some_iff.mp h
    cases h
    obtain ⟨-, hsegments⟩ := Option.ite_none_left_eq_some.mp hsegments
    cases hsegments
    exact resolved_segmentsOf path
  · cases h
    cases hsegments
    exact resolved_segmentsOf _
  · cases h
    cases hsegments

/-! ### Segments without escapes -/

theorem decodeBytes_of_notMem {s : List Char} (h : '%' ∉ s) : decodeBytes s = bytesOf s := by
  fun_induction decodeBytes s with
  | case1 => simp at h
  | case2 => simp at h
  | case3 c s _ ih =>
    rw [ih fun hs => h (List.mem_cons_of_mem c hs), bytesOf, bytesOf, List.flatMap_cons]
  | case4 => rfl

theorem decode_of_notMem {s : List Char} (h : '%' ∉ s) : decode s = s.flatMap lettersOf := by
  rw [decode, decodeBytes_of_notMem h, spell_bytesOf]

/-! ### The path of a URI -/

/-- The steps of a path that starts with a slash. -/
theorem components_of_slash (s : List Char) :
    (⟨String.ofList ('/' :: s)⟩ : Path).components =
      .root :: (pieces '/' s).filterMap Component.ofSegment? := by
  rw [Path.components_eq, Path.segments, String.toList_ofList, pieces_cons_sep,
    Path.stepsOf_nil_cons (pieces_ne_nil s)]

/-- A slash at the end is no step. -/
theorem components_closeDrive (s : List Char) :
    (⟨String.ofList (closeDrive ('/' :: s))⟩ : Path).components =
      (⟨String.ofList ('/' :: s)⟩ : Path).components := by
  have hslash : (⟨String.ofList ('/' :: s ++ ['/'])⟩ : Path).components =
      (⟨String.ofList ('/' :: s)⟩ : Path).components := by
    rw [List.cons_append, components_of_slash, components_of_slash, pieces_append_sep,
      List.filterMap_append]
    exact congrArg (Component.root :: ·) (List.append_nil _)
  unfold closeDrive
  split
  · split
    · exact hslash
    · rfl
  · rfl

/-- The steps of the path of a URI end with what its last segment spells. -/
theorem exists_components_filePath? {u : Uri} {p : Path} (hp : u.filePath? = some p)
    {init : List (List Char)} {last : List Char} (hsegments : u.segments = some (init ++ [last]))
    (hslash : '/' ∉ decode last) :
    ∃ front, p.components = Path.stepsOf (front ++ [decode last]) := by
  unfold filePath? at hp
  split at hp
  · rename_i segments _ hsome
    cases hp
    obtain rfl : init ++ [last] = segments := Option.some.inj (hsegments.symm.trans hsome)
    let front := init.flatMap fun s => '/' :: decode s
    have hflat : (init ++ [last]).flatMap (fun s => '/' :: decode s) = front ++ '/' :: decode last := by
      rw [List.flatMap_append, List.flatMap_singleton]
    obtain ⟨s, hs⟩ : ∃ s, front ++ '/' :: decode last = '/' :: s := by
      cases init with
      | nil => exact ⟨_, rfl⟩
      | cons first init => exact ⟨_, rfl⟩
    refine ⟨pieces '/' front, ?_⟩
    rw [hflat, hs, components_closeDrive, ← hs, Path.components_eq, Path.segments,
      String.toList_ofList, pieces_append_sep, pieces_of_notMem hslash]
  · cases hp

/-- **A last segment without escapes** is spelt at the end of the path, unless it is empty. -/
theorem getLast?_components_filePath? {u : Uri} {p : Path} (hp : u.filePath? = some p)
    {init : List (List Char)} {last : List Char} (hsegments : u.segments = some (init ++ [last]))
    (hlast : '/' ∉ last ∧ last ≠ ['.']) (hne : last ≠ []) (hplain : '%' ∉ last) :
    p.components.getLast? = Component.ofSegment? (last.flatMap lettersOf) := by
  have hdecode : decode last = last.flatMap lettersOf := decode_of_notMem hplain
  have hslash : '/' ∉ decode last := by
    rw [hdecode, mem_flatMap_lettersOf (by decide)]
    exact hlast.1
  obtain ⟨front, hsteps⟩ := exists_components_filePath? hp hsegments hslash
  rw [hsteps, Path.getLast?_stepsOf, hdecode]
  rw [hdecode]
  rintro (hnil | hdot)
  · exact hne (eq_of_flatMap_lettersOf (by simp) hnil)
  · exact hlast.2 (eq_of_flatMap_lettersOf (by simp) hdot)

end ComplexityLint.Uri
