import Mathlib.Data.String.Basic
import Mathlib.Logic.Relation
import ComplexityLint.Proofs.Disk.Walk
import ComplexityLint.Proofs.Path.Join

/-!
Making directories. Whatever becomes of a request for a directory, all that it does is to put
directories where nothing was, at the directory itself or above it (`made_makeDirs`); and a
directory in which something is found is there already (`makeDirs_of_locate_join`).
-/

namespace ComplexityLint

namespace Text

/-- A letter for a byte takes three bytes more than it counts. -/
theorem three_mul_countP_le (s : String) : 3 * s.toList.countP isByte ≤ s.utf8ByteSize := by
  rw [← String.utf8Len_toList]
  induction s.toList with
  | nil => simp
  | cons c s ih =>
    rw [List.countP_cons, String.utf8Len_cons]
    split
    · rename_i hc
      have hsize : c.utf8Size = 4 := by
        rw [isByte, decide_eq_true_eq] at hc
        simp only [Char.utf8Size, UInt32.le_iff_toNat_le]
        rw [if_neg (by simp; omega), if_neg (by simp; omega), if_neg (by simp; omega)]
      omega
    · omega

theorem spelledSize_le_append (s t : String) : spelledSize s ≤ spelledSize (s ++ t) := by
  have ht := three_mul_countP_le t
  rw [spelledSize, spelledSize, String.utf8ByteSize_append, String.toList_append,
    List.countP_append]
  omega

end Text

namespace Disk

variable {d d' : Disk} {p dir : Path} {place q : Place}

/-! ### Steps that stay -/

theorem item?_of_step {segment : List Char} (h : d.step q segment = .ok place) :
    d.item? q = some .directory := by
  unfold step at h
  split at h
  · cases h
  · assumption
  · cases h

theorem step_empty (h : d.item? q = some .directory) : d.step q [] = .ok q := by
  simp [step, h]

/-- Slashes at the end lead from a directory to itself. -/
theorem foldlM_slashes {segments : List (List Char)} (h : ∀ s ∈ segments, s = [])
    (hq : d.item? q = some .directory) : segments.foldlM d.step q = .ok q := by
  induction segments with
  | nil => rfl
  | cons s segments ih =>
    obtain ⟨rfl, hs⟩ := List.forall_mem_cons.mp h
    rw [List.foldlM_cons, step_empty hq]
    exact ih hs

/-- Slashes at the end lead nowhere else. -/
theorem eq_of_foldlM_slashes {segments : List (List Char)} (h : ∀ s ∈ segments, s = [])
    (hplace : segments.foldlM d.step q = .ok place) : place = q := by
  induction segments with
  | nil => exact (Except.ok.inj hplace).symm
  | cons s segments ih =>
    obtain ⟨rfl, hs⟩ := List.forall_mem_cons.mp h
    rw [List.foldlM_cons, bind_eq_ok_iff] at hplace
    obtain ⟨next, hnext, hplace⟩ := hplace
    rw [step_empty (item?_of_step hnext)] at hnext
    cases hnext
    exact ih hs hplace

/-- The segments of a path, the empty ones at its end apart. -/
theorem exists_slashes (p : Path) :
    ∃ slashes, p.segments = (p.segments.reverse.dropWhile (· = [])).reverse ++ slashes ∧
      ∀ s ∈ slashes, s = [] := by
  refine ⟨(p.segments.reverse.takeWhile (· = [])).reverse, ?_, fun s hs => ?_⟩
  · rw [← List.reverse_append, List.takeWhile_append_dropWhile, List.reverse_reverse]
  · rw [List.mem_reverse] at hs
    have hempty := List.mem_takeWhile_imp hs
    exact of_decide_eq_true hempty

theorem locateEntry_of_locate (h : d.locate p = .ok place) : d.locateEntry p = .ok place := by
  obtain ⟨slashes, hsegments, hslashes⟩ := exists_slashes p
  unfold locate at h
  unfold locateEntry
  rw [walk_eq_ok_iff] at h ⊢
  obtain ⟨hguard, h⟩ := h
  rw [hsegments, List.foldlM_append] at h
  obtain ⟨at', hat, hplace⟩ := bind_eq_ok_iff.mp h
  rw [eq_of_foldlM_slashes hslashes hplace]
  exact ⟨hguard, hat⟩

theorem locate_of_locateEntry (h : d.locateEntry p = .ok place)
    (hdir : d.item? place = some .directory) : d.locate p = .ok place := by
  obtain ⟨slashes, hsegments, hslashes⟩ := exists_slashes p
  unfold locateEntry at h
  unfold locate
  rw [walk_eq_ok_iff] at h ⊢
  obtain ⟨hguard, h⟩ := h
  refine ⟨hguard, ?_⟩
  rw [hsegments, List.foldlM_append]
  exact bind_eq_ok_iff.mpr ⟨place, h, foldlM_slashes hslashes hdir⟩

theorem isDir_eq_true_iff :
    d.isDir p = true ↔ ∃ place, d.locate p = .ok place ∧ d.item? place = some .directory := by
  unfold isDir
  cases hp : d.locate p with
  | error r => simp [look, hp, bind, Except.bind]
  | ok place =>
    rw [look_of_locate hp]
    rcases hi : d.item? place with _ | _ | _ | _ <;> simp [hi]

namespace Keeps

theorem refl (d : Disk) : Keeps d d := ⟨rfl, fun _ hq => hq⟩

theorem trans {d'' : Disk} (h : Keeps d d') (h' : Keeps d' d'') : Keeps d d'' :=
  ⟨h'.here.trans h.here, fun q hq => h'.directories q (h.directories q hq)⟩

theorem isDir (h : Keeps d d') (hp : d.isDir p = true) : d'.isDir p = true := by
  obtain ⟨place, hplace, hitem⟩ := isDir_eq_true_iff.mp hp
  exact isDir_eq_true_iff.mpr ⟨place, h.walk hplace, h.directories place hitem⟩

end Keeps

/-! ### Making directories -/

/-- A path is a directory or above it, by its spelling. -/
def Above : Path → Path → Prop := Relation.ReflTransGen fun p up => p.parent? = some up

/-- Directories were put where nothing was, at a directory or above it. -/
structure Made (dir : Path) (d d' : Disk) : Prop where
  keeps : Keeps d d'
  items : ∀ q, d'.item? q = d.item? q ∨
    d.item? q = none ∧ d'.item? q = some .directory ∧ ∃ a, Above dir a ∧ d'.locate a = .ok q

namespace Made

theorem refl (dir : Path) (d : Disk) : Made dir d d := ⟨.refl d, fun _ => .inl rfl⟩

theorem trans {d'' : Disk} (h : Made dir d d') (h' : Made dir d' d'') : Made dir d d'' := by
  refine ⟨h.keeps.trans h'.keeps, fun q => ?_⟩
  rcases h'.items q with heq | ⟨hnone, hdir, a, ha, hq⟩
  · rw [heq]
    refine (h.items q).imp_right fun ⟨hnone, hdir, a, ha, hq⟩ => ?_
    exact ⟨hnone, hdir, a, ha, h'.keeps.walk hq⟩
  · rcases h.items q with heq' | ⟨-, hdir', -⟩
    · exact .inr ⟨heq' ▸ hnone, hdir, a, ha, hq⟩
    · rw [hnone] at hdir'
      cases hdir'

/-- What was made for a directory above was made for the directory. -/
theorem below {up : Path} (h : Made up d d') (hup : p.parent? = some up) : Made p d d' := by
  refine ⟨h.keeps, fun q => (h.items q).imp_right ?_⟩
  rintro ⟨hnone, hdir, a, ha, hq⟩
  exact ⟨hnone, hdir, a, .head hup ha, hq⟩

end Made

theorem made_makeDir (h : d.makeDir p = .ok d') : Made p d d' := by
  unfold makeDir at h
  obtain ⟨place, hplace, h⟩ := bind_eq_ok_iff.mp h
  cases hitem : d.item? place with
  | some i => rw [hitem] at h; cases h
  | none =>
    rw [hitem] at h
    cases h
    have hne : d.item? place ≠ some .directory := by simp [hitem]
    have hkeeps : Keeps d (d.put place .directory) := keeps_put hne
    have hput : ∀ q, (d.put place .directory).item? q =
        if q = place then some .directory else d.item? q :=
      fun q => item?_put (ne_nil_of_item?_ne hne)
    refine ⟨hkeeps, fun q => ?_⟩
    by_cases hq : q = place
    · rw [hq]
      have hthere : (d.put place .directory).item? place = some .directory := by
        rw [hput, if_pos rfl]
      exact .inr ⟨hitem, hthere, p, .refl, locate_of_locateEntry (hkeeps.walk hplace) hthere⟩
    · exact .inl (by rw [hput, if_neg hq])

theorem made_settle (p : Path) (d : Disk) : Made p d (makeDirs.settle p d).2 := by
  unfold makeDirs.settle
  cases h : d.makeDir p with
  | ok d' => exact made_makeDir h
  | error r => exact .refl p d

theorem made_go (n : Nat) (p : Path) (d : Disk) : Made p d (makeDirs.go n p d).2 := by
  induction n generalizing p d with
  | zero => exact .refl p d
  | succ n ih =>
    unfold makeDirs.go
    split
    · exact .refl p d
    have hsettle := made_settle p d
    split
    · -- something above is missing
      rename_i d₁ hmissing
      rw [hmissing] at hsettle
      split
      · exact hsettle
      · rename_i up hup
        have habove := (ih up d₁).below hup
        split
        · rename_i d₂ hmade
          rw [hmade] at habove
          exact (hsettle.trans habove).trans (made_settle p d₂)
        · exact hsettle.trans habove
    · exact hsettle

/-- **Making directories** puts them where nothing was, and does nothing else. -/
theorem made_makeDirs (dir : Path) (d : Disk) : Made dir d (d.makeDirs dir).2 := made_go _ dir d

/-! ### Directories that are there -/

theorem makeDirs_of_isDir (h : d.isDir dir = true) : d.makeDirs dir = (.ok (), d) := by
  obtain ⟨place, hplace, hitem⟩ := isDir_eq_true_iff.mp h
  have htaken : d.makeDir dir = .error .taken := by
    simp [makeDir, locateEntry_of_locate hplace, hitem, bind, Except.bind, throw, throwThe,
      MonadExceptOf.throw]
  have hsettle : makeDirs.settle dir d = (.ok (), d) := by
    rw [makeDirs.settle, htaken]
    simp only [h, if_true]
  unfold makeDirs makeDirs.go
  split
  · rfl
  · rw [hsettle]

theorem makeDirs_of_empty (h : dir.spelling = "") (d : Disk) : d.makeDirs dir = (.ok (), d) := by
  unfold makeDirs makeDirs.go
  rw [if_pos h]

/-- Where something is found in a directory, the directory is found. -/
theorem isDir_of_locate_join {n : String} (hn : '/' ∉ n.toList) (hdir : dir.spelling ≠ "")
    (h : d.locate (dir.join ⟨n⟩) = .ok place) : d.isDir dir = true := by
  obtain ⟨more, hjoin⟩ : ∃ more, (dir.join ⟨n⟩).spelling = dir.spelling ++ more := by
    have habs : Path.isAbsolute ⟨n⟩ = false := by
      rw [Path.isAbsolute, decide_eq_false_iff_not]
      exact fun h => hn (List.mem_of_mem_head? h)
    unfold Path.join
    rw [if_neg (by simp [habs])]
    split
    · exact ⟨n, rfl⟩
    · exact ⟨"/" ++ n, String.append_assoc ..⟩
  unfold locate at h
  rw [walk_eq_ok_iff, hjoin, Path.segments_join dir hn, List.foldlM_append] at h
  obtain ⟨⟨-, hzero, hsize⟩, h⟩ := h
  obtain ⟨up, hup, hstep⟩ := bind_eq_ok_iff.mp h
  rw [List.foldlM_cons] at hstep
  obtain ⟨_, hstep, -⟩ := bind_eq_ok_iff.mp hstep
  have hitem := item?_of_step hstep
  refine isDir_eq_true_iff.mpr ⟨up, walk_eq_ok_iff.mpr ⟨⟨hdir, ?_, ?_⟩, ?_⟩, hitem⟩
  · rw [String.toList_append, List.mem_append, not_or] at hzero
    exact hzero.1
  · exact Nat.lt_of_le_of_lt (Text.spelledSize_le_append _ _) hsize
  · have habs : (dir.join ⟨n⟩).isAbsolute = dir.isAbsolute := by
      obtain ⟨c, s, hs⟩ := List.exists_cons_of_ne_nil (show dir.spelling.toList ≠ [] by simpa)
      simp [Path.isAbsolute, hjoin, hs]
    rw [habs] at hup
    rcases Path.segments_cases dir with hslash | ⟨hbase, -⟩
    · rw [hslash, List.foldlM_append]
      exact bind_eq_ok_iff.mpr ⟨up, hup, foldlM_slashes (by simp) hitem⟩
    · rw [hbase]
      exact hup

/-- **A directory in which something is found** need not be made. -/
theorem makeDirs_of_locate_join {n : String} (hn : '/' ∉ n.toList)
    (h : d.locate (dir.join ⟨n⟩) = .ok place) : d.makeDirs dir = (.ok (), d) := by
  by_cases hdir : dir.spelling = ""
  · exact makeDirs_of_empty hdir d
  · exact makeDirs_of_isDir (isDir_of_locate_join hn hdir h)

end Disk

end ComplexityLint
