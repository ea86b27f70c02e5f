import ComplexityLint.Disk.Basic
import ComplexityLint.Proofs.Keyed
import ComplexityLint.Proofs.Text.Pieces

/-!
Where paths lead after a disk has changed. A walk passes directories only, so whatever happens to a
file, every path that led somewhere still leads there (`Keeps.walk`). Hence a file that was removed
is gone for its path, and a file that was made is found under its path.
-/

namespace ComplexityLint.Disk

open Text (pieces)

variable {d d' : Disk} {p : Path} {place q : Place} {i : Item}

/-! ### Single places -/

theorem item?_put (hplace : place ≠ []) :
    (d.put place i).item? q = if q = place then some i else d.item? q := by
  have hput : (d.put place i).items.lookup q =
      if q = place then some i else d.items.lookup q := by
    unfold put
    split
    · rename_i hmem
      obtain ⟨j, hj⟩ := Option.isSome_iff_exists.mp hmem
      rw [lookup_replace]
      by_cases hq : q = place <;> simp [hq, hj]
    · rename_i hmem
      rw [List.lookup_append, lookup_cons, List.lookup_nil]
      by_cases hq : q = place
      · rw [hq, Option.not_isSome_iff_eq_none.mp hmem, if_pos rfl, Option.none_or]
      · rw [if_neg hq, Option.or_none, if_neg hq]
  unfold item?
  rw [hput]
  by_cases hq : q = place <;> simp [hq, hplace]

theorem item?_erase (hplace : place ≠ []) :
    (d.erase place).item? q = if q = place then none else d.item? q := by
  unfold item? erase
  rw [lookup_filter_ne]
  by_cases hq : q = place <;> simp [hq, hplace]

/-! ### Walks -/

theorem bind_eq_ok_iff {α β : Type} {x : Except Refusal α} {f : α → Except Refusal β} {b : β} :
    (x >>= f) = .ok b ↔ ∃ a, x = .ok a ∧ f a = .ok b := by
  cases x <;> simp [bind, Except.bind]

theorem walk_eq_ok_iff {segments : List (List Char)} :
    d.walk p segments = .ok place ↔
      (p.spelling ≠ "" ∧ '\x00' ∉ p.spelling.toList ∧ Text.spelledSize p.spelling < 4096) ∧
        segments.foldlM d.step (if p.isAbsolute then [] else d.here) = .ok place := by
  unfold walk
  by_cases hnil : p.spelling = ""
  · simp [hnil]
  by_cases hzero : '\x00' ∈ p.spelling.toList
  · simp [hnil, hzero]
  by_cases hlong : 4096 ≤ Text.spelledSize p.spelling
  · simp [hnil, hzero, hlong, Nat.not_lt.mpr hlong]
  · simp [hnil, hzero, hlong, Nat.not_le.mp hlong]

/-- A disk that is seen from the same directory and has all directories of another. -/
structure Keeps (d d' : Disk) : Prop where
  here : d'.here = d.here
  directories : ∀ q, d.item? q = some .directory → d'.item? q = some .directory

theorem ne_nil_of_item?_ne (h : d.item? place ≠ some .directory) : place ≠ [] := fun hnil =>
  h (by rw [hnil]; rfl)

theorem keeps_put (h : d.item? place ≠ some .directory) : Keeps d (d.put place i) := by
  refine ⟨by unfold put; split <;> rfl, fun q hq => ?_⟩
  rw [item?_put (ne_nil_of_item?_ne h), if_neg (fun heq : q = place => h (heq ▸ hq)), hq]

theorem keeps_erase (h : d.item? place ≠ some .directory) : Keeps d (d.erase place) := by
  refine ⟨rfl, fun q hq => ?_⟩
  rw [item?_erase (ne_nil_of_item?_ne h), if_neg (fun heq : q = place => h (heq ▸ hq)), hq]

namespace Keeps

/-- A step starts from a directory, so it can still be made. -/
theorem step (h : Keeps d d') {segment : List Char} (hs : d.step q segment = .ok place) :
    d'.step q segment = .ok place := by
  unfold Disk.step at hs ⊢
  cases hq : d.item? q with
  | none => rw [hq] at hs; cases hs
  | some i =>
    rw [hq] at hs
    cases i with
    | directory => rw [h.directories q hq]; exact hs
    | file c x => cases hs
    | sink => cases hs

theorem foldlM_step (h : Keeps d d') {segments : List (List Char)}
    (hs : segments.foldlM d.step q = .ok place) : segments.foldlM d'.step q = .ok place := by
  induction segments generalizing q with
  | nil => exact hs
  | cons segment segments ih =>
    rw [List.foldlM_cons, bind_eq_ok_iff] at hs ⊢
    obtain ⟨next, hstep, hs⟩ := hs
    exact ⟨next, h.step hstep, ih hs⟩

/-- **A path leads where it led.** -/
theorem walk (h : Keeps d d') {segments : List (List Char)}
    (hw : d.walk p segments = .ok place) : d'.walk p segments = .ok place := by
  rw [walk_eq_ok_iff] at hw ⊢
  rw [h.here]
  exact ⟨hw.1, h.foldlM_step hw.2⟩

end Keeps

/-! ### Slashes at the end -/

theorem locateEntry_eq_locate (h : p.endsWithSlash = false) : d.locateEntry p = d.locate p := by
  unfold locateEntry locate
  by_cases hnil : p.spelling = ""
  · simp [walk, hnil]
  · have hne : p.spelling.toList ≠ [] := by simpa using hnil
    obtain ⟨s, c, hs⟩ := (List.eq_nil_or_concat p.spelling.toList).resolve_left hne
    rw [List.concat_eq_append] at hs
    have hc : c ≠ '/' := by simpa [Path.endsWithSlash, hs] using h
    obtain ⟨ps, last, -, hsegments⟩ := Text.exists_pieces_append hc s
    have hlast : p.segments = ps ++ [last ++ [c]] := by rw [Path.segments, hs, hsegments]
    rw [hlast]
    simp

/-! ### Files -/

theorem look_of_locate (hp : d.locate p = .ok place) :
    d.look p = match d.item? place with
      | none => .error .noEntry
      | some i => .ok i := by
  rw [look, hp]
  simp only [bind, Except.bind]
  cases d.item? place <;> rfl

theorem item?_of_not_pathExists (hp : d.locate p = .ok place) (h : d.pathExists p = false) :
    d.item? place = none := by
  rw [pathExists, look_of_locate hp] at h
  cases hi : d.item? place with
  | none => rfl
  | some i => rw [hi] at h; cases h

theorem endsWithSlash_of_write {c : Content} (h : d.write p c = .ok d') :
    p.endsWithSlash = false := by
  obtain ⟨place, -, h⟩ := bind_eq_ok_iff.mp h
  cases hslash : p.endsWithSlash with
  | false => rfl
  | true => rw [hslash] at h; cases h

/-- Where a file is made or replaced, and what was there before. -/
theorem place_of_write {c : Content} (h : d.write p c = .ok d') :
    ∃ place, d.locate p = .ok place ∧ d.item? place ≠ some .directory ∧
      (d.item? place = none → d' = d.put place (.file c false)) := by
  have hslash := endsWithSlash_of_write h
  unfold write at h
  obtain ⟨place, hplace, h⟩ := bind_eq_ok_iff.mp h
  rw [locateEntry_eq_locate hslash] at hplace
  refine ⟨place, hplace, fun hdir => ?_, fun hnone => ?_⟩
  · rw [hslash, hdir] at h
    cases h
  · rw [hslash, hnone] at h
    cases h
    rfl

/-- Where a file is removed. -/
theorem place_of_remove (h : d.remove p = .ok d') :
    ∃ place, d.locate p = .ok place ∧ d.item? place ≠ some .directory ∧ d' = d.erase place := by
  unfold remove at h
  obtain ⟨place, hplace, h⟩ := bind_eq_ok_iff.mp h
  split at h
  · cases h
  · cases h
  · rename_i i hdir hitem
    split at h
    · cases h
    · rename_i hslash
      rw [Bool.not_eq_true] at hslash
      rw [locateEntry_eq_locate hslash] at hplace
      cases h
      exact ⟨place, hplace, fun heq => hdir (Option.some.inj (hitem.symm.trans heq)), rfl⟩

theorem pathExists_of_remove (h : d.remove p = .ok d') : d'.pathExists p = false := by
  obtain ⟨place, hplace, hitem, rfl⟩ := place_of_remove h
  have hgone : (d.erase place).item? place = none := by
    rw [item?_erase (ne_nil_of_item?_ne hitem), if_pos rfl]
  rw [pathExists, look_of_locate ((keeps_erase hitem).walk hplace), hgone]
  rfl

/-- **A file that was made is found.** -/
theorem look_of_write {c : Content} (hnew : d.pathExists p = false) (h : d.write p c = .ok d') :
    d'.look p = .ok (.file c false) := by
  obtain ⟨place, hplace, hitem, hmade⟩ := place_of_write h
  have hnone := item?_of_not_pathExists hplace hnew
  rw [hmade hnone, look_of_locate ((keeps_put hitem).walk hplace),
    item?_put (ne_nil_of_item?_ne hitem), if_pos rfl]

end ComplexityLint.Disk
