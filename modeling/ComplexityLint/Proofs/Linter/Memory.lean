import ComplexityLint.Linter.Memory
import ComplexityLint.Proofs.Path

/-!
Files in memory after one of them was written or taken away, and directories after one was added.
-/

namespace ComplexityLint

namespace Memory

variable {m : Memory} {p q : Path}

theorem find?_congr (h : p.same q = true) (files : List (Path × String)) :
    files.find? (fun f => f.1.same q) = files.find? fun f => f.1.same p := by
  simp only [Path.same_congr h]

/-- The files without the one at a path. -/
def erase (p : Path) (m : Memory) : Memory :=
  { m with files := m.files.filter fun f => !f.1.same p }

theorem remove_eq_ok_iff {m' : Memory} :
    host.remove p m = (.ok (), m') ↔
      holds m.pinned p = false ∧ (m.file? p).isSome ∧ m.erase p = m' := by
  simp only [host]
  cases holds m.pinned p with
  | true => simp
  | false => cases m.file? p <;> simp [erase]

theorem file?_erase (p : Path) (m : Memory) (q : Path) :
    (m.erase p).file? q = if p.same q then none else m.file? q := by
  unfold file? erase
  rw [List.find?_filter]
  cases hpq : p.same q with
  | true => simp [Path.same_congr hpq]
  | false =>
    have hother : ∀ f : Path × String, (f.1.same p = false ∧ f.1.same q = true) ↔
        f.1.same q = true := fun f => and_iff_right_of_imp (Path.same_eq_false hpq)
    simp [hother]

theorem file?_write (p : Path) (text : String) (m : Memory) (q : Path) :
    (m.write p text).file? q = if p.same q then some text else m.file? q := by
  unfold write
  split
  · rename_i hthere
    obtain ⟨f, hf⟩ : ∃ f, m.files.find? (fun f => f.1.same p) = some f := by
      simpa [file?, Option.isSome_iff_exists] using hthere
    have hkey : ∀ f : Path × String, (if f.1.same p then (f.1, text) else f).1 = f.1 := fun f => by
      split <;> rfl
    unfold file?
    rw [List.find?_map]
    simp only [Function.comp_def, hkey]
    cases hpq : p.same q with
    | true =>
      have hfp := List.find?_some hf
      simp [find?_congr hpq, hf, hfp]
    | false =>
      cases hg : m.files.find? (fun f => f.1.same q) with
      | none => rfl
      | some g =>
        have hgq := List.find?_some hg
        have hgp : g.1.same p = false := Path.same_eq_false hpq hgq
        simp [hgp]
  · rename_i hnew
    have hnone : m.files.find? (fun f => f.1.same p) = none := by simpa [file?] using hnew
    unfold file?
    rw [List.find?_append]
    cases hpq : p.same q with
    | true => simp [find?_congr hpq, hnone, Path.same_refl]
    | false => simp [hpq]

@[simp] theorem files_addDir (p : Path) (m : Memory) : (m.addDir p).files = m.files := by
  unfold addDir
  split <;> rfl

@[simp] theorem file?_addDir (p : Path) (m : Memory) : (m.addDir p).file? = m.file? := by
  unfold file?
  rw [files_addDir]

@[simp] theorem pinned_addDir (p : Path) (m : Memory) : (m.addDir p).pinned = m.pinned := by
  unfold addDir
  split <;> rfl

/-- A directory is added with a file or without. -/
theorem erase_addDir (p q : Path) (m : Memory) : (m.addDir p).erase q = (m.erase q).addDir p := by
  unfold erase addDir
  dsimp only
  split <;> rfl

theorem holds_addDir (p : Path) (m : Memory) (q : Path) :
    holds (m.addDir p).dirs q = (holds m.dirs q || q.same p) := by
  unfold addDir
  split
  · rename_i hthere
    cases hq : q.same p with
    | false => rw [Bool.or_false]
    | true =>
      have hsame : q.same = p.same := funext fun r => by
        rw [Path.same_comm q, Path.same_comm p, Path.same_congr hq]
      rw [Bool.or_true, holds, hsame]
      exact hthere
  · simp [holds]

end Memory

end ComplexityLint
