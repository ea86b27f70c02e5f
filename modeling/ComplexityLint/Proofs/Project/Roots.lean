import ComplexityLint.Project
import ComplexityLint.Proofs.Path
import Mathlib.Data.List.Infix

/-!
Roots as they are registered one after another: what is kept are the first ones of equal paths, in
their order (`foldl_addRoot`). The root of a path is the deepest one above it (`deepest_of_rootFor?`).
Roots above one path are above one another, so as a path it does not depend on the order of the roots
(`rootFor?_congr`).
-/

namespace ComplexityLint.Project

/-- Roots that are pairwise unequal as paths. -/
abbrev Distinct (roots : List Path) : Prop := roots.Pairwise fun p q => p.same q = false

/-- A root above a path, below any other root above it. -/
structure Deepest (roots : List Path) (p root : Path) : Prop where
  registered : root ∈ roots
  above : root.components <+: p.components
  below : ∀ r ∈ roots, r.components <+: p.components → r.components <+: root.components

/-! ### Registering roots -/

theorem addRoot_distinct {roots : List Path} (h : Distinct roots) (root : Path) :
    Distinct (addRoot roots root) := by
  unfold addRoot
  split
  · exact h
  · rename_i hnew
    refine List.pairwise_append.mpr ⟨h, List.pairwise_singleton _ _, fun p hp q hq => ?_⟩
    rw [List.mem_singleton.mp hq, Path.same_comm]
    rw [List.any_eq_true] at hnew
    exact Bool.eq_false_iff.mpr fun hsame => hnew ⟨p, hp, hsame⟩

theorem foldl_addRoot_distinct {roots : List Path} (h : Distinct roots) (more : List Path) :
    Distinct (more.foldl addRoot roots) := by
  induction more generalizing roots with
  | nil => exact h
  | cons root more ih => exact ih (addRoot_distinct h root)

/-- Registering keeps the roots in the order in which they come, while duplicates are dropped by way
of a list that is turned around. -/
theorem foldl_addRoot_reverse (more roots : List Path) :
    more.foldl addRoot roots.reverse = List.eraseDupsBy.loop Path.same more roots := by
  induction more generalizing roots with
  | nil => rfl
  | cons root more ih =>
    rw [List.foldl_cons, addRoot, List.any_reverse, List.eraseDupsBy.loop]
    cases roots.any root.same with
    | true => exact ih roots
    | false =>
      have hroots : roots.reverse ++ [root] = (root :: roots).reverse := List.reverse_cons.symm
      exact hroots ▸ ih (root :: roots)

/-- **What is registered**: the roots in the order in which they come, less those that equal an
earlier one. -/
theorem foldl_addRoot (roots : List Path) :
    roots.foldl addRoot [] = roots.eraseDupsBy Path.same :=
  foldl_addRoot_reverse roots []

/-- Registering more roots is registering them behind the others. -/
theorem foldl_addRoot_eraseDupsBy (roots more : List Path) :
    more.foldl addRoot (roots.eraseDupsBy Path.same) = (roots ++ more).eraseDupsBy Path.same := by
  rw [← foldl_addRoot, ← foldl_addRoot, List.foldl_append]

/-- The first root stays the first. -/
theorem head?_foldl_addRoot (more roots : List Path) :
    (more.foldl addRoot roots).head? = (roots.head? <|> more.head?) := by
  induction more generalizing roots with
  | nil => cases roots <;> rfl
  | cons root more ih =>
    rw [List.foldl_cons, ih]
    cases roots with
    | nil => rfl
    | cons first roots =>
      rw [addRoot]
      split <;> rfl

theorem addRoot_sublist (roots : List Path) (root : Path) :
    (addRoot roots root).Sublist (roots ++ [root]) := by
  unfold addRoot
  split
  · exact List.sublist_append_left roots [root]
  · exact List.Sublist.refl _

theorem foldl_addRoot_sublist (more roots : List Path) :
    (more.foldl addRoot roots).Sublist (roots ++ more) := by
  induction more generalizing roots with
  | nil => rw [List.append_nil]; exact List.Sublist.refl _
  | cons root more ih =>
    refine (ih (addRoot roots root)).trans ?_
    rw [List.append_cons]
    exact (addRoot_sublist roots root).append_right more

/-- The first spelling of a path is the one that is kept. -/
theorem find?_addRoot (roots : List Path) (root p : Path) :
    (addRoot roots root).find? p.same = (roots ++ [root]).find? p.same := by
  unfold addRoot
  split
  · rename_i hknown
    obtain ⟨r, hr, hsame⟩ := List.any_eq_true.mp hknown
    rw [List.find?_append]
    cases hp : p.same root with
    | false => simp [hp]
    | true =>
      -- a root that equals the path is there already
      have hsome : (roots.find? p.same).isSome :=
        List.find?_isSome.mpr ⟨r, hr, by rw [← Path.same_congr hsame, hp]⟩
      obtain ⟨first, hfirst⟩ := Option.isSome_iff_exists.mp hsome
      rw [hfirst, Option.some_or]
  · rfl

theorem find?_foldl_addRoot (more roots : List Path) (p : Path) :
    (more.foldl addRoot roots).find? p.same = (roots ++ more).find? p.same := by
  induction more generalizing roots with
  | nil => rw [List.append_nil]; rfl
  | cons root more ih =>
    rw [List.foldl_cons, ih, List.find?_append, find?_addRoot, ← List.find?_append,
      List.append_assoc, List.singleton_append]

theorem any_foldl_addRoot (more roots : List Path) (p : Path) :
    (more.foldl addRoot roots).any p.same = (roots ++ more).any p.same := by
  rw [← List.isSome_find?, find?_foldl_addRoot, List.isSome_find?]

/-! ### The root of a path -/

/-- Of the deepest root so far and another one, the deeper, and of equally deep ones the other. -/
def deeper (best : Option Path) (r : Path) : Option Path :=
  match best with
  | none => some r
  | some b => if b.components.length ≤ r.components.length then some r else some b

theorem exists_foldl_deeper (rs : List Path) (b : Path) :
    ∃ d ∈ b :: rs, rs.foldl deeper (some b) = some d ∧
      ∀ r ∈ b :: rs, r.components.length ≤ d.components.length := by
  induction rs generalizing b with
  | nil => exact ⟨b, by simp, rfl, by simp⟩
  | cons r rs ih =>
    by_cases hle : b.components.length ≤ r.components.length
    · obtain ⟨d, hd, hfold, hmax⟩ := ih r
      refine ⟨d, List.mem_cons_of_mem _ hd, ?_, List.forall_mem_cons.mpr ⟨?_, hmax⟩⟩
      · rw [List.foldl_cons, deeper, if_pos hle, hfold]
      · exact hle.trans (hmax r List.mem_cons_self)
    · obtain ⟨d, hd, hfold, hmax⟩ := ih b
      obtain ⟨hb, hrest⟩ := List.forall_mem_cons.mp hmax
      refine ⟨d, ?_, ?_, ?_⟩
      · exact List.mem_cons.mpr ((List.mem_cons.mp hd).imp_right (List.mem_cons_of_mem r))
      · rw [List.foldl_cons, deeper, if_neg hle, hfold]
      · exact List.forall_mem_cons.mpr ⟨hb, List.forall_mem_cons.mpr ⟨by omega, hrest⟩⟩

/-- **There is a deepest root exactly if some root is above the path.** -/
theorem rootFor?_cases (roots : List Path) (p : Path) :
    (rootFor? roots p = none ∧ ∀ r ∈ roots, ¬ r.components <+: p.components) ∨
      ∃ d, rootFor? roots p = some d ∧ Deepest roots p d := by
  have hfold : rootFor? roots p = (roots.filter p.startsWith).foldl deeper none := rfl
  have hmem : ∀ r, r ∈ roots.filter p.startsWith ↔ r ∈ roots ∧ r.components <+: p.components :=
    fun r => by rw [List.mem_filter, Path.startsWith_iff]
  rw [hfold]
  generalize roots.filter p.startsWith = above at hmem ⊢
  rcases above with _ | ⟨b, rs⟩
  · exact .inl ⟨rfl, fun r hr hprefix => by cases (hmem r).mpr ⟨hr, hprefix⟩⟩
  · obtain ⟨d, hd, hdeepest, hmax⟩ := exists_foldl_deeper rs b
    obtain ⟨hroot, habove⟩ := (hmem d).mp hd
    refine .inr ⟨d, hdeepest, hroot, habove, fun r hr hprefix => ?_⟩
    exact List.prefix_of_prefix_length_le hprefix habove (hmax r ((hmem r).mpr ⟨hr, hprefix⟩))

/-- A path has no root when the steps of none of them begin its own. -/
theorem rootFor?_eq_none_iff {roots : List Path} {p : Path} :
    rootFor? roots p = none ↔ ∀ r ∈ roots, ¬ r.components <+: p.components := by
  rcases rootFor?_cases roots p with ⟨hnone, hout⟩ | ⟨d, hsome, hd⟩
  · exact iff_of_true hnone hout
  · rw [hsome]
    exact iff_of_false nofun fun hout => hout d hd.registered hd.above

theorem deepest_of_rootFor? {roots : List Path} {p d : Path} (h : rootFor? roots p = some d) :
    Deepest roots p d := by
  rcases rootFor?_cases roots p with ⟨hnone, -⟩ | ⟨d', hsome, hd⟩
  · cases hnone.symm.trans h
  · cases hsome.symm.trans h
    exact hd

/-- **The root as a path depends on the roots as paths only**, not on their order or spelling. -/
theorem rootFor?_congr {roots roots' : List Path}
    (h : ∀ q : Path, roots.any q.same = roots'.any q.same) (p : Path) :
    (rootFor? roots p).map (·.components) = (rootFor? roots' p).map (·.components) := by
  have hsub : ∀ {roots roots' : List Path}, (∀ q : Path, roots.any q.same = roots'.any q.same) →
      ∀ d ∈ roots, ∃ r ∈ roots', d.components = r.components := by
    intro roots roots' h d hd
    have hany : roots.any d.same = true := List.any_eq_true.mpr ⟨d, hd, d.same_refl⟩
    rw [h] at hany
    obtain ⟨r, hr, hsame⟩ := List.any_eq_true.mp hany
    exact ⟨r, hr, Path.same_iff.mp hsame⟩
  rcases rootFor?_cases roots p with ⟨hnone, hout⟩ | ⟨d, hsome, hd⟩ <;>
    rcases rootFor?_cases roots' p with ⟨hnone', hout'⟩ | ⟨d', hsome', hd'⟩
  · rw [hnone, hnone']
  · obtain ⟨r, hr, hsame⟩ := hsub (fun q => (h q).symm) d' hd'.registered
    exact absurd (hsame ▸ hd'.above) (hout r hr)
  · obtain ⟨r, hr, hsame⟩ := hsub h d hd.registered
    exact absurd (hsame ▸ hd.above) (hout' r hr)
  · obtain ⟨r, hr, hsame⟩ := hsub (fun q => (h q).symm) d' hd'.registered
    obtain ⟨r', hr', hsame'⟩ := hsub h d hd.registered
    -- each of the two is above the other
    have hle : d'.components <+: d.components := hsame ▸ hd.below r hr (hsame ▸ hd'.above)
    have hge : d.components <+: d'.components := hsame' ▸ hd'.below r' hr' (hsame' ▸ hd.above)
    rw [hsome, hsome', Option.map_some, Option.map_some, hge.eq_of_length_le hle.length_le]

end ComplexityLint.Project
