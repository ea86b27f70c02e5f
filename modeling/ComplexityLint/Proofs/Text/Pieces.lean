import ComplexityLint.Text.Blank
import ComplexityLint.Text.Pieces
import Mathlib.Data.List.TakeWhile
import Mathlib.Data.List.Infix

/-!
Cutting texts: the pieces between separators when a text grows at one of its ends, the place of the
first occurrence of a word, and what trimming takes away.
-/

namespace ComplexityLint.Text

/-! ### Pieces -/

section Pieces

variable {sep c : Char}

theorem pieces_cons_sep (s : List Char) : pieces sep (sep :: s) = [] :: pieces sep s := by
  simp [pieces]

theorem exists_pieces_cons (h : c ≠ sep) (s : List Char) :
    ∃ p ps, pieces sep s = p :: ps ∧ pieces sep (c :: s) = (c :: p) :: ps := by
  induction s generalizing c with
  | nil => exact ⟨[], [], rfl, by simp [pieces, h]⟩
  | cons d s ih =>
    by_cases hd : d = sep
    · subst hd
      exact ⟨[], pieces d s, pieces_cons_sep s, by simp [pieces, h]⟩
    · obtain ⟨p, ps, -, hds⟩ := ih hd
      exact ⟨d :: p, ps, hds, by rw [pieces, if_neg h, hds]⟩

theorem pieces_append_sep (s t : List Char) :
    pieces sep (s ++ sep :: t) = pieces sep s ++ pieces sep t := by
  induction s with
  | nil => rw [List.nil_append, pieces_cons_sep]; rfl
  | cons c s ih =>
    by_cases hc : c = sep
    · subst hc
      rw [List.cons_append, pieces_cons_sep, pieces_cons_sep, ih, List.cons_append]
    · obtain ⟨p, ps, hs, hcs⟩ := exists_pieces_cons hc s
      obtain ⟨q, qs, hst, hcst⟩ := exists_pieces_cons hc (s ++ sep :: t)
      rw [hst, hs, List.cons_append] at ih
      obtain ⟨rfl, rfl⟩ := List.cons.inj ih
      rw [List.cons_append, hcst, hcs, List.cons_append]

theorem pieces_of_notMem {s : List Char} (h : sep ∉ s) : pieces sep s = [s] := by
  induction s with
  | nil => rfl
  | cons c s ih =>
    rw [List.mem_cons, not_or] at h
    obtain ⟨p, ps, hs, hcs⟩ := exists_pieces_cons (Ne.symm h.1) s
    rw [ih h.2] at hs
    obtain ⟨rfl, rfl⟩ := List.cons.inj hs
    exact hcs

/-- A character at the end goes to the last piece. -/
theorem exists_pieces_append (h : c ≠ sep) (s : List Char) :
    ∃ ps p, pieces sep s = ps ++ [p] ∧ pieces sep (s ++ [c]) = ps ++ [p ++ [c]] := by
  induction s with
  | nil => exact ⟨[], [], rfl, by simp [pieces, h]⟩
  | cons d s ih =>
    obtain ⟨ps, p, hs, hsc⟩ := ih
    by_cases hd : d = sep
    · subst hd
      refine ⟨[] :: ps, p, ?_, ?_⟩
      · rw [pieces_cons_sep, hs, List.cons_append]
      · rw [List.cons_append, pieces_cons_sep, hsc, List.cons_append]
    · obtain ⟨q, qs, hs', hds⟩ := exists_pieces_cons hd s
      obtain ⟨q', qs', hsc', hdsc⟩ := exists_pieces_cons hd (s ++ [c])
      rw [hs] at hs'
      rw [hsc] at hsc'
      rw [List.cons_append, hds, hdsc]
      cases ps with
      | nil =>
        obtain ⟨rfl, rfl⟩ := List.cons.inj hs'
        obtain ⟨rfl, rfl⟩ := List.cons.inj hsc'
        exact ⟨[], d :: p, rfl, rfl⟩
      | cons r ps =>
        obtain ⟨rfl, rfl⟩ := List.cons.inj hs'
        obtain ⟨rfl, rfl⟩ := List.cons.inj hsc'
        exact ⟨(d :: r) :: ps, p, rfl, rfl⟩

/-- Lines that are ended one by one are the pieces, with an empty one behind them. -/
theorem pieces_lines {lines : List (List Char)} (h : ∀ line ∈ lines, sep ∉ line) :
    pieces sep (lines.flatMap (· ++ [sep])) = lines ++ [[]] := by
  induction lines with
  | nil => rfl
  | cons line lines ih =>
    have hline : pieces sep line = [line] := pieces_of_notMem (h line (by simp))
    rw [List.flatMap_cons, List.append_assoc, List.singleton_append, pieces_append_sep, hline,
      ih fun l hl => h l (by simp [hl])]
    rfl

theorem pieces_ne_nil (s : List Char) : pieces sep s ≠ [] := by
  cases s with
  | nil => simp [pieces]
  | cons c s =>
    by_cases hc : c = sep
    · simp [pieces, hc]
    · obtain ⟨p, ps, -, hs⟩ := exists_pieces_cons hc s
      simp [hs]

theorem notMem_of_mem_pieces {s p : List Char} (hp : p ∈ pieces sep s) : sep ∉ p := by
  induction s generalizing p with
  | nil =>
    rw [pieces, List.mem_singleton] at hp
    simp [hp]
  | cons c s ih =>
    by_cases hc : c = sep
    · rw [hc, pieces_cons_sep, List.mem_cons] at hp
      rcases hp with rfl | hp
      · simp
      · exact ih hp
    · obtain ⟨q, qs, hs, hcs⟩ := exists_pieces_cons hc s
      rw [hs] at ih
      rw [hcs, List.mem_cons] at hp
      rcases hp with rfl | hp
      · rw [List.mem_cons, not_or]
        exact ⟨Ne.symm hc, ih List.mem_cons_self⟩
      · exact ih (List.mem_cons_of_mem _ hp)

/-- Pieces that were put together are found again. -/
theorem pieces_intercalate {ps : List (List Char)} (hne : ps ≠ []) (h : ∀ p ∈ ps, sep ∉ p) :
    pieces sep ([sep].intercalate ps) = ps := by
  induction ps with
  | nil => exact absurd rfl hne
  | cons p ps ih =>
    obtain ⟨hp, hps⟩ := List.forall_mem_cons.mp h
    rcases ps with _ | ⟨q, ps⟩
    · rw [List.intercalate_singleton, pieces_of_notMem hp]
    · rw [List.intercalate_cons_cons, List.append_assoc, List.singleton_append, pieces_append_sep,
        ih (by simp) hps, pieces_of_notMem hp, List.singleton_append]

/-- The last piece is empty exactly if the text is empty or ends with the separator. -/
theorem pieces_concat (sep : Char) (s : List Char) (c : Char) :
    ∃ ps p, pieces sep (s ++ [c]) = ps ++ [p] ∧ (p = [] ↔ c = sep) ∧
      (c = sep → ps = pieces sep s) := by
  by_cases hc : c = sep
  · subst hc
    exact ⟨pieces c s, [], pieces_append_sep s [], by simp, fun _ => rfl⟩
  · obtain ⟨ps, p, -, hs⟩ := exists_pieces_append hc s
    exact ⟨ps, p ++ [c], hs, by simp [hc], fun h => absurd h hc⟩

end Pieces

/-! ### The first occurrence of a word -/

section Before

variable {w : List Char}

theorem before?_cons_of_starts {c : Char} {s : List Char} (h : w <+: c :: s) :
    before? w (c :: s) = some [] := by
  simp [before?, h]

theorem before?_cons_of_not_starts {c : Char} {s : List Char} (h : ¬ w <+: c :: s) :
    before? w (c :: s) = (before? w s).map (c :: ·) := by
  simp [before?, h]

/-- **The first occurrence.** The word stands behind the text in front of it, and nowhere
earlier. -/
theorem before?_eq_some_iff {s b : List Char} :
    before? w s = some b ↔
      ∃ rest, s = b ++ (w ++ rest) ∧ ∀ n < b.length, ¬ w <+: s.drop n := by
  induction s generalizing b with
  | nil =>
    by_cases hw : w = []
    · subst hw
      rw [before?, if_pos rfl, Option.some.injEq]
      constructor
      · rintro rfl
        exact ⟨[], rfl, by simp⟩
      · rintro ⟨rest, hs, -⟩
        exact (List.append_eq_nil_iff.mp hs.symm).1.symm
    · rw [before?, if_neg hw]
      refine iff_of_false (by simp) ?_
      rintro ⟨rest, hs, -⟩
      exact hw (List.append_eq_nil_iff.mp (List.append_eq_nil_iff.mp hs.symm).2).1
  | cons c s ih =>
    by_cases hp : w <+: c :: s
    · rw [before?_cons_of_starts hp, Option.some.injEq]
      constructor
      · rintro rfl
        obtain ⟨rest, hrest⟩ := hp
        exact ⟨rest, hrest.symm, by simp⟩
      · rintro ⟨rest, -, hmin⟩
        cases b with
        | nil => rfl
        | cons d b => exact absurd hp (hmin 0 (by simp))
    · rw [before?_cons_of_not_starts hp, Option.map_eq_some_iff]
      constructor
      · rintro ⟨b, hb, rfl⟩
        obtain ⟨rest, hs, hmin⟩ := ih.mp hb
        refine ⟨rest, by rw [hs]; rfl, fun n hn => ?_⟩
        cases n with
        | zero => exact hp
        | succ n => exact hmin n (by simpa using hn)
      · rintro ⟨rest, hs, hmin⟩
        cases b with
        | nil => exact absurd ⟨rest, hs.symm⟩ hp
        | cons d b =>
          obtain ⟨rfl, rfl⟩ := List.cons.inj hs
          exact ⟨b, ih.mpr ⟨rest, rfl, fun n hn => hmin (n + 1) (by simpa using hn)⟩, rfl⟩

theorem before?_eq_none_iff {s : List Char} : before? w s = none ↔ ¬ w <:+: s := by
  induction s with
  | nil =>
    by_cases hw : w = []
    · simp [before?, hw]
    · simp [before?, hw]
  | cons c s ih =>
    rw [List.infix_cons_iff, not_or]
    by_cases hp : w <+: c :: s
    · simp [before?_cons_of_starts hp, hp]
    · simp [before?_cons_of_not_starts hp, hp, ih]

/-- A word does not reach over a separator that it does not hold. -/
theorem before?_append_sep {sep : Char} {line : List Char} (hw : w ≠ []) (hsep : sep ∉ w)
    (hline : ¬ w <:+: line) (s : List Char) :
    before? w (line ++ sep :: s) = (before? w s).map (line ++ sep :: ·) := by
  have inside : ∀ l, w <+: l ++ sep :: s → w <+: l := by
    intro l hl
    rcases List.prefix_or_prefix_of_prefix hl (List.prefix_append l (sep :: s)) with h | ⟨t, rfl⟩
    · exact h
    · rw [List.prefix_append_right_inj] at hl
      cases t with
      | nil => simp
      | cons d t =>
        obtain ⟨u, hu⟩ := hl
        obtain ⟨rfl, -⟩ := List.cons.inj hu
        exact absurd (by simp) hsep
  induction line with
  | nil =>
    have hp : ¬ w <+: sep :: s := fun h => hw (List.prefix_nil.mp (inside [] h))
    exact before?_cons_of_not_starts hp
  | cons c line ih =>
    rw [List.infix_cons_iff, not_or] at hline
    have hp : ¬ w <+: c :: (line ++ sep :: s) := fun h => hline.1 (inside (c :: line) h)
    rw [List.cons_append, before?_cons_of_not_starts hp, ih hline.2, Option.map_map]
    rfl

end Before

/-! ### Trimming -/

theorem exists_trimLeft (s : List Char) :
    ∃ l, (∀ c ∈ l, isBlank c = true) ∧ s = l ++ trimLeft s :=
  ⟨s.takeWhile isBlank, fun _ hc => List.mem_takeWhile_imp hc,
    List.takeWhile_append_dropWhile.symm⟩

theorem exists_trimRight (s : List Char) :
    ∃ r, (∀ c ∈ r, isBlank c = true) ∧ s = trimRight s ++ r := by
  refine ⟨(s.reverse.takeWhile isBlank).reverse, fun c hc => ?_, ?_⟩
  · exact List.mem_takeWhile_imp (List.mem_reverse.mp hc)
  · rw [trimRight, ← List.reverse_append, List.takeWhile_append_dropWhile, List.reverse_reverse]

/-- Trimming takes blanks off the two ends. -/
theorem exists_trim (s : List Char) :
    ∃ l r, (∀ c ∈ l, isBlank c = true) ∧ (∀ c ∈ r, isBlank c = true) ∧ s = l ++ (trim s ++ r) := by
  obtain ⟨l, hl, hs⟩ := exists_trimLeft s
  obtain ⟨r, hr, ht⟩ := exists_trimRight (trimLeft s)
  exact ⟨l, r, hl, hr, by rw [trim, ← ht, ← hs]⟩

theorem isBlank_of_trim_eq_nil {s : List Char} (h : trim s = []) : ∀ c ∈ s, isBlank c = true := by
  obtain ⟨l, r, hl, hr, hs⟩ := exists_trim s
  rw [h, List.nil_append] at hs
  intro c hc
  rw [hs, List.mem_append] at hc
  exact hc.elim (hl c) (hr c)

end ComplexityLint.Text
