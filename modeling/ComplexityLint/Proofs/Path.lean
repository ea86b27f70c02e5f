import ComplexityLint.Path
import ComplexityLint.Proofs.Text.Pieces
import ComplexityLint.Proofs.Text.Utf8

/-!
Paths and the texts that write them. A path shows the text that it was written with, and texts that
write paths with the same steps differ in slashes and dots only (`count_of_same`).
-/

namespace ComplexityLint

namespace Text

theorem count_pieces {sep c : Char} (hc : c ≠ sep) (s : List Char) :
    (pieces sep s).flatten.count c = s.count c := by
  induction s with
  | nil => rfl
  | cons d s ih =>
    by_cases hd : d = sep
    · subst hd
      rw [pieces_cons_sep, List.flatten_cons, List.nil_append, ih,
        List.count_cons_of_ne (Ne.symm hc)]
    · obtain ⟨p, ps, hs, hds⟩ := exists_pieces_cons hd s
      rw [hs, List.flatten_cons] at ih
      rw [hds, List.flatten_cons, List.cons_append, List.count_cons, ih, List.count_cons]

theorem isByte_eq_false_of_isBlank {c : Char} (h : isBlank c = true) : isByte c = false := by
  simp only [isBlank, Bool.or_eq_true, Bool.and_eq_true, decide_eq_true_eq, beq_iff_eq] at h
  rw [isByte, decide_eq_false_iff_not]
  omega

/-- Only characters that stand for bytes are spelt in another way. -/
theorem count_spelling {c : Char} (hc : isByte c = false) (s : String) :
    (spelling s).toList.count c = s.toList.count c := by
  have hspell : ∀ s : List Char, (spell (bytesOf s)).count c = s.count c := fun s => by
    induction s with
    | nil => simp [bytesOf, spell]
    | cons d s ih =>
      rw [bytesOf, List.flatMap_cons, spell_append, ← bytesOf, List.count_append, ih]
      cases hd : isByte d with
      | false =>
        rw [if_neg Bool.false_ne_true, List.count_singleton, List.count_cons]
        omega
      | true =>
        have hother : d ≠ c := fun heq => by
          rw [heq, hc] at hd
          cases hd
        have hnone : ((charBytes d).map byteLetter).count c = 0 := by
          rw [List.count_eq_zero, List.mem_map]
          rintro ⟨b, hb, rfl⟩
          rw [isByte_byteLetter (high_of_mem_charBytes (toNat_of_isByte hd) hb)] at hc
          cases hc
        rw [if_pos rfl, hnone, List.count_cons_of_ne hother, Nat.zero_add]
  cases hs : s.toList.any isByte with
  | false => rw [spelling_eq_self hs]
  | true => rw [spelling, if_pos hs, String.toList_ofList, hspell]

end Text

namespace Path

section Same

variable {p q r : Path}

theorem same_iff : p.same q = true ↔ p.components = q.components := decide_eq_true_iff

theorem same_refl (p : Path) : p.same p = true := same_iff.mpr rfl

theorem same_comm (p q : Path) : p.same q = q.same p := by
  rw [Bool.eq_iff_iff, same_iff, same_iff, eq_comm]

/-- Equal paths are equal to the same paths. -/
theorem same_congr (h : p.same q = true) (r : Path) : r.same p = r.same q := by
  rw [Bool.eq_iff_iff, same_iff, same_iff, same_iff.mp h]

theorem same_eq_false (h : p.same q = false) (hr : r.same q = true) : r.same p = false := by
  rw [← h, same_comm r p, same_congr hr]

end Same

theorem startsWith_iff {p q : Path} : p.startsWith q = true ↔ q.components <+: p.components :=
  List.isPrefixOf_iff_prefix

theorem text_ofText (s : String) : (ofText s).text = s := Text.shown_spelling s

theorem ofText_injective : Function.Injective ofText := fun s s' h => by
  rw [← text_ofText s, h, text_ofText]

/-- The letters of some steps. -/
def letters (cs : List Component) : List Char := cs.flatMap Component.text

theorem count_ofSegment? {c : Char} (hdot : c ≠ '.') (s : List Char) :
    (letters (Component.ofSegment? s).toList).count c = s.count c := by
  unfold Component.ofSegment?
  split
  · rename_i hidle
    rcases hidle with rfl | rfl
    · rfl
    · rw [List.count_cons_of_ne (Ne.symm hdot)]
      rfl
  · split
    · rename_i hup
      rw [hup]
      rfl
    · simp [letters, Component.text]

theorem count_filterMap_ofSegment? {c : Char} (hdot : c ≠ '.') (segments : List (List Char)) :
    (letters (segments.filterMap Component.ofSegment?)).count c = segments.flatten.count c := by
  induction segments with
  | nil => rfl
  | cons s segments ih =>
    have hfirst := count_ofSegment? hdot s
    rw [List.flatten_cons, List.count_append, ← ih, ← hfirst, ← List.count_append]
    cases hs : Component.ofSegment? s <;> simp [hs, letters]

/-- The steps of a path keep all characters of its spelling but slashes and dots. -/
theorem count_components {c : Char} (hslash : c ≠ '/') (hdot : c ≠ '.') (p : Path) :
    (letters p.components).count c = p.spelling.toList.count c := by
  have hsegments : p.segments.flatten.count c = p.spelling.toList.count c :=
    Text.count_pieces hslash _
  rw [← hsegments]
  unfold components
  cases p.segments with
  | nil => rfl
  | cons s rest =>
    have hrest := count_filterMap_ofSegment? hdot rest
    have hfirst := count_ofSegment? hdot s
    rw [letters] at hrest hfirst
    rw [List.flatten_cons, List.count_append, letters, List.flatMap_append, List.count_append, hrest]
    congr 1
    split
    · rename_i hroot
      rw [hroot.1]
      simp [Component.text, hslash.symm]
    · split
      · rename_i hhere
        simp [hhere, Component.text]
      · exact hfirst

/-- Texts that write the same path hold the same characters, slashes and dots aside. -/
theorem count_of_same {f s : String} (h : (ofText f).same (ofText s) = true) {c : Char}
    (hslash : c ≠ '/') (hdot : c ≠ '.') (hbyte : Text.isByte c = false) :
    f.toList.count c = s.toList.count c := by
  have hcount : ∀ t : String, (letters (ofText t).components).count c = t.toList.count c :=
    fun t => (count_components hslash hdot (ofText t)).trans (Text.count_spelling hbyte t)
  rw [← hcount f, ← hcount s, same_iff.mp h]

end Path

end ComplexityLint
