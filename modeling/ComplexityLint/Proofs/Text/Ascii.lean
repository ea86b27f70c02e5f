import Mathlib.Data.List.Basic
import Mathlib.Tactic.ByContra
import ComplexityLint.Proofs.Text.Utf8

/-!
ASCII characters among the bytes of a text. They are encoded by one byte each, and no other byte is
ever read as one of them: so a text that is shown or spelt has just the slashes that it had before
(`mem_of_mem_shown`, `mem_flatMap_lettersOf`).
-/

namespace ComplexityLint.Text

section Ascii

variable {c : Char}

/-- Ranges that are all kept hold at the first byte and at the rest. -/
theorem exists_of_fitting {lo hi : UInt8} {ranges : List (UInt8 × UInt8)} {bytes : List UInt8}
    (h : fitting ((lo, hi) :: ranges) bytes = ranges.length + 1) :
    ∃ b rest, bytes = b :: rest ∧ lo.toNat ≤ b.toNat ∧ b.toNat ≤ hi.toNat ∧
      fitting ranges rest = ranges.length := by
  cases bytes with
  | nil => simp [fitting] at h
  | cons b rest =>
    rw [fitting] at h
    split at h
    · rename_i hin
      rw [Bool.and_eq_true, decide_eq_true_eq, decide_eq_true_eq, UInt8.le_iff_toNat_le,
        UInt8.le_iff_toNat_le] at hin
      exact ⟨b, rest, rfl, hin.1, hin.2, by omega⟩
    · omega

/-- A character that takes several bytes is no ASCII character: nothing is encoded longer than
needed. -/
theorem exists_assembled {b : UInt8} {ranges : List (UInt8 × UInt8)} {bytes : List UInt8}
    (hb : tails? b = some ranges) (hne : ranges ≠ [])
    (hfit : fitting ranges bytes = ranges.length) :
    ∃ v, 0x80 ≤ v ∧ assembled b (bytes.take ranges.length) = Char.ofNat v := by
  have hlow : 0x80 ≤ b.toNat := by
    by_contra h
    rw [tails?_ascii (by omega)] at hb
    exact hne (Option.some.inj hb).symm
  have hlead : 0xC2 ≤ b.toNat := by
    by_contra h
    have h1 : ¬ b.toNat < 0x80 := by omega
    have h2 : b.toNat < 0xC2 := by omega
    simp [tails?, UInt8.lt_iff_toNat_lt, h1, h2] at hb
  rcases Nat.lt_or_ge b.toNat 0xE0 with h | h
  · rw [tails?_two hlead h] at hb
    cases hb
    obtain ⟨b₁, rest, rfl, -, -, -⟩ := exists_of_fitting hfit
    exact ⟨64 * (b.toNat % 32) + b₁.toNat % 64, by omega, rfl⟩
  rcases Nat.lt_or_ge b.toNat 0xF0 with h' | h'
  · rw [tails?_three h h'] at hb
    cases hb
    obtain ⟨b₁, rest, rfl, hlo, hhi, hfit⟩ := exists_of_fitting hfit
    obtain ⟨b₂, rest, rfl, -, -, -⟩ := exists_of_fitting hfit
    refine ⟨64 * (64 * (b.toNat % 16) + b₁.toNat % 64) + b₂.toNat % 64, ?_, rfl⟩
    -- either the lead holds a bit, or the range of the second byte sees to it
    by_cases hzero : b = 0xE0
    · simp [hzero] at hlo hhi
      omega
    · rw [eq_iff_toNat] at hzero
      simp at hzero
      omega
  · have hlt : b.toNat < 0xF5 := by
      by_contra h5
      have hnone : tails? b = none := by
        have : ∀ k : UInt8, k.toNat ≤ 0xF4 → ¬ b < k ∧ b ≠ k := fun k hk => by
          rw [UInt8.lt_iff_toNat_lt, Ne, eq_iff_toNat]
          omega
        simp [tails?, this]
      rw [hnone] at hb
      cases hb
    rw [tails?_four h' hlt] at hb
    cases hb
    obtain ⟨b₁, rest, rfl, hlo, hhi, hfit⟩ := exists_of_fitting hfit
    obtain ⟨b₂, rest, rfl, -, -, hfit⟩ := exists_of_fitting hfit
    obtain ⟨b₃, rest, rfl, -, -, -⟩ := exists_of_fitting hfit
    refine ⟨64 * (64 * (64 * (b.toNat % 8) + b₁.toNat % 64) + b₂.toNat % 64) + b₃.toNat % 64, ?_,
      rfl⟩
    by_cases hzero : b = 0xF0
    · simp [hzero] at hlo hhi
      omega
    · rw [eq_iff_toNat] at hzero
      simp at hzero
      omega

/-- The character of a number, which is zero for a number that has none. -/
theorem ofNat_cases (n : Nat) : (Char.ofNat n).toNat = n ∨ Char.ofNat n = '\x00' := by
  by_cases hn : n.isValidChar
  · rw [Char.ofNat, dif_pos hn]
    exact .inl rfl
  · rw [Char.ofNat, dif_neg hn]
    exact .inr rfl

/-- **ASCII characters come from their bytes**, whatever else is read. -/
theorem mem_of_mem_decodeLossy {bytes : List UInt8} (hc : c.toNat < 0x80) (hzero : c ≠ '\x00')
    (h : c ∈ decodeLossy bytes) : ∃ b ∈ bytes, b.toNat = c.toNat := by
  have hsub : c ≠ '\uFFFD' := by
    rintro rfl
    exact absurd hc (by decide)
  fun_induction decodeLossy bytes with
  | case1 => cases h
  | case2 b bytes hb ih =>
    obtain ⟨b', hb', heq⟩ := ih ((List.mem_cons.mp h).resolve_left hsub)
    exact ⟨b', List.mem_cons_of_mem _ hb', heq⟩
  | case3 b bytes ranges hb n d ih =>
    rcases List.mem_cons.mp h with heq | hrest
    · have hfit : n = ranges.length := by
        by_contra hn
        exact hsub (heq.trans (if_neg hn))
      have hd : c = assembled b (bytes.take n) := heq.trans (if_pos hfit)
      rcases ranges with _ | ⟨r, ranges⟩
      · have hself : c = Char.ofNat b.toNat := by rw [hd, hfit]; rfl
        have hnum := (ofNat_cases b.toNat).resolve_right fun h => hzero (hself.trans h)
        exact ⟨b, List.mem_cons_self, by rw [hself, hnum]⟩
      · obtain ⟨v, hv, hassembled⟩ := exists_assembled hb (by simp) hfit
        rw [hfit, hassembled] at hd
        have hnum := (ofNat_cases v).resolve_right fun h => hzero (hd.trans h)
        rw [hd, hnum] at hc
        omega
    · obtain ⟨b', hb', heq⟩ := ih hrest
      exact ⟨b', List.mem_cons_of_mem _ (List.mem_of_mem_drop hb'), heq⟩

theorem decodeLossy_ne_nil {bytes : List UInt8} (h : bytes ≠ []) : decodeLossy bytes ≠ [] := by
  fun_cases decodeLossy bytes with
  | case1 => exact absurd rfl h
  | case2 b bytes hb => simp
  | case3 b bytes ranges hb n d => simp

theorem toNat_of_mem_letterBytes {b : UInt8} (hb : b ∈ letterBytes c) (hlow : b.toNat < 0x80) :
    c.toNat = b.toNat := by
  unfold letterBytes at hb
  split at hb
  · rename_i hc
    -- a letter for a byte stands for one beyond ASCII
    have hlast : c.toNat < 0x110000 := by
      rcases c.valid with h | h
      · exact Nat.lt_trans h (by decide)
      · exact h.2
    rw [isByte, decide_eq_true_eq] at hc
    rw [List.mem_singleton] at hb
    rw [hb, toNat_ofNat_of_lt (by omega)] at hlow
    omega
  · have hascii : c.toNat < 0x80 := by
      by_contra hhigh
      have := high_of_mem_charBytes (by omega) hb
      omega
    have hbytes : charBytes c = [UInt8.ofNat c.toNat] := by
      rw [charBytes_eq]
      unfold String.utf8EncodeChar
      exact if_pos (by change c.toNat ≤ 127; omega)
    rw [hbytes, List.mem_singleton] at hb
    rw [hb, toNat_ofNat_of_lt (by omega)]

theorem letterBytes_ne_nil (c : Char) : letterBytes c ≠ [] := by
  unfold letterBytes
  split
  · simp
  · obtain ⟨lead, tail, hc, -⟩ := exists_lead c
    simp [hc]

/-- **An ASCII character that is shown was there.** -/
theorem mem_of_mem_shown {s : String} (hc : c.toNat < 0x80) (hzero : c ≠ '\x00')
    (h : c ∈ (shown s).toList) : c ∈ s.toList := by
  unfold shown at h
  split at h
  · rw [String.toList_ofList] at h
    obtain ⟨b, hb, heq⟩ := mem_of_mem_decodeLossy hc hzero h
    obtain ⟨d, hd, hbd⟩ := List.mem_flatMap.mp hb
    have hsame : d.toNat = c.toNat := (toNat_of_mem_letterBytes hbd (by omega)).trans heq
    rwa [← Char.toNat_inj.mp hsame]
  · exact h

theorem shown_ne_nil {s : String} (h : s.toList ≠ []) : (shown s).toList ≠ [] := by
  unfold shown
  split
  · rw [String.toList_ofList]
    refine decodeLossy_ne_nil fun hnil => ?_
    obtain ⟨c, s, hs⟩ := List.exists_cons_of_ne_nil h
    rw [hs, spelledBytes, List.flatMap_cons, List.append_eq_nil_iff] at hnil
    exact letterBytes_ne_nil c hnil.1
  · exact h

/-- The letters that spell a character of a text. -/
def lettersOf (c : Char) : List Char := if isByte c then (charBytes c).map byteLetter else [c]

theorem lettersOf_ne_nil (c : Char) : lettersOf c ≠ [] := by
  unfold lettersOf
  split
  · obtain ⟨lead, tail, hc, -⟩ := exists_lead c
    simp [hc]
  · simp

theorem lettersOf_of_ascii (hc : c.toNat < 0x80) : lettersOf c = [c] :=
  if_neg (by rw [isByte, decide_eq_true_eq]; omega)

/-- The bytes of a text are spelt character by character. -/
theorem spell_bytesOf (s : List Char) : spell (bytesOf s) = s.flatMap lettersOf := by
  induction s with
  | nil => simp [bytesOf, spell]
  | cons c s ih =>
    rw [bytesOf, List.flatMap_cons, spell_append, ← bytesOf, ih, List.flatMap_cons]
    rfl

/-- A text is spelt character by character. -/
theorem toList_spelling (s : String) : (spelling s).toList = s.toList.flatMap lettersOf := by
  unfold spelling
  split
  · rw [String.toList_ofList, spell_bytesOf]
  · rename_i hplain
    have hself : ∀ c ∈ s.toList, lettersOf c = [c] := fun c hc =>
      if_neg fun hbyte => hplain (List.any_eq_true.mpr ⟨c, hc, hbyte⟩)
    rw [List.flatMap_congr hself, List.flatMap_singleton']

/-- The spelling of a text has its ASCII characters. -/
theorem mem_flatMap_lettersOf (hc : c.toNat < 0x80) {s : List Char} :
    c ∈ s.flatMap lettersOf ↔ c ∈ s := by
  rw [List.mem_flatMap]
  constructor
  · rintro ⟨d, hd, hcd⟩
    unfold lettersOf at hcd
    split at hcd
    · obtain ⟨b, -, rfl⟩ := List.mem_map.mp hcd
      rw [toNat_byteLetter] at hc
      omega
    · rwa [List.mem_singleton.mp hcd]
  · exact fun h => ⟨c, h, by rw [lettersOf_of_ascii hc]; exact List.mem_singleton_self c⟩

/-- What is spelt as an ASCII text is that text. -/
theorem eq_of_flatMap_lettersOf {s t : List Char} (ht : ∀ c ∈ t, c.toNat < 0x80)
    (h : s.flatMap lettersOf = t) : s = t := by
  have hself : ∀ c ∈ s, lettersOf c = [c] := by
    intro c hc
    refine if_neg fun hbyte => ?_
    -- a letter for a byte would be in the text
    obtain ⟨d, hd⟩ := List.exists_mem_of_ne_nil _ (lettersOf_ne_nil c)
    have hlow : d.toNat < 0x80 := ht d (h ▸ List.mem_flatMap.mpr ⟨c, hc, hd⟩)
    rw [lettersOf, if_pos hbyte] at hd
    obtain ⟨b, -, rfl⟩ := List.mem_map.mp hd
    rw [toNat_byteLetter] at hlow
    omega
  rw [← h, List.flatMap_congr hself, List.flatMap_singleton']

theorem flatMap_lettersOf_of_ascii {s : List Char} (hs : ∀ c ∈ s, c.toNat < 0x80) :
    s.flatMap lettersOf = s := by
  rw [List.flatMap_congr fun c hc => lettersOf_of_ascii (hs c hc), List.flatMap_singleton']

end Ascii

end ComplexityLint.Text
