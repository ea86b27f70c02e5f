import ComplexityLint.Text.Spelling

/-!
The bytes of a text read back. The bytes of a character are a lead byte and a tail that lies in the
ranges that the lead calls for (`exists_lead`), so a reader takes exactly them and gets the character:
`decodeLossy_bytesOf` for texts, and `shown_spelling` for texts as they are spelt in a path.
-/

namespace ComplexityLint.Text

theorem charBytes_eq (c : Char) : charBytes c = String.utf8EncodeChar c := by
  simp [charBytes, List.utf8Encode_singleton]

/-! ### Lead bytes and their ranges -/

section Lead

variable {b : UInt8}

theorem eq_iff_toNat {k : UInt8} : b = k ↔ b.toNat = k.toNat := UInt8.toNat_inj.symm

theorem tails?_ascii (h : b.toNat < 0x80) : tails? b = some [] := by
  simp [tails?, UInt8.lt_iff_toNat_lt, h]

theorem tails?_two (h : 0xC2 ≤ b.toNat) (h' : b.toNat < 0xE0) :
    tails? b = some [(0x80, 0xBF)] := by
  have h1 : ¬ b.toNat < 0x80 := by omega
  have h2 : ¬ b.toNat < 0xC2 := by omega
  simp [tails?, UInt8.lt_iff_toNat_lt, h1, h2, h']

/-- The first byte of a tail of two is bounded so that nothing is encoded that is shorter in one
byte, and no surrogate. -/
theorem tails?_three (h : 0xE0 ≤ b.toNat) (h' : b.toNat < 0xF0) :
    tails? b = some [(if b = 0xE0 then 0xA0 else 0x80, if b = 0xED then 0x9F else 0xBF),
      (0x80, 0xBF)] := by
  have h1 : ¬ b.toNat < 0x80 := by omega
  have h2 : ¬ b.toNat < 0xC2 := by omega
  have h3 : ¬ b.toNat < 0xE0 := by omega
  by_cases c0 : b = 0xE0
  · subst c0; rfl
  by_cases cd : b = 0xED
  · subst cd; rfl
  · simp [tails?, UInt8.lt_iff_toNat_lt, h1, h2, h3, h', c0, cd]

/-- The first byte of a tail of three is bounded so that nothing is encoded that is shorter in two
bytes, and nothing beyond the last character. -/
theorem tails?_four (h : 0xF0 ≤ b.toNat) (h' : b.toNat < 0xF5) :
    tails? b = some [(if b = 0xF0 then 0x90 else 0x80, if b = 0xF4 then 0x8F else 0xBF),
      (0x80, 0xBF), (0x80, 0xBF)] := by
  have h1 : ¬ b.toNat < 0x80 := by omega
  have h2 : ¬ b.toNat < 0xC2 := by omega
  have h3 : ¬ b.toNat < 0xE0 := by omega
  have h4 : ¬ b.toNat < 0xF0 := by omega
  have ce : b ≠ 0xE0 := by rw [Ne, eq_iff_toNat]; simp; omega
  have cd : b ≠ 0xED := by rw [Ne, eq_iff_toNat]; simp; omega
  by_cases c0 : b = 0xF0
  · subst c0; rfl
  by_cases c4 : b = 0xF4
  · subst c4; rfl
  · have hlt : b.toNat < 0xF4 := by
      rw [eq_iff_toNat] at c4
      simp at c4
      omega
    simp [tails?, UInt8.lt_iff_toNat_lt, h1, h2, h3, h4, hlt, ce, cd, c0, c4]

end Lead

/-! ### The bytes of a character -/

theorem fitting_append {ranges : List (UInt8 × UInt8)} {tail : List UInt8}
    (h : fitting ranges tail = ranges.length) (bytes : List UInt8) :
    fitting ranges (tail ++ bytes) = ranges.length := by
  induction ranges generalizing tail with
  | nil => cases tail <;> simp [fitting]
  | cons r ranges ih =>
    rcases tail with _ | ⟨b, tail⟩
    · simp [fitting] at h
    · simp only [fitting, List.cons_append, List.length_cons] at h ⊢
      split at h
      · rename_i hin
        rw [if_pos hin, ih (by omega)]
      · omega

/-- What a lead byte calls for is there, and a character comes of it. -/
structure Encodes (lead : UInt8) (tail : List UInt8) (c : Char) : Prop where
  ranges : ∃ rs, tails? lead = some rs ∧ rs.length = tail.length ∧ fitting rs tail = rs.length
  assembled_eq : assembled lead tail = c

theorem toNat_ofNat_of_lt {n : Nat} (h : n < 256) : (UInt8.ofNat n).toNat = n := by
  simp [Nat.mod_eq_of_lt h]

/-- A byte that holds six more bits lies in its range, and so does the tail behind it. -/
theorem fitting_cons {lo hi : UInt8} {n : Nat} {ranges : List (UInt8 × UInt8)} {tail : List UInt8}
    (hn : n < 64) (hlo : lo.toNat ≤ n + 0x80) (hhi : n + 0x80 ≤ hi.toNat)
    (h : fitting ranges tail = ranges.length) :
    fitting ((lo, hi) :: ranges) (UInt8.ofNat (n + 0x80) :: tail) = ranges.length + 1 := by
  have hb : (UInt8.ofNat (n + 0x80)).toNat = n + 0x80 := toNat_ofNat_of_lt (by omega)
  have hin : (lo ≤ UInt8.ofNat (n + 0x80) && UInt8.ofNat (n + 0x80) ≤ hi) = true := by
    simp only [UInt8.le_iff_toNat_le, hb, Bool.and_eq_true, decide_eq_true_eq]
    exact ⟨hlo, hhi⟩
  rw [fitting, if_pos hin, h]

theorem encodes_one {v : Nat} (h : v ≤ 0x7f) : Encodes (UInt8.ofNat v) [] (Char.ofNat v) := by
  have hb : (UInt8.ofNat v).toNat = v := toNat_ofNat_of_lt (by omega)
  exact ⟨⟨[], tails?_ascii (by omega), rfl, rfl⟩, by simp [assembled, hb]⟩

theorem encodes_two {v : Nat} (h : 0x7f < v) (h' : v ≤ 0x7ff) :
    Encodes (UInt8.ofNat (v / 64 % 0x20 + 0xc0)) [UInt8.ofNat (v % 0x40 + 0x80)]
      (Char.ofNat v) := by
  have hl := toNat_ofNat_of_lt (n := v / 64 % 0x20 + 0xc0) (by omega)
  have ht := toNat_ofNat_of_lt (n := v % 0x40 + 0x80) (by omega)
  refine ⟨⟨_, tails?_two (by omega) (by omega), rfl, ?_⟩, ?_⟩
  · exact fitting_cons (by omega) (by simp) (by simp; omega) rfl
  · simp only [assembled, List.length_cons, List.length_nil, List.foldl_cons, List.foldl_nil, hl, ht]
    congr 1
    omega

theorem encodes_three {v : Nat} (h : 0x7ff < v) (h' : v ≤ 0xffff)
    (hv : v < 0xD800 ∨ 0xDFFF < v) :
    Encodes (UInt8.ofNat (v / 4096 % 0x10 + 0xe0))
      [UInt8.ofNat (v / 64 % 0x40 + 0x80), UInt8.ofNat (v % 0x40 + 0x80)] (Char.ofNat v) := by
  have hl := toNat_ofNat_of_lt (n := v / 4096 % 0x10 + 0xe0) (by omega)
  have ht := toNat_ofNat_of_lt (n := v / 64 % 0x40 + 0x80) (by omega)
  have ht' := toNat_ofNat_of_lt (n := v % 0x40 + 0x80) (by omega)
  refine ⟨⟨_, tails?_three (by omega) (by omega), rfl, ?_⟩, ?_⟩
  · refine fitting_cons (by omega) ?_ ?_ (fitting_cons (by omega) (by simp) (by simp; omega) rfl)
    · split
      · rename_i hb
        rw [eq_iff_toNat, hl] at hb
        simp at hb ⊢
        omega
      · simp
    · split
      · rename_i hb
        rw [eq_iff_toNat, hl] at hb
        simp at hb ⊢
        omega
      · simp
        omega
  · simp only [assembled, List.length_cons, List.length_nil, List.foldl_cons, List.foldl_nil, hl, ht,
      ht']
    congr 1
    omega

theorem encodes_four {v : Nat} (h : 0xffff < v) (h' : v < 0x110000) :
    Encodes (UInt8.ofNat (v / 262144 % 0x08 + 0xf0))
      [UInt8.ofNat (v / 4096 % 0x40 + 0x80), UInt8.ofNat (v / 64 % 0x40 + 0x80),
        UInt8.ofNat (v % 0x40 + 0x80)] (Char.ofNat v) := by
  have hl := toNat_ofNat_of_lt (n := v / 262144 % 0x08 + 0xf0) (by omega)
  have ht := toNat_ofNat_of_lt (n := v / 4096 % 0x40 + 0x80) (by omega)
  have ht' := toNat_ofNat_of_lt (n := v / 64 % 0x40 + 0x80) (by omega)
  have ht'' := toNat_ofNat_of_lt (n := v % 0x40 + 0x80) (by omega)
  refine ⟨⟨_, tails?_four (by omega) (by omega), rfl, ?_⟩, ?_⟩
  · refine fitting_cons (by omega) ?_ ?_ (fitting_cons (by omega) (by simp) (by simp; omega)
      (fitting_cons (by omega) (by simp) (by simp; omega) rfl))
    · split
      · rename_i hb
        rw [eq_iff_toNat, hl] at hb
        simp at hb ⊢
        omega
      · simp
    · split
      · rename_i hb
        rw [eq_iff_toNat, hl] at hb
        simp at hb ⊢
        omega
      · simp
        omega
  · simp only [assembled, List.length_cons, List.length_nil, List.foldl_cons, List.foldl_nil, hl, ht,
      ht', ht'']
    congr 1
    omega

/-- The bytes of a character are a lead byte and the tail that it calls for. -/
theorem exists_lead (c : Char) : ∃ lead tail, charBytes c = lead :: tail ∧ Encodes lead tail c := by
  have hv : c.val.toNat < 0xD800 ∨ 0xDFFF < c.val.toNat ∧ c.val.toNat < 0x110000 := c.valid
  have hc : c = Char.ofNat c.val.toNat := (Char.ofNat_toNat c).symm
  rw [charBytes_eq]
  unfold String.utf8EncodeChar
  generalize c.val.toNat = v at hv hc ⊢
  subst hc
  dsimp only
  split
  · exact ⟨_, _, rfl, encodes_one (by omega)⟩
  split
  · exact ⟨_, _, rfl, encodes_two (by omega) (by omega)⟩
  split
  · exact ⟨_, _, rfl, encodes_three (by omega) (by omega) (by omega)⟩
  · exact ⟨_, _, rfl, encodes_four (by omega) (by omega)⟩

theorem exists_tails? {lead : UInt8} {tail : List UInt8} {c : Char} (h : Encodes lead tail c)
    (bytes : List UInt8) :
    ∃ rs, tails? lead = some rs ∧ fitting rs (tail ++ bytes) = rs.length ∧
      (tail ++ bytes).take rs.length = tail ∧ (tail ++ bytes).drop rs.length = bytes := by
  obtain ⟨rs, hrs, hlen, hfit⟩ := h.ranges
  exact ⟨rs, hrs, fitting_append hfit bytes, by rw [hlen, List.take_left],
    by rw [hlen, List.drop_left]⟩

theorem decodeLossy_append (c : Char) (bytes : List UInt8) :
    decodeLossy (charBytes c ++ bytes) = c :: decodeLossy bytes := by
  obtain ⟨lead, tail, hc, henc⟩ := exists_lead c
  obtain ⟨rs, hrs, hfit, htake, hdrop⟩ := exists_tails? henc bytes
  rw [hc, List.cons_append, decodeLossy]
  simp only [hrs, hfit, if_true, htake, hdrop, henc.assembled_eq]

/-- **A text is read back from its bytes.** -/
theorem decodeLossy_bytesOf (s : List Char) : decodeLossy (bytesOf s) = s := by
  induction s with
  | nil => simp [bytesOf, decodeLossy]
  | cons c s ih =>
    rw [bytesOf, List.flatMap_cons, decodeLossy_append, ← bytesOf, ih]

/-! ### Spelling -/

theorem spell_append (c : Char) (bytes : List UInt8) :
    spell (charBytes c ++ bytes) =
      (if isByte c then (charBytes c).map byteLetter else [c]) ++ spell bytes := by
  obtain ⟨lead, tail, hc, henc⟩ := exists_lead c
  obtain ⟨rs, hrs, hfit, htake, hdrop⟩ := exists_tails? henc bytes
  rw [hc, List.cons_append, spell]
  simp only [hrs, hfit, if_true, htake, hdrop, henc.assembled_eq, hc]

theorem high_of_mem_charBytes {c : Char} (hc : 0x80 ≤ c.toNat) {b : UInt8} (hb : b ∈ charBytes c) :
    0x80 ≤ b.toNat := by
  have hlow : ∀ n, 0x80 ≤ n → n < 256 → 0x80 ≤ (UInt8.ofNat n).toNat := fun n h h' => by
    rwa [toNat_ofNat_of_lt h']
  change 0x80 ≤ c.val.toNat at hc
  rw [charBytes_eq] at hb
  unfold String.utf8EncodeChar at hb
  generalize c.val.toNat = v at hc hb
  dsimp only at hb
  rw [if_neg (by omega)] at hb
  repeat' split at hb
  all_goals
    simp only [List.mem_cons, List.not_mem_nil, or_false] at hb
    rcases hb with rfl | rfl | rfl | rfl <;> exact hlow _ (by omega) (by omega)

theorem toNat_byteLetter (b : UInt8) : (byteLetter b).toNat = 0x10FF00 + b.toNat := by
  have hb : b.toNat < 256 := b.toNat_lt
  have hvalid : Nat.isValidChar (0x10FF00 + b.toNat) := .inr ⟨by omega, by omega⟩
  rw [byteLetter, Char.ofNat, dif_pos hvalid]
  rfl

theorem isByte_byteLetter {b : UInt8} (hb : 0x80 ≤ b.toNat) : isByte (byteLetter b) = true := by
  rw [isByte, toNat_byteLetter, decide_eq_true_eq]
  omega

theorem letterBytes_byteLetter {b : UInt8} (hb : 0x80 ≤ b.toNat) :
    letterBytes (byteLetter b) = [b] := by
  rw [letterBytes, if_pos (isByte_byteLetter hb), toNat_byteLetter, Nat.add_sub_cancel_left,
    UInt8.ofNat_toNat]

/-- The letters that spell the bytes of a character stand for just these bytes. -/
theorem spelledBytes_letters {bytes : List UInt8} (h : ∀ b ∈ bytes, 0x80 ≤ b.toNat) :
    spelledBytes (bytes.map byteLetter) = bytes := by
  induction bytes with
  | nil => rfl
  | cons b bytes ih =>
    obtain ⟨hb, hbs⟩ := List.forall_mem_cons.mp h
    rw [spelledBytes, List.map_cons, List.flatMap_cons, letterBytes_byteLetter hb, ← spelledBytes,
      ih hbs, List.singleton_append]

theorem toNat_of_isByte {c : Char} (hc : isByte c = true) : 0x80 ≤ c.toNat := by
  rw [isByte, decide_eq_true_eq] at hc
  omega

theorem spelledBytes_spell_bytesOf (s : List Char) :
    spelledBytes (spell (bytesOf s)) = bytesOf s := by
  induction s with
  | nil => simp [bytesOf, spell, spelledBytes]
  | cons c s ih =>
    rw [bytesOf, List.flatMap_cons, spell_append, spelledBytes, List.flatMap_append, ← spelledBytes,
      ← spelledBytes, ← bytesOf, ih]
    cases hc : isByte c with
    | true =>
      rw [if_pos rfl, spelledBytes_letters fun b hb =>
        high_of_mem_charBytes (toNat_of_isByte hc) hb]
    | false => simp [spelledBytes, letterBytes, hc]

theorem any_isByte_spell_bytesOf (s : List Char) :
    (spell (bytesOf s)).any isByte = s.any isByte := by
  induction s with
  | nil => simp [bytesOf, spell]
  | cons c s ih =>
    rw [bytesOf, List.flatMap_cons, spell_append, List.any_append, ← bytesOf, ih, List.any_cons]
    cases hc : isByte c with
    | false => simp [hc]
    | true =>
      obtain ⟨lead, tail, hbytes, -⟩ := exists_lead c
      have hlead : isByte (byteLetter lead) = true :=
        isByte_byteLetter (high_of_mem_charBytes (toNat_of_isByte hc) (by simp [hbytes]))
      simp [hbytes, hlead]

/-- **A text is shown from its spelling as it was.** -/
theorem shown_spelling (s : String) : shown (spelling s) = s := by
  cases hs : s.toList.any isByte with
  | false => rw [spelling_eq_self hs, shown_eq_self hs]
  | true =>
    rw [spelling, if_pos hs, shown, String.toList_ofList, any_isByte_spell_bytesOf, if_pos hs,
      spelledBytes_spell_bytesOf, decodeLossy_bytesOf, String.ofList_toList]

end ComplexityLint.Text
