import Mathlib.Data.List.TakeWhile
import ComplexityLint.Text.Blank
import ComplexityLint.Text.Digit

/-!
Classes of characters: texts that are filled by one class, texts that do not go on with it, and
which of the classes of a report exclude one another. Also the decimal digits that are written for
a number, and what reading them gives back.
-/

namespace ComplexityLint.Text

/-! ### Runs of a class -/

/-- A non-empty text of characters of one class. -/
def Filled (p : Char → Bool) (s : List Char) : Prop := s ≠ [] ∧ ∀ c ∈ s, p c = true

-- The bounded instance by name: the type of characters is finite, and one that runs through all of
-- them would be found as well.
instance (p : Char → Bool) (s : List Char) : Decidable (Filled p s) :=
  @instDecidableAnd (s ≠ []) (∀ c ∈ s, p c = true) inferInstance (List.decidableBAll _ s)

/-- A text that is empty or begins outside of a class. -/
def Stops (p : Char → Bool) (s : List Char) : Prop := ∀ c ∈ s.head?, p c = false

section Runs

variable {p : Char → Bool}

@[simp] theorem stops_nil : Stops p [] := by simp [Stops]

@[simp] theorem stops_cons {c : Char} {s : List Char} : Stops p (c :: s) ↔ p c = false := by
  simp [Stops]

theorem stops_dropWhile (s : List Char) : Stops p (s.dropWhile p) := by
  intro c hc
  have h := List.head?_dropWhile_not p s
  rw [Option.mem_def.mp hc] at h
  simpa using h

theorem Stops.append_left {r s : List Char} (h : Stops p (r ++ s)) (hr : r ≠ []) : Stops p r := by
  obtain ⟨c, r, rfl⟩ := List.exists_cons_of_ne_nil hr
  simpa using h

theorem Stops.append {r s : List Char} (h : Stops p r) (hr : r ≠ []) : Stops p (r ++ s) := by
  obtain ⟨c, r, rfl⟩ := List.exists_cons_of_ne_nil hr
  simpa using h

theorem Stops.of_filled {q : Char → Bool} {r s : List Char} (h : ∀ c, q c = true → p c = false)
    (hr : Filled q r) : Stops p (r ++ s) := by
  obtain ⟨hne, hq⟩ := hr
  obtain ⟨c, r, rfl⟩ := List.exists_cons_of_ne_nil hne
  simpa using h c (hq c (by simp))

theorem Filled.notMem {s : List Char} {x : Char} (h : Filled p s) (hx : p x = false) : x ∉ s := by
  intro hmem
  have := h.2 x hmem
  rw [hx] at this
  cases this

theorem takeWhile_append_of_stops {r s : List Char} (hr : ∀ c ∈ r, p c = true) (hs : Stops p s) :
    (r ++ s).takeWhile p = r := by
  rw [List.takeWhile_append_of_pos hr]
  cases s with
  | nil => simp
  | cons c s => rw [List.takeWhile_cons_of_neg (by simpa using hs), List.append_nil]

theorem dropWhile_append_of_stops {r s : List Char} (hr : ∀ c ∈ r, p c = true) (hs : Stops p s) :
    (r ++ s).dropWhile p = s := by
  rw [List.dropWhile_append_of_pos hr]
  cases s with
  | nil => simp
  | cons c s => rw [List.dropWhile_cons_of_neg (by simpa using hs)]

theorem filled_append_inj {r s r' s' : List Char} (hr : Filled p r) (hs : Stops p s)
    (hr' : Filled p r') (hs' : Stops p s') (h : r ++ s = r' ++ s') : r = r' ∧ s = s' := by
  have hrun := takeWhile_append_of_stops hr.2 hs
  have hrest := dropWhile_append_of_stops hr.2 hs
  rw [h, takeWhile_append_of_stops hr'.2 hs'] at hrun
  rw [h, dropWhile_append_of_stops hr'.2 hs'] at hrest
  exact ⟨hrun.symm, hrest.symm⟩

end Runs

/-! ### Blanks, digits and the marks of a row -/

/-- No digit of any script is a blank. -/
theorem isDigit_eq_false_of_isBlank {c : Char} (h : isBlank c = true) : isDigit c = false := by
  -- every script's ten digits keep clear of each range of blanks
  have apart : ∀ z ∈ zeros, 0x20 < z ∧ (z + 9 < 0x85 ∨ 0x85 < z) ∧ (z + 9 < 0xA0 ∨ 0xA0 < z) ∧
      (z + 9 < 0x1680 ∨ 0x1680 < z) ∧ (z + 9 < 0x2000 ∨ 0x205F < z) ∧
      (z + 9 < 0x3000 ∨ 0x3000 < z) := by decide
  simp only [isBlank, Bool.or_eq_true, Bool.and_eq_true, decide_eq_true_eq, beq_iff_eq] at h
  simp only [isDigit, List.any_eq_false, Bool.and_eq_true, decide_eq_true_eq, not_and]
  intro z hz h1 h2
  have := apart z hz
  omega

theorem isBlank_eq_false_of_isDigit {c : Char} (h : isDigit c = true) : isBlank c = false := by
  cases hb : isBlank c with
  | false => rfl
  | true => rw [isDigit_eq_false_of_isBlank hb] at h; cases h

/-- The ASCII digits are digits. -/
theorem isDigit_of_ascii {c : Char} (h : c.isDigit = true) : isDigit c = true := by
  have h1 : 0x30 ≤ c.toNat ∧ c.toNat ≤ 0x30 + 9 := by
    simp only [Char.isDigit, Bool.and_eq_true, decide_eq_true_eq] at h
    exact ⟨h.1, h.2⟩
  rw [isDigit, List.any_eq_true]
  exact ⟨0x30, by simp [zeros], by simpa using h1⟩

theorem isDigit_at : isDigit '@' = false := by decide
theorem isDigit_dash : isDigit '-' = false := by decide
theorem isDigit_space : isDigit ' ' = false := by decide
theorem isDigit_newline : isDigit '\n' = false := by decide
theorem isBlank_newline : isBlank '\n' = true := by decide

theorem isBlank_of_padding {c : Char} (h : c = ' ' ∨ c = '\t') : isBlank c = true := by
  rcases h with rfl | rfl <;> decide

/-! ### Decimal digits -/

/-- The decimal digits of a word. -/
def digits (n : UInt32) : List Char := Nat.toDigits 10 n.toNat

theorem toList_toString (n : UInt32) : (toString n.toNat).toList = digits n := Nat.toList_repr

theorem isDigit_digits {n : UInt32} {c : Char} (h : c ∈ digits n) : c.isDigit = true :=
  Nat.isDigit_of_mem_toDigits (by decide) (by decide) h

theorem filled_digits (n : UInt32) : Filled isDigit (digits n) :=
  ⟨Nat.toDigits_ne_nil, fun _ hc => isDigit_of_ascii (isDigit_digits hc)⟩

theorem decimal_toDigits (n : Nat) : decimal (Nat.toDigits 10 n) = n := by
  have h := Nat.ofDigitChars_ten_toDigits (n := n)
  rwa [Nat.ofDigitChars_eq_foldl] at h

theorem decimal_digits (n : UInt32) : decimal (digits n) = n.toNat := decimal_toDigits n.toNat

theorem digits_injective : Function.Injective digits := fun n n' h => by
  have hvalue := congrArg decimal h
  rw [decimal_digits, decimal_digits] at hvalue
  exact UInt32.toNat_inj.mp hvalue

/-- No number is written with a zero in front, except zero itself. -/
theorem toDigits_eq_zero_of_head? {n : Nat} (h : (Nat.toDigits 10 n).head? = some '0') :
    Nat.toDigits 10 n = ['0'] := by
  induction n using Nat.strong_induction_on with
  | _ n ih =>
    rw [Nat.toDigits_eq_if (by decide)] at h ⊢
    split
    · rename_i hlt
      rw [if_pos hlt, List.head?_cons, Option.some.injEq] at h
      rw [h]
    · rename_i hge
      obtain ⟨d, ds, hds⟩ := List.exists_cons_of_ne_nil (Nat.toDigits_ne_nil (b := 10) (n := n / 10))
      rw [if_neg hge, hds, List.cons_append, List.head?_cons] at h
      have hzero := ih (n / 10) (by omega) (by rw [hds, List.head?_cons, h])
      have hvalue := decimal_toDigits (n / 10)
      rw [hzero] at hvalue
      change 0 = n / 10 at hvalue
      omega

/-- A number of 32 bits in ASCII digits. -/
def IsWord (n : List Char) : Prop := (∀ c ∈ n, c.isDigit = true) ∧ decimal n < UInt32.size

theorem word?_eq_some_iff {n : List Char} {k : UInt32} :
    word? n = some k ↔ n ≠ [] ∧ IsWord n ∧ k.toNat = decimal n := by
  rw [word?]
  split
  · rename_i h
    obtain ⟨hne, hall, hlt⟩ := h
    have hword : IsWord n := ⟨List.all_eq_true.mp hall, hlt⟩
    rw [Option.some.injEq]
    constructor
    · rintro rfl
      exact ⟨hne, hword, UInt32.toNat_ofNat_of_lt' hlt⟩
    · rintro ⟨-, -, hk⟩
      rw [← hk, UInt32.ofNat_toNat]
  · rename_i h
    refine iff_of_false nofun ?_
    rintro ⟨hne, ⟨hall, hlt⟩, -⟩
    exact h ⟨hne, List.all_eq_true.mpr hall, hlt⟩

/-- Reading the digits of a word gives it back. -/
theorem word?_digits (n : UInt32) : word? (digits n) = some n := by
  have hword : IsWord (digits n) := by
    refine ⟨fun _ => isDigit_digits, ?_⟩
    rw [decimal_digits]
    exact n.toNat_lt_size
  exact word?_eq_some_iff.mpr ⟨(filled_digits n).1, hword, (decimal_digits n).symm⟩

end ComplexityLint.Text
