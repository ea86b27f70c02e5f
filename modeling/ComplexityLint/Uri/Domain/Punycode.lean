/-!
Punycode: a text in ASCII that stands for one with other characters. It holds the ASCII characters
of that text, and behind the last hyphen numbers that say which characters are put in, from small to
large, and where. The digits of a number have a weight and a threshold each; a digit below its
threshold is the last one. Numbers and weights fit in 32 bits.
-/

namespace ComplexityLint.Uri.Domain.Punycode

/-- The value of a digit. -/
def digit? (c : Char) : Option Nat :=
  if 'a' ≤ c ∧ c ≤ 'z' then some (c.toNat - 97)
  else if '0' ≤ c ∧ c ≤ '9' then some (c.toNat - 22)
  else none

/-- The threshold of a digit that is `k` in all from the front, where each digit counts for 36. -/
def threshold (k bias : Nat) : Nat :=
  if k ≤ bias then 1 else if bias + 26 ≤ k then 26 else k - bias

/-- Reads a number, from a digit of a weight on. -/
def number? (bias k weight value : Nat) : List Char → Option (Nat × List Char)
  | [] => none
  | c :: s => do
    let d ← digit? c
    let value := value + d * weight
    let next := weight * (36 - threshold k bias)
    if UInt32.size ≤ value then none
    else if d < threshold k bias then some (value, s)
    else if UInt32.size ≤ next then none
    else number? bias (k + 36) next value s

theorem length_lt_of_number? {bias k weight value n : Nat} {s rest : List Char}
    (h : number? bias k weight value s = some (n, rest)) : rest.length < s.length := by
  induction s generalizing k weight value with
  | nil => simp [number?] at h
  | cons c s ih =>
    simp only [number?, Option.bind_eq_bind, Option.bind_eq_some_iff] at h
    obtain ⟨d, -, h⟩ := h
    split at h
    · simp at h
    · split at h
      · simp only [Option.some.injEq, Prod.mk.injEq] at h
        simp [h.2]
      · split at h
        · simp at h
        · have := ih h
          simp only [List.length_cons]
          omega

/-- The bias for a difference that has been cut down `k / 36` times. -/
def biasFrom (k delta : Nat) : Nat :=
  if 455 < delta then biasFrom (k + 36) (delta / 35) else k + 36 * delta / (delta + 38)
termination_by delta
decreasing_by omega

/-- The bias behind the number `delta`, when there are `length` characters. -/
def biasBehind (delta length : Nat) (first : Bool) : Nat :=
  let delta := if first then delta / 700 else delta / 2
  biasFrom 0 (delta + delta / length)

/-- Puts characters into a text as the numbers say. The next one is put in at or behind `place`, and
is no smaller than `character`. -/
def insertAll? (first : Bool) (bias character place : Nat) (out s : List Char) :
    Option (List Char) :=
  match s with
  | [] => some out
  | c :: s =>
    match _h : number? bias 36 1 0 (c :: s) with
    | none => none
    | some (delta, rest) =>
      let length := out.length + 1
      let all := place + delta
      let character := character + all / length
      if character.isValidChar then
        insertAll? false (biasBehind delta length first) character (all % length + 1)
          (out.insertIdx (all % length) (Char.ofNat character)) rest
      else none
termination_by s.length
decreasing_by exact length_lt_of_number? (by assumption)

/-- The text that one in small letters stands for. -/
def decode? (s : List Char) : Option (List Char) :=
  let front := ((s.reverse.dropWhile (· ≠ '-')).drop 1).reverse
  let rest := if front = [] then s else s.drop (front.length + 1)
  insertAll? true 72 128 0 front rest

end ComplexityLint.Uri.Domain.Punycode
