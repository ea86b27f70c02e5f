import ComplexityLint.Json.Reader
import ComplexityLint.Proofs.Text.Classes
import Mathlib.Data.List.Forall2

/-!
The texts of a JSON value. Between its parts any blanks can stand, and a character of a string can be
written in several ways. The indented text of a value is one of its texts (`written_chars`).
-/

namespace ComplexityLint.Json

open Text (Filled decimal hexValue? hexDigit)

/-- A list of items is in the values, and so is a list of members: induction along both. -/
@[elab_as_elim, induction_eliminator]
theorem induction {motive : Json → Prop} (null : motive .null) (bool : ∀ b, motive (.bool b))
    (number : ∀ n, motive (.number n)) (string : ∀ s, motive (.string s))
    (array : ∀ vs, (∀ v ∈ vs, motive v) → motive (.array vs))
    (object : ∀ ms, (∀ m ∈ ms, motive m.2) → motive (.object ms)) : ∀ v, motive v
  | .null => null
  | .bool b => bool b
  | .number n => number n
  | .string s => string s
  | .array vs => array vs fun v _ => induction null bool number string array object v
  | .object ms => object ms fun m _ => induction null bool number string array object m.2
decreasing_by
  · have := List.sizeOf_lt_of_mem ‹v ∈ vs›
    rw [Json.array.sizeOf_spec]
    omega
  · have := List.sizeOf_lt_of_mem ‹m ∈ ms›
    have hpair : sizeOf m = 1 + sizeOf m.1 + sizeOf m.2 := Prod.mk.sizeOf_spec m.1 m.2
    rw [Json.object.sizeOf_spec]
    omega

/-! ### The parts of a text -/

/-- Some blanks. -/
def Gap (s : List Char) : Prop := ∀ c ∈ s, isGap c = true

/-- The letters behind a backslash that stand for one character. -/
def letters : List (Char × Char) :=
  [('"', '"'), ('\\', '\\'), ('/', '/'), ('b', '\x08'), ('f', '\x0c'), ('n', '\n'), ('r', '\r'),
   ('t', '\t')]

/-- The number of four hexadecimal digits. -/
def Hex (s : List Char) (n : Nat) : Prop :=
  ∃ a b c d i j k l, s = [a, b, c, d] ∧ hexValue? a = some i ∧ hexValue? b = some j ∧
    hexValue? c = some k ∧ hexValue? d = some l ∧ n = 4096 * i + 256 * j + (16 * k + l)

/-- The ways to write a character of a string: as it is, by a letter, by its number, and beyond U+FFFF
by two numbers. -/
inductive Spelt : Char → List Char → Prop
  | plain {c : Char} (quote : c ≠ '"') (backslash : c ≠ '\\') (control : 32 ≤ c.toNat) : Spelt c [c]
  | letter {c e : Char} (h : (e, c) ∈ letters) : Spelt c ['\\', e]
  | number {c : Char} {s : List Char} (h : Hex s c.toNat) : Spelt c ('\\' :: 'u' :: s)
  | pair {c : Char} {s t : List Char} {hi lo : Nat} (hs : Hex s (0xD800 + hi)) (ht : Hex t (0xDC00 + lo))
      (hhi : hi < 0x400) (hlo : lo < 0x400) (h : c.toNat = 0x10000 + 1024 * hi + lo) :
      Spelt c ('\\' :: 'u' :: (s ++ '\\' :: 'u' :: t))

/-- The texts of a string, in quotes. -/
def Quoted (s : String) (t : List Char) : Prop :=
  ∃ ts, List.Forall₂ Spelt s.toList ts ∧ t = '"' :: ts.flatten ++ ['"']

/-- Decimal digits without a zero in front. -/
def Whole (s : List Char) : Prop := Filled Char.isDigit s ∧ (s.head? = some '0' → s = ['0'])

/-- The texts of a whole number, without a fraction and an exponent. -/
inductive Numeral : Int → List Char → Prop
  | positive {s : List Char} (h : Whole s) : Numeral (decimal s) s
  | negative {s : List Char} (h : Whole s) : Numeral (-decimal s) ('-' :: s)

/-! ### Values -/

mutual

/-- The texts of a value, without blanks around them. -/
inductive Written : Json → List Char → Prop
  | null : Written .null "null".toList
  | bool (b : Bool) : Written (.bool b) (if b then "true" else "false").toList
  | number {n : Int} {t : List Char} (h : Numeral n t) : Written (.number n) t
  | string {s : String} {t : List Char} (h : Quoted s t) : Written (.string s) t
  | array {vs : List Json} {t : List Char} (h : WrittenItems vs t) :
      Written (.array vs) ('[' :: t ++ [']'])
  | object {ms : List (String × Json)} {t : List Char} (h : WrittenMembers ms t) :
      Written (.object ms) ('\x7b' :: t ++ ['\x7d'])

/-- The texts of some items, with commas between them. -/
inductive WrittenItems : List Json → List Char → Prop
  | none {g : List Char} (hg : Gap g) : WrittenItems [] g
  | one {v : Json} {g t g' : List Char} (hg : Gap g) (h : Written v t) (hg' : Gap g') :
      WrittenItems [v] (g ++ t ++ g')
  | more {v w : Json} {vs : List Json} {t ts : List Char} (h : WrittenItems [v] t)
      (hs : WrittenItems (w :: vs) ts) : WrittenItems (v :: w :: vs) (t ++ ',' :: ts)

/-- The texts of some members, each with its name. -/
inductive WrittenMembers : List (String × Json) → List Char → Prop
  | none {g : List Char} (hg : Gap g) : WrittenMembers [] g
  | one {k : String} {v : Json} {g s g' t : List Char} (hg : Gap g) (hk : Quoted k s) (hg' : Gap g')
      (h : WrittenItems [v] t) : WrittenMembers [(k, v)] (g ++ s ++ g' ++ ':' :: t)
  | more {k : String} {v : Json} {m : String × Json} {ms : List (String × Json)}
      {g s g' t ts : List Char} (hg : Gap g) (hk : Quoted k s) (hg' : Gap g')
      (h : WrittenItems [v] t) (hs : WrittenMembers (m :: ms) ts) :
      WrittenMembers ((k, v) :: m :: ms) (g ++ s ++ g' ++ ':' :: t ++ ',' :: ts)

end

/-! ### The indented text -/

theorem hexValue?_hexDigit : ∀ d < 16, hexValue? (hexDigit d) = some d := by decide

theorem spelt_escapeChar (c : Char) : Spelt c (escapeChar c) := by
  unfold escapeChar
  split_ifs with hquote hbackslash hb hf hn hr ht hcontrol
  · exact .letter (by simp [letters, hquote])
  · exact .letter (by simp [letters, hbackslash])
  · exact .letter (by simp [letters, hb])
  · exact .letter (by simp [letters, hf])
  · exact .letter (by simp [letters, hn])
  · exact .letter (by simp [letters, hr])
  · exact .letter (by simp [letters, ht])
  · refine .number ⟨_, _, _, _, 0, 0, c.toNat / 16, c.toNat % 16, rfl, by decide, by decide,
      hexValue?_hexDigit _ (by omega), hexValue?_hexDigit _ (by omega), by omega⟩
  · exact .plain hquote hbackslash (by omega)

theorem quoted_quote (s : String) : Quoted s (quote s) := by
  refine ⟨s.toList.map escapeChar, ?_, by rw [quote, List.flatMap_def]⟩
  rw [List.forall₂_map_right_iff, List.forall₂_same]
  exact fun c _ => spelt_escapeChar c

theorem whole_toDigits (n : Nat) : Whole (Nat.toDigits 10 n) :=
  ⟨⟨Nat.toDigits_ne_nil, fun _ hc => Nat.isDigit_of_mem_toDigits (by decide) (by decide) hc⟩,
    Text.toDigits_eq_zero_of_head?⟩

theorem numeral_toString (n : Int) : Numeral n (toString n).toList := by
  have hdigits : ∀ m : Nat, m.repr.toList = Nat.toDigits 10 m := fun m => by
    rw [Nat.repr_eq_ofList_toDigits, String.toList_ofList]
  rw [Int.toString_eq_repr, Int.repr_eq_if]
  split
  · rename_i hn
    have h := Numeral.positive (whole_toDigits n.toNat)
    rwa [Text.decimal_toDigits, Int.toNat_of_nonneg hn, ← hdigits] at h
  · rename_i hn
    have h := Numeral.negative (whole_toDigits (-n).toNat)
    rw [Text.decimal_toDigits, Int.toNat_of_nonneg (by omega), Int.neg_neg, ← hdigits] at h
    rwa [String.toList_append]

theorem gap_newline (depth : Nat) : Gap (newline depth) := by
  intro c hc
  rcases List.mem_cons.mp hc with rfl | hc
  · rfl
  · rw [List.eq_of_mem_replicate hc]
    rfl

theorem gap_nil : Gap [] := by simp [Gap]

/-- The items of an array, if each of them is written at this depth. -/
theorem writtenItems_itemChars {depth : Nat} {v : Json} {vs : List Json} {close : List Char}
    (h : ∀ w ∈ v :: vs, Written w (chars depth w)) (hclose : Gap close) :
    WrittenItems (v :: vs) (newline depth ++ chars depth v ++ itemChars depth vs ++ close) := by
  induction vs generalizing v with
  | nil =>
    rw [itemChars, List.append_nil]
    exact .one (gap_newline depth) (h v List.mem_cons_self) hclose
  | cons w vs ih =>
    have hrest := ih fun w hw => h w (List.mem_cons_of_mem v hw)
    have hone := WrittenItems.one (gap_newline depth) (h v List.mem_cons_self) gap_nil
    have hmore := WrittenItems.more hone hrest
    simpa [itemChars] using hmore

theorem writtenMembers_restChars {depth : Nat} {m : String × Json} {ms : List (String × Json)}
    {close : List Char} (h : ∀ m' ∈ m :: ms, Written m'.2 (chars depth m'.2)) (hclose : Gap close) :
    WrittenMembers (m :: ms)
      (newline depth ++ memberChars depth m ++ restChars depth ms ++ close) := by
  have hspace : Gap [' '] := by simp [Gap, isGap]
  induction ms generalizing m with
  | nil =>
    obtain ⟨k, v⟩ := m
    have hvalue := WrittenItems.one hspace (h (k, v) List.mem_cons_self) hclose
    have hone := WrittenMembers.one (gap_newline depth) (quoted_quote k) gap_nil hvalue
    simpa [restChars, memberChars] using hone
  | cons m' ms ih =>
    obtain ⟨k, v⟩ := m
    have hrest := ih fun m hm => h m (List.mem_cons_of_mem (k, v) hm)
    have hvalue := WrittenItems.one hspace (h (k, v) List.mem_cons_self) gap_nil
    have hmore := WrittenMembers.more (gap_newline depth) (quoted_quote k) gap_nil hvalue hrest
    simpa [restChars, memberChars] using hmore

/-- **The indented text of a value writes it**, at any depth. -/
theorem written_chars (v : Json) (depth : Nat) : Written v (chars depth v) := by
  induction v generalizing depth with
  | null => exact .null
  | bool b => exact .bool b
  | number n => exact .number (numeral_toString n)
  | string s => exact .string (quoted_quote s)
  | array vs ih =>
    cases vs with
    | nil => exact .array (.none gap_nil)
    | cons v vs =>
      have hitems := writtenItems_itemChars (fun w hw => ih w hw (depth + 1)) (gap_newline depth)
      simpa [chars] using Written.array hitems
  | object ms ih =>
    cases ms with
    | nil => exact .object (.none gap_nil)
    | cons m ms =>
      have hmembers := writtenMembers_restChars (fun m hm => ih m hm (depth + 1)) (gap_newline depth)
      simpa [chars] using Written.object hmembers

end ComplexityLint.Json
