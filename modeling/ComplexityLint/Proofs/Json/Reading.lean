import ComplexityLint.Proofs.Json.Grammar
import Mathlib.Data.List.DropRight

/-!
The reader takes every text of a value for that value (`read?_of_document`), so that no text is a text
of two values. In particular the indented text of a value is read as the value.

Each reader is followed on the text of its own part, whatever stands behind it. Only a number has to
be told from what follows: `Ends` says that this does not go on with it. The last section finds the
parts of a value by the names of members.
-/

namespace ComplexityLint.Json

open Text

/-! ### Blanks -/

theorem eq_of_isGap {c : Char} (h : isGap c = true) : c = ' ' ∨ c = '\t' ∨ c = '\n' ∨ c = '\r' := by
  simpa only [isGap, Bool.or_eq_true, decide_eq_true_eq, or_assoc] using h

theorem skipGap_append {g s : List Char} (hg : Gap g) : skipGap (g ++ s) = skipGap s :=
  List.dropWhile_append_of_pos hg

theorem skipGap_cons {c : Char} {s : List Char} (hc : isGap c = false) : skipGap (c :: s) = c :: s :=
  List.dropWhile_cons_of_neg (by simp [hc])

theorem skipGap_skipGap (s : List Char) : skipGap (skipGap s) = skipGap s :=
  List.dropWhile_idempotent _ s

theorem skipGap_of_gap {g : List Char} (hg : Gap g) : skipGap g = [] :=
  List.dropWhile_eq_nil_iff.mpr hg

/-! ### Numbers -/

/-- A character that could go on with a number. -/
def isNumeral (c : Char) : Bool := c.isDigit || c = '.' || c = 'e' || c = 'E'

/-- What stands behind a value does not go on with a number. -/
def Ends (s : List Char) : Prop := Stops isNumeral s

theorem ends_of_gap {g s : List Char} (hg : Gap g) (hs : Ends s) : Ends (g ++ s) := by
  cases g with
  | nil => exact hs
  | cons c g =>
    rcases eq_of_isGap (hg c List.mem_cons_self) with rfl | rfl | rfl | rfl <;>
      exact stops_cons.mpr (by decide)

theorem Ends.digits {s : List Char} (h : Ends s) : Stops Char.isDigit s := by
  intro c hc
  have := h c hc
  simp only [isNumeral, Bool.or_eq_false_iff] at this
  exact this.1.1.1

theorem digits?_append {d s : List Char} (hd : Filled Char.isDigit d) (hs : Stops Char.isDigit s) :
    digits? (d ++ s) = some (d, s) := by
  rw [digits?, takeWhile_append_of_stops hd.2 hs, dropWhile_append_of_stops hd.2 hs]
  obtain ⟨c, d, rfl⟩ := List.exists_cons_of_ne_nil hd.1
  rfl

theorem fraction?_of_ends {s : List Char} (h : Ends s) : fraction? s = some (false, s) := by
  rw [fraction?]
  rintro s rfl
  simp [Ends, isNumeral] at h

theorem exponent?_of_ends {s : List Char} (h : Ends s) : exponent? s = some (false, s) := by
  cases s with
  | nil => rfl
  | cons c s =>
    simp only [Ends, stops_cons, isNumeral, Bool.or_eq_false_iff, decide_eq_false_iff_not] at h
    have hexponent : ¬(c = 'e' ∨ c = 'E') := by tauto
    simp [exponent?.eq_def, hexponent]

theorem Whole.no_zero {d : List Char} (h : Whole d) : ¬(1 < d.length ∧ d.head? = some '0') := by
  rintro ⟨hlength, hzero⟩
  rw [h.2 hzero] at hlength
  exact absurd hlength (by decide)

theorem number?_append {n : Int} {t s : List Char} (h : Numeral n t) (hs : Ends s) :
    number? (t ++ s) = some (.number n, s) := by
  cases h with
  | positive hd =>
    -- the reader looks for a sign first
    have hdash : ∀ u, t ++ s ≠ '-' :: u := by
      obtain ⟨c, d, rfl⟩ := List.exists_cons_of_ne_nil hd.1.1
      rintro u hu
      have hc := hd.1.2 c List.mem_cons_self
      rw [(List.cons.inj hu).1] at hc
      exact absurd hc (by decide)
    simp [number?, digits?_append hd.1 hs.digits, hd.no_zero, fraction?_of_ends hs,
      exponent?_of_ends hs]
  | negative hd =>
    simp [number?, digits?_append hd.1 hs.digits, hd.no_zero, fraction?_of_ends hs,
      exponent?_of_ends hs]

/-! ### Strings -/

theorem unit?_append {t s : List Char} {n : Nat} (h : Hex t n) : unit? (t ++ s) = some (n, s) := by
  obtain ⟨a, b, c, d, i, j, k, l, rfl, ha, hb, hc, hd, rfl⟩ := h
  simp [unit?, ha, hb, hc, hd, Nat.add_assoc]

/-- The number of a character is none of those that stand for half of one. -/
theorem toNat_lt_or_ge (c : Char) : c.toNat < 0xD800 ∨ 0xE000 ≤ c.toNat := by
  rcases c.valid with h | ⟨h, -⟩
  · exact .inl h
  · exact .inr h

theorem stringUpTo_escape {c : Char} {u s : List Char} (h : escape? u = some (c, s)) (fuel : Nat) :
    stringUpTo (fuel + 1) ('\\' :: u) = (stringUpTo fuel s).map fun (r, s) => (c :: r, s) := by
  rw [stringUpTo, if_neg (by decide), if_pos rfl, h]
  exact Option.map_eq_bind.symm

/-- A character of a string is read, whichever way it is written. -/
theorem stringUpTo_spelt {c : Char} {t s : List Char} (h : Spelt c t) (fuel : Nat) :
    stringUpTo (fuel + 1) (t ++ s) = (stringUpTo fuel s).map fun (r, s) => (c :: r, s) := by
  cases h with
  | plain hquote hbackslash hcontrol =>
    rw [List.singleton_append, stringUpTo, if_neg hquote, if_neg hbackslash, if_neg (by omega)]
  | letter h =>
    refine stringUpTo_escape ?_ fuel
    simp only [letters, List.mem_cons, Prod.mk.injEq, List.not_mem_nil, or_false] at h
    rcases h with ⟨rfl, rfl⟩ | ⟨rfl, rfl⟩ | ⟨rfl, rfl⟩ | ⟨rfl, rfl⟩ | ⟨rfl, rfl⟩ | ⟨rfl, rfl⟩ |
      ⟨rfl, rfl⟩ | ⟨rfl, rfl⟩ <;> rfl
  | number h =>
    refine stringUpTo_escape ?_ fuel
    have hrange := toNat_lt_or_ge c
    rw [List.append_eq, List.cons_append, escape?, codePoint?, unit?_append h]
    simp only [Option.bind_eq_bind, Option.bind_some]
    rw [if_neg (by omega), if_neg (by omega), Char.ofNat_toNat]
    rfl
  | pair hs ht hhi hlo h =>
    refine stringUpTo_escape ?_ fuel
    rw [List.append_eq, List.cons_append, List.append_assoc, escape?, codePoint?, unit?_append hs]
    simp only [Option.bind_eq_bind, Option.bind_some, List.cons_append]
    rw [if_neg (by omega), if_pos (by omega), unit?_append ht]
    simp only [Option.bind_some]
    rename_i hi lo
    have hvalue : 0x10000 + 1024 * (0xD800 + hi - 0xD800) + (0xDC00 + lo - 0xDC00) = c.toNat := by
      omega
    rw [if_pos (by omega), hvalue, Char.ofNat_toNat]
    rfl

theorem Spelt.ne_nil {c : Char} {t : List Char} (h : Spelt c t) : t ≠ [] := by
  cases h <;> nofun

theorem stringUpTo_append {cs : List Char} {ts : List (List Char)} {s : List Char} {fuel : Nat}
    (h : List.Forall₂ Spelt cs ts) (hfuel : ts.flatten.length < fuel) :
    stringUpTo fuel (ts.flatten ++ '"' :: s) = some (cs, s) := by
  induction h generalizing fuel with
  | nil =>
    obtain _ | fuel := fuel
    · exact absurd hfuel (by simp)
    · rfl
  | @cons c t cs ts ht _ ih =>
    rw [List.flatten_cons, List.length_append] at hfuel
    have hlength := List.length_pos_iff.mpr ht.ne_nil
    obtain _ | fuel := fuel
    · omega
    · rw [List.flatten_cons, List.append_assoc, stringUpTo_spelt ht, ih (by omega)]
      rfl

/-- A text of a string is a quote and what is read as the string. -/
theorem Quoted.exists_string? {k : String} {t : List Char} (h : Quoted k t) :
    ∃ u, t = '"' :: u ∧ ∀ s, string? (u ++ s) = some (k, s) := by
  obtain ⟨ts, hts, rfl⟩ := h
  refine ⟨ts.flatten ++ ['"'], rfl, fun s => ?_⟩
  rw [List.append_assoc, List.singleton_append, string?,
    stringUpTo_append hts (by rw [List.length_append]; omega)]
  simp

/-! ### Values -/

theorem plain?_eq_number? {c : Char} {s : List Char} (h : c = '-' ∨ c.isDigit = true) :
    plain? (c :: s) = number? (c :: s) := by
  unfold plain?
  split
  · simp_all
  · simp_all
  · simp_all
  · rfl

theorem Numeral.exists_head {n : Int} {t : List Char} (h : Numeral n t) :
    ∃ c u, t = c :: u ∧ (c = '-' ∨ c.isDigit = true) := by
  cases h with
  | positive hd =>
    obtain ⟨c, d, rfl⟩ := List.exists_cons_of_ne_nil hd.1.1
    exact ⟨c, d, rfl, .inr (hd.1.2 c List.mem_cons_self)⟩
  | negative hd => exact ⟨'-', _, rfl, .inl rfl⟩

/-- A number begins with no character that has another meaning. -/
theorem ne_of_numeral {c : Char} (h : c = '-' ∨ c.isDigit = true) :
    isGap c = false ∧ c ≠ '"' ∧ c ≠ '[' ∧ c ≠ ']' ∧ c ≠ '\x7b' := by
  refine ⟨?_, ?_, ?_, ?_, ?_⟩
  · rw [Bool.eq_false_iff]
    intro hgap
    rcases eq_of_isGap hgap with rfl | rfl | rfl | rfl <;> exact absurd h (by decide)
  all_goals
    rintro rfl
    exact absurd h (by decide)

/-- The text of a value begins with no blank and no closing bracket. -/
theorem Written.exists_head {v : Json} {t : List Char} (h : Written v t) :
    ∃ c u, t = c :: u ∧ isGap c = false ∧ c ≠ ']' := by
  cases h with
  | null => exact ⟨'n', _, rfl, rfl, by decide⟩
  | bool b => cases b <;> exact ⟨_, _, rfl, rfl, by decide⟩
  | number h =>
    obtain ⟨c, u, rfl, hc⟩ := h.exists_head
    exact ⟨c, u, rfl, (ne_of_numeral hc).1, (ne_of_numeral hc).2.2.2.1⟩
  | string h =>
    obtain ⟨u, rfl, -⟩ := h.exists_string?
    exact ⟨'"', u, rfl, rfl, by decide⟩
  | array h => exact ⟨'[', _, rfl, rfl, by decide⟩
  | object h => exact ⟨'\x7b', _, rfl, rfl, by decide⟩

section Layout

variable (fuel : Nat) (s : List Char)

theorem valueUpTo_skipGap : valueUpTo fuel (skipGap s) = valueUpTo fuel s := by
  cases fuel with
  | zero => rfl
  | succ fuel => rw [valueUpTo, valueUpTo, skipGap_skipGap]

theorem itemsUpTo_skipGap : itemsUpTo fuel (skipGap s) = itemsUpTo fuel s := by
  cases fuel with
  | zero => rfl
  | succ fuel => rw [itemsUpTo, itemsUpTo, valueUpTo_skipGap]

theorem membersUpTo_skipGap : membersUpTo fuel (skipGap s) = membersUpTo fuel s := by
  cases fuel with
  | zero => rfl
  | succ fuel => rw [membersUpTo, membersUpTo, skipGap_skipGap]

theorem valueUpTo_gap {g : List Char} (hg : Gap g) : valueUpTo fuel (g ++ s) = valueUpTo fuel s := by
  rw [← valueUpTo_skipGap, skipGap_append hg, valueUpTo_skipGap]

end Layout

theorem valueUpTo_numeral {n : Int} {t s : List Char} (h : Numeral n t) (hs : Ends s) (fuel : Nat) :
    valueUpTo (fuel + 1) (t ++ s) = some (.number n, s) := by
  have hnumber := number?_append h hs
  obtain ⟨c, u, rfl, hc⟩ := h.exists_head
  obtain ⟨hgap, hquote, hbracket, -, hbrace⟩ := ne_of_numeral hc
  rw [List.cons_append] at hnumber ⊢
  rw [valueUpTo, skipGap_cons hgap]
  simp [hquote, hbracket, hbrace, plain?_eq_number? hc, hnumber]

theorem valueUpTo_quoted {k : String} {t : List Char} (h : Quoted k t) (fuel : Nat) (s : List Char) :
    valueUpTo (fuel + 1) (t ++ s) = some (.string k, s) := by
  obtain ⟨u, rfl, hu⟩ := h.exists_string?
  rw [List.cons_append, valueUpTo, skipGap_cons rfl]
  simp [hu]

/-- An array with an item is read item by item. -/
theorem valueUpTo_array {s : List Char} (h : ∀ u, skipGap s ≠ ']' :: u) (fuel : Nat) :
    valueUpTo (fuel + 1) ('[' :: s) = (itemsUpTo fuel s).map fun (vs, s) => (.array vs, s) := by
  rw [valueUpTo, skipGap_cons rfl, ← itemsUpTo_skipGap fuel s]
  simp

theorem valueUpTo_object {s : List Char} (h : ∀ u, skipGap s ≠ '\x7d' :: u) (fuel : Nat) :
    valueUpTo (fuel + 1) ('\x7b' :: s) = (membersUpTo fuel s).map fun (ms, s) => (.object ms, s) := by
  rw [valueUpTo, skipGap_cons rfl, ← membersUpTo_skipGap fuel s]
  simp

/-- The reader takes a text for a value, whatever stands behind it. -/
def Reads (v : Json) (t : List Char) : Prop :=
  ∀ s fuel, Ends s → t.length ≤ fuel + 1 → valueUpTo (fuel + 1) (t ++ s) = some (v, s)

/-- A value with blanks around it is read up to the blanks behind it. -/
theorem exists_valueUpTo {v : Json} {t s : List Char} {fuel : Nat} (hv : ∀ u, Written v u → Reads v u)
    (h : WrittenItems [v] t) (hs : Ends s) (hfuel : t.length ≤ fuel) :
    ∃ g, Gap g ∧ valueUpTo fuel (t ++ s) = some (v, g ++ s) := by
  cases h with
  | @one _ g u g' hg h hg' =>
    refine ⟨g', hg', ?_⟩
    rw [List.append_assoc, List.append_assoc, valueUpTo_gap _ _ hg]
    have hread := hv u h (g' ++ s)
    obtain ⟨c, u, rfl, -⟩ := h.exists_head
    simp only [List.length_append, List.length_cons] at hfuel
    obtain ⟨fuel, rfl⟩ : ∃ n, fuel = n + 1 := ⟨fuel - 1, by omega⟩
    exact hread fuel (ends_of_gap hg' hs) (by rw [List.length_cons]; omega)

theorem itemsUpTo_append {v : Json} {vs : List Json} {t s : List Char} {fuel : Nat}
    (hvs : ∀ w ∈ v :: vs, ∀ u, Written w u → Reads w u) (h : WrittenItems (v :: vs) t)
    (hfuel : t.length < fuel) : itemsUpTo fuel (t ++ ']' :: s) = some (v :: vs, s) := by
  obtain ⟨fuel, rfl⟩ : ∃ n, fuel = n + 1 := ⟨fuel - 1, by omega⟩
  induction vs generalizing v t fuel with
  | nil =>
    obtain ⟨g, hg, hv⟩ := exists_valueUpTo (s := ']' :: s) (hvs v List.mem_cons_self) h
      (stops_cons.mpr (by decide)) (Nat.le_of_lt_succ hfuel)
    rw [itemsUpTo, hv]
    simp [skipGap_append hg, skipGap_cons, isGap]
  | cons w vs ih =>
    cases h with
    | @more _ _ _ t ts h hs =>
    simp only [List.length_append, List.length_cons] at hfuel
    have hlength : t.length ≤ fuel := by omega
    obtain ⟨fuel, rfl⟩ : ∃ n, fuel = n + 1 := ⟨fuel - 1, by omega⟩
    obtain ⟨g, hg, hv⟩ := exists_valueUpTo (s := ',' :: (ts ++ ']' :: s))
      (hvs v List.mem_cons_self) h (stops_cons.mpr (by decide)) hlength
    have hrest := ih (fun w hw => hvs w (List.mem_cons_of_mem v hw)) hs fuel (by omega)
    rw [List.append_assoc, List.cons_append, itemsUpTo, hv]
    simp [skipGap_append hg, skipGap_cons, isGap, hrest]

theorem membersUpTo_append {m : String × Json} {ms : List (String × Json)} {t s : List Char}
    {fuel : Nat} (hms : ∀ m' ∈ m :: ms, ∀ u, Written m'.2 u → Reads m'.2 u)
    (h : WrittenMembers (m :: ms) t) (hfuel : t.length < fuel) :
    membersUpTo fuel (t ++ '\x7d' :: s) = some (m :: ms, s) := by
  obtain ⟨fuel, rfl⟩ : ∃ n, fuel = n + 1 := ⟨fuel - 1, by omega⟩
  induction ms generalizing m t fuel with
  | nil =>
    cases h with
    | @one k v g q g' t hg hk hg' h =>
    simp only [List.length_append, List.length_cons] at hfuel
    have hlength : t.length ≤ fuel := by omega
    obtain ⟨g'', hg'', hv⟩ := exists_valueUpTo (s := '\x7d' :: s)
      (hms (k, v) List.mem_cons_self) h (stops_cons.mpr (by decide)) hlength
    obtain ⟨u, rfl, hu⟩ := hk.exists_string?
    simp [membersUpTo, skipGap_append, skipGap_cons, isGap, hg, hu, hg', hv, hg'']
  | cons m' ms ih =>
    cases h with
    | @more k v _ _ g q g' t ts hg hk hg' h hs =>
    simp only [List.length_append, List.length_cons] at hfuel
    have hlength : t.length ≤ fuel := by omega
    obtain ⟨fuel, rfl⟩ : ∃ n, fuel = n + 1 := ⟨fuel - 1, by omega⟩
    obtain ⟨g'', hg'', hv⟩ := exists_valueUpTo (s := ',' :: (ts ++ '\x7d' :: s))
      (hms (k, v) List.mem_cons_self) h (stops_cons.mpr (by decide)) hlength
    have hrest := ih (fun m hm => hms m (List.mem_cons_of_mem _ hm)) hs fuel (by omega)
    obtain ⟨u, rfl, hu⟩ := hk.exists_string?
    rw [membersUpTo]
    simp [skipGap_append, skipGap_cons, isGap, hg, hu, hg', hv, hg'', hrest]

theorem WrittenItems.exists_head {v : Json} {vs : List Json} {t : List Char}
    (h : WrittenItems (v :: vs) t) (s : List Char) : ∃ c u, skipGap (t ++ s) = c :: u ∧ c ≠ ']' := by
  have hvalue : ∀ u r, WrittenItems [v] u → ∃ c w, skipGap (u ++ r) = c :: w ∧ c ≠ ']' := by
    rintro _ r (_ | @⟨_, g, u, g', hg, h, -⟩)
    obtain ⟨c, u, rfl, hc, hbracket⟩ := h.exists_head
    refine ⟨c, u ++ g' ++ r, ?_, hbracket⟩
    rw [List.append_assoc, List.append_assoc, skipGap_append hg, List.cons_append, skipGap_cons hc,
      List.append_assoc]
  cases h with
  | one hg h hg' => exact hvalue _ s (.one hg h hg')
  | more h hs => simpa using hvalue _ (',' :: _ ++ s) h

theorem WrittenMembers.exists_head {m : String × Json} {ms : List (String × Json)} {t : List Char}
    (h : WrittenMembers (m :: ms) t) (s : List Char) : ∃ u, skipGap (t ++ s) = '"' :: u := by
  have hname : ∀ g u, Gap g → ∃ w, skipGap (g ++ '"' :: u) = '"' :: w := fun g u hg =>
    ⟨u, by rw [skipGap_append hg, skipGap_cons rfl]⟩
  cases h with
  | one hg hk hg' h | more hg hk hg' h hs =>
    obtain ⟨u, rfl, -⟩ := hk.exists_string?
    simpa using hname _ (u ++ _) hg

/-- **A text of a value is read as the value.** -/
theorem reads_of_written (v : Json) : ∀ t, Written v t → Reads v t := by
  induction v with
  | null =>
    rintro _ ⟨⟩ s fuel - -
    rfl
  | bool b =>
    rintro _ ⟨⟩ s fuel - -
    cases b <;> rfl
  | number n =>
    intro t h s fuel hs _
    cases h with
    | number h => exact valueUpTo_numeral h hs fuel
  | string k =>
    intro t h s fuel _ _
    cases h with
    | string h => exact valueUpTo_quoted h fuel s
  | array vs ih =>
    intro t h s fuel _ hfuel
    cases h with
    | @array _ t h =>
    simp only [List.length_append, List.length_cons, List.length_nil] at hfuel
    have hlength : t.length < fuel := by omega
    rw [List.append_assoc, List.singleton_append, List.cons_append]
    cases vs with
    | nil =>
      cases h with
      | none hg =>
      simp [valueUpTo, skipGap_append hg, skipGap_cons, isGap]
    | cons v vs =>
      obtain ⟨c, u, hu, hc⟩ := h.exists_head (']' :: s)
      rw [valueUpTo_array (by simp [hu, hc]), itemsUpTo_append ih h hlength]
      rfl
  | object ms ih =>
    intro t h s fuel _ hfuel
    cases h with
    | @object _ t h =>
    simp only [List.length_append, List.length_cons, List.length_nil] at hfuel
    have hlength : t.length < fuel := by omega
    rw [List.append_assoc, List.singleton_append, List.cons_append]
    cases ms with
    | nil =>
      cases h with
      | none hg =>
      simp [valueUpTo, skipGap_append hg, skipGap_cons, isGap]
    | cons m ms =>
      obtain ⟨u, hu⟩ := h.exists_head ('\x7d' :: s)
      rw [valueUpTo_object (by simp [hu]), membersUpTo_append ih h hlength]
      rfl

/-! ### Documents -/

/-- A text is a JSON document of a value: the value with blanks around it. -/
def Document (v : Json) (text : String) : Prop := WrittenItems [v] text.toList

theorem read?_of_document {v : Json} {text : String} (h : Document v text) : read? text = some v := by
  obtain ⟨g, hg, hv⟩ := exists_valueUpTo (s := []) (reads_of_written v) h stops_nil
    (Nat.le_succ text.toList.length)
  rw [List.append_nil, List.append_nil] at hv
  rw [read?, hv]
  simp [skipGap_of_gap hg]

/-- A text is a document of one value at most. -/
theorem Document.unique {v w : Json} {text : String} (hv : Document v text) (hw : Document w text) :
    v = w := by
  have h := read?_of_document hv
  rw [read?_of_document hw] at h
  exact (Option.some.inj h).symm

theorem document_pretty (v : Json) : Document v v.pretty := by
  have h := WrittenItems.one gap_nil (written_chars v 0) gap_nil
  rwa [List.nil_append, List.append_nil, ← String.toList_ofList (l := chars 0 v)] at h

theorem document_pretty_iff {v w : Json} : Document w v.pretty ↔ w = v := by
  constructor
  · exact fun h => h.unique (document_pretty v)
  · rintro rfl
    exact document_pretty w

/-- The indented text of a value is read as the value. -/
theorem read?_pretty (v : Json) : read? v.pretty = some v := read?_of_document (document_pretty v)

/-! ### Members -/

/-- What stands at the end of a path of member names. -/
def at? (v : Json) : List String → Option Json
  | [] => some v
  | k :: ks =>
    match v with
    | .object ms => (ms.lookup k).bind fun w => at? w ks
    | _ => none

/-- The string at the end of a path. -/
def text? (v : Json) (path : List String) : Option String :=
  match v.at? path with
  | some (.string s) => some s
  | _ => none

/-- The number at the end of a path. -/
def whole? (v : Json) (path : List String) : Option Int :=
  match v.at? path with
  | some (.number n) => some n
  | _ => none

/-- The number of 32 bits at the end of a path. -/
def word? (v : Json) (path : List String) : Option UInt32 :=
  (v.whole? path).bind fun n =>
    if 0 ≤ n ∧ n < UInt32.size then some (UInt32.ofNat n.toNat) else none

theorem word?_of_whole? {v : Json} {path : List String} {n : UInt32}
    (h : v.whole? path = some (n.toNat : Int)) : v.word? path = some n := by
  have hlt := n.toNat_lt_size
  rw [word?, h, Option.bind_some, if_pos ⟨by omega, by omega⟩, Int.toNat_natCast,
    UInt32.ofNat_toNat]

/-- The items of the array at the end of a path. -/
def items? (v : Json) (path : List String) : Option (List Json) :=
  match v.at? path with
  | some (.array vs) => some vs
  | _ => none

end ComplexityLint.Json
