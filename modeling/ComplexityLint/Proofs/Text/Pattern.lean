import ComplexityLint.Proofs.Text.Classes
import ComplexityLint.Text.Pieces

/-!
Patterns over classes of characters, matched by trying. A pattern is a row of items; each item cuts
a piece off the front of a text, and an item that could cut in several ways says which way it
prefers. A match takes the first place where the pattern can start, and there the preferred way,
the earlier items choosing first. What it hands over are the pieces of the items that are groups.

A run that the rest of the pattern cannot begin with is always taken whole
(`ways_many1_of_stuck`): trying fewer characters never helps.
-/

namespace ComplexityLint.Text

/-- What one item of a pattern takes. -/
inductive Item
  /-- One character. -/
  | one (p : Char → Bool)
  /-- One character, or none: rather one. -/
  | maybe (p : Char → Bool)
  /-- Any number of characters, rather more than fewer. -/
  | many (p : Char → Bool)
  /-- At least one character, rather more than fewer. -/
  | many1 (p : Char → Bool)
  /-- Any number of characters, rather fewer than more. -/
  | few (p : Char → Bool)

namespace Item

/-- Puts a character in front of the piece that was cut off. -/
def put (c : Char) (cut : List Char × List Char) : List Char × List Char := (c :: cut.1, cut.2)

/-- The ways to cut off characters of a class, longer pieces first. -/
def longest (p : Char → Bool) : List Char → List (List Char × List Char)
  | [] => [([], [])]
  | c :: s => (if p c then (longest p s).map (put c) else []) ++ [([], c :: s)]

/-- The ways to cut off characters of a class, shorter pieces first. -/
def shortest (p : Char → Bool) : List Char → List (List Char × List Char)
  | [] => [([], [])]
  | c :: s => ([], c :: s) :: (if p c then (shortest p s).map (put c) else [])

/-- The ways in which an item can cut a text, in the order of preference: the piece, and the text
that remains. -/
def cuts : Item → List Char → List (List Char × List Char)
  | one _, [] => []
  | one p, c :: s => if p c then [([c], s)] else []
  | maybe _, [] => [([], [])]
  | maybe p, c :: s => (if p c then [([c], s)] else []) ++ [([], c :: s)]
  | many p, s => longest p s
  | many1 _, [] => []
  | many1 p, c :: s => if p c then (longest p s).map (put c) else []
  | few p, s => shortest p s

variable {p : Char → Bool}

/-- The longest piece is preferred. -/
theorem head?_longest (s : List Char) :
    (longest p s).head? = some (s.takeWhile p, s.dropWhile p) := by
  induction s with
  | nil => rfl
  | cons c s ih =>
    by_cases h : p c = true
    · simp [longest, h, ih, put]
    · simp [longest, h]

theorem append_of_mem_longest {s : List Char} {cut : List Char × List Char}
    (h : cut ∈ longest p s) : cut.1 ++ cut.2 = s := by
  induction s generalizing cut with
  | nil => simp_all [longest]
  | cons c s ih =>
    rw [longest, List.mem_append, List.mem_singleton] at h
    rcases h with h | rfl
    · split at h
      · obtain ⟨tail, htail, rfl⟩ := List.mem_map.mp h
        exact congrArg (c :: ·) (ih htail)
      · cases h
    · rfl

/-- If nothing can be done in front of a class, a run of it is only ever taken whole. -/
theorem flatMap_longest {β : Type} (f : List Char × List Char → List β)
    (h : ∀ w c s, p c = true → f (w, c :: s) = []) (s : List Char) :
    (longest p s).flatMap f = f (s.takeWhile p, s.dropWhile p) := by
  induction s generalizing f with
  | nil => simp [longest]
  | cons c s ih =>
    by_cases hc : p c = true
    · have ih := ih (f ∘ put c) fun w d t hd => h (c :: w) d t hd
      simp only [longest, if_pos hc, List.flatMap_append, List.flatMap_map, List.flatMap_cons,
        List.flatMap_nil, h [] c s hc, List.append_nil, List.takeWhile_cons_of_pos hc,
        List.dropWhile_cons_of_pos hc]
      exact ih
    · simp [longest, hc]

end Item

/-- An item of a pattern, and whether its piece is handed over. -/
structure Part where
  item : Item
  kept : Bool

namespace Part

/-- An item whose piece is handed over. -/
abbrev group (i : Item) : Part := ⟨i, true⟩

/-- An item that is passed over. -/
abbrev skip (i : Item) : Part := ⟨i, false⟩

/-- Puts the piece of a part, if it is handed over, in front of the others. -/
def keep (k : Bool) (piece : List Char) (groups : List (List Char)) : List (List Char) :=
  if k then piece :: groups else groups

@[simp] theorem keep_true (piece : List Char) : keep true piece = (piece :: ·) := rfl

@[simp] theorem keep_false (piece : List Char) : keep false piece = id := rfl

end Part

/-- A pattern: items one behind another. -/
abbrev Pattern := List Part

namespace Pattern

open Text.Part

/-- The ways in which a pattern matches at the front of a text, in the order of preference: the
pieces of its groups. -/
def ways : Pattern → List Char → List (List (List Char))
  | [], _ => [[]]
  | i :: is, s => (i.item.cuts s).flatMap fun cut => (ways is cut.2).map (keep i.kept cut.1)

/-- The preferred match at the front of a text. -/
def at? (is : Pattern) (s : List Char) : Option (List (List Char)) := (is.ways s).head?

/-- The match that starts first. -/
def find? (is : Pattern) : List Char → Option (List (List Char))
  | [] => is.at? []
  | c :: s => (is.at? (c :: s)).or (find? is s)

/-- The pattern of a word, letter by letter. -/
def ofWord (word : List Char) : Pattern := word.map fun x => .skip (.one (· = x))

variable {p : Char → Bool} {k : Bool} {is : Pattern}

/-! ### Single characters -/

theorem ways_one_cons (c : Char) (s : List Char) :
    ways (⟨.one p, k⟩ :: is) (c :: s) = if p c then (ways is s).map (keep k [c]) else [] := by
  by_cases h : p c = true <;> simp [ways, Item.cuts, h]

theorem ways_maybe_cons (c : Char) (s : List Char) :
    ways (⟨.maybe p, k⟩ :: is) (c :: s) =
      (if p c then (ways is s).map (keep k [c]) else []) ++ (ways is (c :: s)).map (keep k []) := by
  by_cases h : p c = true <;> simp [ways, Item.cuts, h]

/-- A word matches in one way where it stands, and nowhere else. -/
theorem ways_ofWord (word s : List Char) :
    ways (ofWord word) s = if word.isPrefixOf s then [[]] else [] := by
  induction word generalizing s with
  | nil => simp [ofWord, ways]
  | cons x word ih =>
    cases s with
    | nil => simp [ofWord, ways, Item.cuts]
    | cons c s =>
      have ih := ih s
      rw [ofWord] at ih
      rw [ofWord, List.map_cons, ways_one_cons, ih]
      by_cases hx : c = x
      · by_cases hw : word.isPrefixOf s = true <;> simp [hx, hw]
      · simp [hx, Ne.symm hx]

/-! ### Runs -/

/-- A pattern that never matches in front of a class of characters. -/
def Stuck (p : Char → Bool) (is : Pattern) : Prop := ∀ c s, p c = true → ways is (c :: s) = []

theorem stuck_one {q : Char → Bool} (h : ∀ c, p c = true → q c = false) :
    Stuck p (⟨.one q, k⟩ :: is) := by
  intro c s hc
  simp [ways_one_cons, h c hc]

theorem ways_many1_cons_of_neg {c : Char} (h : p c = false) (s : List Char) :
    ways (⟨.many1 p, k⟩ :: is) (c :: s) = [] := by
  simp [ways, Item.cuts, h]

theorem stuck_many1 {q : Char → Bool} (h : ∀ c, p c = true → q c = false) :
    Stuck p (⟨.many1 q, k⟩ :: is) :=
  fun c s hc => ways_many1_cons_of_neg (h c hc) s

theorem ways_many1_of_stops {s : List Char} (h : Stops p s) : ways (⟨.many1 p, k⟩ :: is) s = [] := by
  cases s with
  | nil => rfl
  | cons c s => exact ways_many1_cons_of_neg (by simpa using h) s

/-- **Runs.** A run that the rest of the pattern cannot begin with is taken whole. -/
theorem ways_many1_of_stuck (h : Stuck p is) {r s : List Char} (hr : Filled p r) (hs : Stops p s) :
    ways (⟨.many1 p, k⟩ :: is) (r ++ s) = (ways is s).map (keep k r) := by
  obtain ⟨hne, hall⟩ := hr
  obtain ⟨c, r, rfl⟩ := List.exists_cons_of_ne_nil hne
  have hc : p c = true := hall c (by simp)
  have hall' : ∀ d ∈ r, p d = true := fun d hd => hall d (by simp [hd])
  have whole := Item.flatMap_longest (p := p)
    (fun cut => (ways is cut.2).map (keep k (c :: cut.1))) (fun w d t hd => by simp [h d t hd])
    (r ++ s)
  rw [takeWhile_append_of_stops hall' hs, dropWhile_append_of_stops hall' hs] at whole
  simp only [List.cons_append, ways, Item.cuts, if_pos hc, List.flatMap_map, Item.put]
  exact whole

/-- A run is taken whole if the rest of the pattern matches behind it. -/
theorem at?_many1_of_some {r s : List Char} (hr : Filled p r) (hs : Stops p s)
    {groups : List (List Char)} (h : at? is s = some groups) :
    at? (⟨.many1 p, k⟩ :: is) (r ++ s) = some (keep k r groups) := by
  obtain ⟨hne, hall⟩ := hr
  obtain ⟨c, r, rfl⟩ := List.exists_cons_of_ne_nil hne
  have hc : p c = true := hall c (by simp)
  have hall' : ∀ d ∈ r, p d = true := fun d hd => hall d (by simp [hd])
  have hfirst := Item.head?_longest (p := p) (r ++ s)
  rw [takeWhile_append_of_stops hall' hs, dropWhile_append_of_stops hall' hs] at hfirst
  obtain ⟨cuts, hcuts⟩ := List.head?_eq_some_iff.mp hfirst
  rw [at?] at h
  simp [at?, ways, Item.cuts, hc, hcuts, Item.put, h]

/-- The rest of a pattern that begins with a run matches somewhere behind. -/
theorem exists_suffix_of_at?_many1 {s : List Char} {groups : List (List Char)}
    (h : at? (⟨.many1 p, k⟩ :: is) s = some groups) :
    ∃ rest groups', rest <:+ s ∧ at? is rest = some groups' := by
  have hmem : groups ∈ ways (⟨.many1 p, k⟩ :: is) s := List.mem_of_mem_head? h
  obtain ⟨cut, hcut, hways⟩ := List.mem_flatMap.mp hmem
  have hne : ways is cut.2 ≠ [] := by
    intro hnil
    rw [hnil] at hways
    cases hways
  refine ⟨cut.2, (ways is cut.2).head hne, ?_, List.head?_eq_some_head hne⟩
  cases s with
  | nil => cases hcut
  | cons c s =>
    simp only [Item.cuts] at hcut
    split at hcut
    · obtain ⟨tail, htail, rfl⟩ := List.mem_map.mp hcut
      exact ⟨c :: tail.1, congrArg (c :: ·) (Item.append_of_mem_longest htail)⟩
    · cases hcut

/-- The last run of a pattern is taken whole. -/
theorem at?_many1_last (s : List Char) :
    at? [⟨.many1 p, k⟩] s =
      if s.takeWhile p = [] then none else some (keep k (s.takeWhile p) []) := by
  cases s with
  | nil => rfl
  | cons c s =>
    by_cases hc : p c = true
    · simp [at?, ways, Item.cuts, hc, ← List.map_eq_flatMap, Item.put, Item.head?_longest]
    · simp [at?, ways, Item.cuts, hc]

/-! ### Runs that may be left anywhere -/

/-- Puts a character in front of the first piece of a match. -/
def grow (c : Char) : List (List Char) → List (List Char)
  | [] => []
  | w :: ws => (c :: w) :: ws

/-- Rather many: the run goes on if the rest matches further on, else it ends here. -/
theorem ways_many_cons (c : Char) (s : List Char) :
    ways (group (.many p) :: is) (c :: s) =
      (if p c then (ways (group (.many p) :: is) s).map (grow c) else []) ++
        (ways is (c :: s)).map ([] :: ·) := by
  by_cases h : p c = true
  · simp [ways, Item.cuts, Item.longest, Item.put, h, grow, List.flatMap_map, List.map_flatMap,
      Function.comp_def]
  · simp [ways, Item.cuts, Item.longest, h]

/-- Rather few: the run ends here if the rest matches, else it goes on. -/
theorem ways_few_cons (c : Char) (s : List Char) :
    ways (group (.few p) :: is) (c :: s) =
      (ways is (c :: s)).map ([] :: ·) ++
        if p c then (ways (group (.few p) :: is) s).map (grow c) else [] := by
  by_cases h : p c = true
  · simp [ways, Item.cuts, Item.shortest, Item.put, h, grow, List.flatMap_map, List.map_flatMap,
      Function.comp_def]
  · simp [ways, Item.cuts, Item.shortest, h]

/-- **The first occurrence.** Few characters and then a word: that is all in front of the first
occurrence of the word. -/
theorem at?_few_ofWord (word s : List Char) :
    at? (group (.few fun _ => true) :: ofWord word) s = (before? word s).map ([·]) := by
  induction s with
  | nil =>
    by_cases hw : word = []
    · simp [at?, ways, Item.cuts, Item.shortest, before?, hw, ofWord]
    · simp [at?, ways, Item.cuts, Item.shortest, ways_ofWord, before?, hw]
  | cons c s ih =>
    rw [at?] at ih ⊢
    rw [ways_few_cons, List.head?_append, ways_ofWord, if_pos rfl, List.head?_map, List.head?_map,
      ih, before?]
    by_cases hw : word.isPrefixOf (c :: s) = true
    · simp [hw]
    · rw [if_neg hw, if_neg hw]
      cases before? word s <;> simp [grow]

/-! ### Where a match starts -/

theorem find?_append_of_forall {pre s : List Char}
    (h : ∀ c ∈ pre, ∀ rest, at? is (c :: rest) = none) : find? is (pre ++ s) = find? is s := by
  induction pre with
  | nil => rfl
  | cons c pre ih =>
    rw [List.cons_append, find?, h c (by simp), Option.none_or]
    exact ih fun d hd => h d (by simp [hd])

theorem exists_suffix_of_find? {s : List Char} {groups : List (List Char)}
    (h : find? is s = some groups) : ∃ rest, rest <:+ s ∧ at? is rest = some groups := by
  induction s with
  | nil => exact ⟨[], List.suffix_refl [], h⟩
  | cons c s ih =>
    rw [find?, Option.or_eq_some_iff] at h
    rcases h with h | ⟨-, h⟩
    · exact ⟨c :: s, List.suffix_refl _, h⟩
    · obtain ⟨rest, hrest, hat⟩ := ih h
      exact ⟨rest, hrest.trans (List.suffix_cons c s), hat⟩

end Pattern

end ComplexityLint.Text
