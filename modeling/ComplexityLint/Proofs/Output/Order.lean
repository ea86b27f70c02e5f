import ComplexityLint.Proofs.Output.Printed

/-!
The order of a table. Its lines are ordered by one value of each function, up or down, and in both
directions functions with one value stay in the order in which they came (`sorted_sortEntries`). So
a table that is ordered twice is ordered by the second key, and under it by the first
(`sortedTwice_sortEntries`).
-/

namespace ComplexityLint

/-! ### Stable sorting -/

section Stable

variable {α : Type}

/-- Entries that come in any order among one another stay in the order in which they are. -/
theorem filter_mergeSort {le : α → α → Bool} (trans : ∀ a b c, le a b → le b c → le a c)
    (total : ∀ a b, (le a b || le b a) = true) {p : α → Bool}
    (halike : ∀ a b, p a = true → p b = true → le a b = true) (l : List α) :
    (l.mergeSort le).filter p = l.filter p := by
  have hsorted : (l.filter p).Pairwise fun a b => le a b = true := by
    refine List.pairwise_of_forall_mem_list fun a ha b hb => ?_
    exact halike a b (List.mem_filter.mp ha).2 (List.mem_filter.mp hb).2
  have hsub : (l.filter p).Sublist (l.mergeSort le) :=
    List.sublist_mergeSort trans total hsorted List.filter_sublist
  have hkept : (l.filter p).Sublist ((l.mergeSort le).filter p) := by
    have hfilter := hsub.filter p
    simpa only [List.filter_filter, Bool.and_self] using hfilter
  have hlen : (l.filter p).length = ((l.mergeSort le).filter p).length :=
    ((List.mergeSort_perm l le).filter p).length_eq.symm
  exact (hkept.eq_of_length hlen).symm

/-- What holds in order among the entries of each value holds in order of entries with one value. -/
theorem pairwise_of_filter {γ : Type} [DecidableEq γ] {f : α → γ} {R : α → α → Prop} {l : List α}
    (h : ∀ v, (l.filter fun a => f a = v).Pairwise R) : l.Pairwise fun a b => f a = f b → R a b := by
  rw [List.pairwise_iff_forall_sublist]
  intro a b hab heq
  have hclass := List.pairwise_filter.mp (h (f a))
  rw [List.pairwise_iff_forall_sublist] at hclass
  exact hclass hab (decide_eq_true rfl) (decide_eq_true heq.symm)

theorem mem_iff_of_filter {γ : Type} [DecidableEq γ] {f : α → γ} {l l' : List α}
    (h : ∀ v, (l.filter fun a => f a = v) = l'.filter fun a => f a = v) (a : α) : a ∈ l ↔ a ∈ l' := by
  have hclass : a ∈ (l.filter fun b => f b = f a) ↔ a ∈ l'.filter fun b => f b = f a := by rw [h]
  simpa using hclass

/-- A list is told by an order in which only entries with one value may stand either way, and by the
entries of each value in their order. -/
theorem eq_of_ordered {γ : Type} [DecidableEq γ] {f : α → γ} {R : α → α → Prop}
    (htie : ∀ {a b}, R a b → R b a → f a = f b) {l l' : List α} (hl : l.Pairwise R)
    (hl' : l'.Pairwise R) (h : ∀ v, (l.filter fun a => f a = v) = l'.filter fun a => f a = v) :
    l = l' := by
  induction l generalizing l' with
  | nil =>
    refine (List.eq_nil_iff_forall_not_mem.mpr fun a ha => ?_).symm
    cases (mem_iff_of_filter h a).mpr ha
  | cons a l ih =>
    have ha' : a ∈ l' := (mem_iff_of_filter h a).mp List.mem_cons_self
    obtain ⟨b, l', rfl⟩ := List.exists_cons_of_ne_nil (List.ne_nil_of_mem ha')
    have hb' : b ∈ a :: l := (mem_iff_of_filter h b).mpr List.mem_cons_self
    obtain ⟨ha, hl⟩ := List.pairwise_cons.mp hl
    obtain ⟨hb, hrest⟩ := List.pairwise_cons.mp hl'
    have hvalue : f b = f a := by
      rcases List.mem_cons.mp ha' with rfl | hafter
      · rfl
      · rcases List.mem_cons.mp hb' with rfl | hbefore
        · rfl
        · exact htie (hb a hafter) (ha b hbefore)
    have hfirst := h (f a)
    simp only [List.filter_cons, hvalue, decide_true, if_true] at hfirst
    obtain ⟨rfl, -⟩ := List.cons.inj hfirst
    refine congrArg (a :: ·) (ih hl hrest fun v => ?_)
    have hv := h v
    by_cases hav : f a = v
    · simp only [List.filter_cons, hav, decide_true, if_true] at hv
      exact (List.cons.inj hv).2
    · simpa only [List.filter_cons, hav, decide_false, Bool.false_eq_true, if_false] using hv

end Stable

/-! ### Keys -/

/-- Names are in the order of their code points. -/
theorem lex_toNat_iff (s t : List Char) :
    List.Lex (· < ·) (s.map Char.toNat) (t.map Char.toNat) ↔ List.Lex (· < ·) s t := by
  induction s generalizing t with
  | nil => cases t <;> simp
  | cons c s ih =>
    cases t with
    | nil => simp
    | cons d t =>
      have hlt : c.toNat < d.toNat ↔ c < d := Iff.rfl
      rw [List.map_cons, List.map_cons, List.cons_lex_cons_iff, List.cons_lex_cons_iff, ih, hlt,
        Char.toNat_inj]

namespace Output

namespace SortKey

/-- What records are ordered by: the code points of the name, or a number alone. -/
def value (k : SortKey) (r : FunctionRecord) : List Nat :=
  match k with
  | name => r.name.toList.map Char.toNat
  | lines => [r.lines.toNat]
  | complexity => [r.complexity.toNat]
  | tokens => [r.tokens.toNat]
  | parameters => [r.parameters.toNat]
  | startLine => [r.startLine.toNat]

/-- One record has to come before another: its value is smaller, or on the way down greater. -/
def Precedes (k : SortKey) (descending : Bool) (a b : FunctionRecord) : Prop :=
  if descending then List.Lex (· < ·) (k.value b) (k.value a)
  else List.Lex (· < ·) (k.value a) (k.value b)

instance (k : SortKey) (descending : Bool) (a b : FunctionRecord) :
    Decidable (k.Precedes descending a b) :=
  inferInstanceAs (Decidable (if descending then List.Lex (· < ·) (k.value b) (k.value a)
    else List.Lex (· < ·) (k.value a) (k.value b)))

theorem atMost_iff (k : SortKey) (a b : FunctionRecord) :
    k.atMost a b = true ↔ ¬ List.Lex (· < ·) (k.value b) (k.value a) := by
  cases k with
  | name =>
    have hlex : b.name < a.name ↔ List.Lex (· < ·) b.name.toList a.name.toList := String.lt_iff
    rw [atMost, decide_eq_true_eq, value, value, lex_toNat_iff, ← hlex, String.not_lt]
  | _ => simp [atMost, value, UInt32.le_iff_toNat_le]

theorem atMost_trans (k : SortKey) (a b c : FunctionRecord) (hab : k.atMost a b = true)
    (hbc : k.atMost b c = true) : k.atMost a c = true := by
  cases k <;> simp only [atMost, decide_eq_true_eq] at *
  · exact String.le_trans hab hbc
  all_goals exact UInt32.le_trans hab hbc

theorem atMost_total (k : SortKey) (a b : FunctionRecord) :
    (k.atMost a b || k.atMost b a) = true := by
  cases k <;> simp only [atMost, Bool.or_eq_true, decide_eq_true_eq]
  · exact String.le_total a.name b.name
  all_goals exact UInt32.le_total _ _

/-- Of two records with different values one has to come before the other. -/
theorem precedes_or_eq {k : SortKey} {descending : Bool} {a b : FunctionRecord}
    (h : ¬ k.Precedes descending b a) : k.Precedes descending a b ∨ k.value a = k.value b := by
  have hequal : ∀ {s t : List Nat}, ¬ List.Lex (· < ·) s t → ¬ List.Lex (· < ·) t s → s = t :=
    fun hst hts => List.lex_trichotomous (fun m n hmn hnm => by omega) hts hst
  by_cases hab : k.Precedes descending a b
  · exact .inl hab
  · cases descending with
    | true => exact .inr (hequal h hab)
    | false => exact .inr (hequal hab h)

end SortKey

/-- Whether an entry may come before another. -/
def mayPrecede (k : SortKey) (descending : Bool) (a b : Entry) : Bool :=
  if descending then k.atMost b.record a.record else k.atMost a.record b.record

theorem mayPrecede_iff (k : SortKey) (descending : Bool) (a b : Entry) :
    mayPrecede k descending a b = true ↔ ¬ k.Precedes descending b.record a.record := by
  cases descending <;> simp [mayPrecede, SortKey.Precedes, SortKey.atMost_iff]

theorem mayPrecede_trans (k : SortKey) (descending : Bool) (a b c : Entry)
    (hab : mayPrecede k descending a b = true) (hbc : mayPrecede k descending b c = true) :
    mayPrecede k descending a c = true := by
  cases descending with
  | true => exact k.atMost_trans _ _ _ hbc hab
  | false => exact k.atMost_trans _ _ _ hab hbc

theorem mayPrecede_total (k : SortKey) (descending : Bool) (a b : Entry) :
    (mayPrecede k descending a b || mayPrecede k descending b a) = true := by
  cases descending with
  | true => exact k.atMost_total _ _
  | false => exact k.atMost_total _ _

theorem sortEntries_eq (k : SortKey) (descending : Bool) (es : List Entry) :
    sortEntries k descending es = es.mergeSort (mayPrecede k descending) := rfl

/-- Some entries in the order of a key: none is lost, added or repeated, none that has to come before
another stands behind it, and those with one value stand in the order in which they came. -/
structure Sorted (k : SortKey) (descending : Bool) (es sorted : List Entry) : Prop where
  perm : sorted.Perm es
  ordered : sorted.Pairwise fun a b => ¬ k.Precedes descending b.record a.record
  stable : ∀ v, (sorted.filter fun e => k.value e.record = v) = es.filter fun e => k.value e.record = v

/-- **Sorting is stable in both directions.** -/
theorem sorted_sortEntries (k : SortKey) (descending : Bool) (es : List Entry) :
    Sorted k descending es (sortEntries k descending es) where
  perm := sortEntries_perm k descending es
  ordered := by
    have hsorted := List.pairwise_mergeSort (mayPrecede_trans k descending)
      (mayPrecede_total k descending) es
    exact hsorted.imp fun h => (mayPrecede_iff k descending _ _).mp h
  stable v := by
    rw [sortEntries_eq]
    refine filter_mergeSort (mayPrecede_trans k descending) (mayPrecede_total k descending)
      (fun a b ha hb => ?_) es
    rw [decide_eq_true_eq] at ha hb
    -- neither of two equal values has to come first
    have hirrefl : ∀ s : List Nat, ¬ List.Lex (· < ·) s s := fun s => List.lt_irrefl s
    rw [mayPrecede_iff, SortKey.Precedes, ha, hb]
    split <;> exact hirrefl v

/-- **There is one such order.** -/
theorem Sorted.eq {k : SortKey} {descending : Bool} {es sorted : List Entry}
    (h : Sorted k descending es sorted) : sorted = sortEntries k descending es := by
  have hcode := sorted_sortEntries k descending es
  refine eq_of_ordered (fun hab hba => ?_) h.ordered hcode.ordered fun v =>
    (h.stable v).trans (hcode.stable v).symm
  exact (SortKey.precedes_or_eq hab).resolve_left hba

/-- Entries that are in order already stay as they are. -/
theorem sortEntries_of_ordered {k : SortKey} {descending : Bool} {es : List Entry}
    (h : es.Pairwise fun a b => ¬ k.Precedes descending b.record a.record) :
    sortEntries k descending es = es := by
  rw [sortEntries_eq]
  exact List.mergeSort_of_pairwise (h.imp fun h => (mayPrecede_iff k descending _ _).mpr h)

/-- Some entries in the order of a first key and, among those that it does not tell apart, of a second
one. -/
structure SortedTwice (k : SortKey) (descending : Bool) (k' : SortKey) (descending' : Bool)
    (es sorted : List Entry) : Prop where
  perm : sorted.Perm es
  ordered : sorted.Pairwise fun a b => k.Precedes descending a.record b.record ∨
    k.value a.record = k.value b.record ∧ ¬ k'.Precedes descending' b.record a.record
  stable : ∀ v v', (sorted.filter fun e => k.value e.record = v ∧ k'.value e.record = v') =
    es.filter fun e => k.value e.record = v ∧ k'.value e.record = v'

/-- **Sorting by a second key refines it by the first.** -/
theorem sortedTwice_sortEntries (k : SortKey) (descending : Bool) (k' : SortKey) (descending' : Bool)
    (es : List Entry) :
    SortedTwice k descending k' descending' es
      (sortEntries k descending (sortEntries k' descending' es)) := by
  have hfirst := sorted_sortEntries k' descending' es
  have hsecond := sorted_sortEntries k descending (sortEntries k' descending' es)
  have hclass : (sortEntries k descending (sortEntries k' descending' es)).Pairwise fun a b =>
      k.value a.record = k.value b.record → ¬ k'.Precedes descending' b.record a.record := by
    refine pairwise_of_filter fun v => ?_
    rw [hsecond.stable v]
    exact hfirst.ordered.filter _
  refine ⟨hsecond.perm.trans hfirst.perm, ?_, fun v v' => ?_⟩
  · refine (hsecond.ordered.and hclass).imp fun {a b} h => ?_
    rcases SortKey.precedes_or_eq h.1 with hbefore | heq
    · exact .inl hbefore
    · exact .inr ⟨heq, h.2 heq⟩
  · have hsplit : ∀ l : List Entry,
        (l.filter fun e => k.value e.record = v ∧ k'.value e.record = v') =
          (l.filter fun e => k.value e.record = v).filter fun e => k'.value e.record = v' := by
      intro l
      rw [List.filter_filter]
      exact List.filter_congr fun e _ => by rw [Bool.decide_and, Bool.and_comm]
    have hswap : ∀ l : List Entry,
        ((l.filter fun e => k.value e.record = v).filter fun e => k'.value e.record = v') =
          (l.filter fun e => k'.value e.record = v').filter fun e => k.value e.record = v := by
      intro l
      rw [List.filter_filter, List.filter_filter]
      exact List.filter_congr fun e _ => Bool.and_comm _ _
    rw [hsplit, hsplit, hsecond.stable v, hswap, hfirst.stable v', hswap]

/-- **The order of a table.** The entries are ordered by the key, and those with one value stay as they
were in both directions. Ordering them again by the same key changes nothing; ordering them by
another key first leaves its order among those with one value. The lines under the header and the
rule are those of the entries in this order, each with the name, the numbers and the lines of its
function. -/
theorem order_table (k : SortKey) (descending : Bool) (es : List Entry) :
    Sorted k descending es (sortEntries k descending es) ∧
      sortEntries k descending (sortEntries k descending es) = sortEntries k descending es ∧
      (∀ k' descending', SortedTwice k descending k' descending' es
        (sortEntries k descending (sortEntries k' descending' es))) ∧
      ∀ colours, table colours k descending es =
          tableTop colours (widths (es.map rowCells)) ++
            String.join ((sortEntries k descending es).map
              (entryLine colours (widths (es.map rowCells)))) ∧
        table colours k descending es = headerLine colours es ++ "\n" ++ ruleLine es ++ "\n" ++
          String.join ((sortEntries k descending es).map fun e => functionLine colours es e ++ "\n") := by
  have hsorted := sorted_sortEntries k descending es
  refine ⟨hsorted, sortEntries_of_ordered hsorted.ordered, fun k' descending' => ?_, fun colours => ?_⟩
  · exact sortedTwice_sortEntries k descending k' descending' es
  · refine ⟨table_eq colours k descending es, ?_⟩
    rw [table_eq_linesOf, linesOf, List.map_cons, List.map_cons, List.map_map, String.join_cons,
      String.join_cons]
    simp only [String.append_assoc]
    rfl

end Output

end ComplexityLint
