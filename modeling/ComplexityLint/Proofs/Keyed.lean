import Mathlib.Data.List.Induction
import Mathlib.Data.List.Nodup

/-!
Lists with one entry per key, the keys in the order of first appearance. `alter` goes through such a
list up to the entry of a key and changes it, or adds an entry at the end if there is none;
`map_entries` says what any function of this kind does to the whole list.
-/

namespace ComplexityLint

theorem nodup_eraseDups {κ : Type} [BEq κ] [LawfulBEq κ] (ks : List κ) : ks.eraseDups.Nodup :=
  match ks with
  | [] => by simp
  | k :: ks => by
    rw [List.eraseDups_cons, List.nodup_cons]
    exact ⟨by simp [List.mem_eraseDups], nodup_eraseDups _⟩
termination_by ks.length
decreasing_by exact Nat.lt_succ_of_le (List.length_filter_le _ _)

theorem eraseDups_concat {κ : Type} [BEq κ] [LawfulBEq κ] (ks : List κ) (k : κ) :
    (ks ++ [k]).eraseDups = if k ∈ ks then ks.eraseDups else ks.eraseDups ++ [k] := by
  rw [List.eraseDups_append, List.cons_removeAll, List.nil_removeAll]
  by_cases hk : k ∈ ks <;> simp [hk, List.eraseDups_cons]

/-- The keys stand in the order of first appearance. -/
theorem pairwise_idxOf_eraseDups {κ : Type} [BEq κ] [LawfulBEq κ] (ks : List κ) :
    ks.eraseDups.Pairwise fun a b => ks.idxOf a < ks.idxOf b := by
  induction ks using List.reverseRecOn with
  | nil => simp
  | append_singleton ks k ih =>
    have hold : ks.eraseDups.Pairwise fun a b => (ks ++ [k]).idxOf a < (ks ++ [k]).idxOf b := by
      refine ih.imp_of_mem fun ha hb hab => ?_
      rwa [List.idxOf_append_of_mem (List.mem_eraseDups.mp ha),
        List.idxOf_append_of_mem (List.mem_eraseDups.mp hb)]
    rw [eraseDups_concat]
    split
    · exact hold
    · rename_i hk
      refine List.pairwise_append.mpr ⟨hold, List.pairwise_singleton _ _, fun a ha b hb => ?_⟩
      have ha := List.mem_eraseDups.mp ha
      rw [List.mem_singleton.mp hb, List.idxOf_append_of_mem ha, List.idxOf_append_of_notMem hk]
      exact Nat.lt_add_right _ (List.idxOf_lt_length_of_mem ha)

theorem eraseDups_map {κ μ : Type} [BEq κ] [LawfulBEq κ] [BEq μ] [LawfulBEq μ] {f : κ → μ}
    (hf : Function.Injective f) (ks : List κ) : (ks.map f).eraseDups = ks.eraseDups.map f := by
  induction ks using List.reverseRecOn with
  | nil => simp
  | append_singleton ks k ih =>
    rw [List.map_append, List.map_singleton, eraseDups_concat, eraseDups_concat, ih]
    by_cases hk : k ∈ ks <;> simp [hk, hf.eq_iff]

/-- **One entry changes**: that of the key, or a new one at the end. -/
theorem map_entries {ε : Type} (change : List ε → List ε) (k : String) (new : String → ε)
    {old : String → ε}
    (hcons : ∀ f es, change (old f :: es) = if f = k then new f :: es else old f :: change es)
    {ks : List String} (hnd : ks.Nodup) (hnil : k ∉ ks → change [] = [new k]) :
    change (ks.map old) =
      (if k ∈ ks then ks else ks ++ [k]).map fun f => if f = k then new f else old f := by
  induction ks with
  | nil => simp [hnil]
  | cons f ks ih =>
    obtain ⟨hf, hnd⟩ := List.nodup_cons.mp hnd
    rw [List.map_cons, hcons]
    by_cases hk : f = k
    · -- the keys behind are other keys
      have hrest : ks.map (fun f => if f = k then new f else old f) = ks.map old :=
        List.map_congr_left fun g hg => if_neg fun hgk => hf (by rwa [hk, ← hgk])
      simp [hk, hrest]
    · rw [if_neg hk, ih hnd fun hmem => hnil (by simp [hmem, Ne.symm hk])]
      by_cases hmem : k ∈ ks
      · simp [hmem, hk]
      · simp [hmem, hk, Ne.symm hk]

/-! ### The entry of a key -/

section Alter

variable {ε : Type} (key : ε → String) (k : String) (change : ε → ε) (new : ε)

/-- Changes the entry of a key, or adds a new one at the end. -/
def alter : List ε → List ε
  | [] => [new]
  | e :: es => if key e = k then change e :: es else e :: alter es

variable {key k change new}

theorem map_key_alter (hchange : ∀ e, key e = k → key (change e) = k) (hnew : key new = k)
    (es : List ε) :
    (alter key k change new es).map key =
      if k ∈ es.map key then es.map key else es.map key ++ [k] := by
  induction es with
  | nil => simp [alter, hnew]
  | cons e es ih =>
    by_cases he : key e = k
    · simp [alter, he, hchange e he]
    · rw [alter, if_neg he, List.map_cons, ih, List.map_cons]
      by_cases hk : k ∈ es.map key <;> simp [hk, Ne.symm he]

theorem mem_alter {e : ε} {es : List ε} (he : e ∈ alter key k change new es) :
    e ∈ es ∨ e = new ∨ ∃ e' ∈ es, key e' = k ∧ e = change e' := by
  induction es with
  | nil => exact .inr (.inl (List.mem_singleton.mp he))
  | cons e' es ih =>
    rw [alter] at he
    split at he
    · rename_i hk
      rcases List.mem_cons.mp he with rfl | he
      · exact .inr (.inr ⟨e', List.mem_cons_self, hk, rfl⟩)
      · exact .inl (List.mem_cons_of_mem _ he)
    · rcases List.mem_cons.mp he with rfl | he
      · exact .inl List.mem_cons_self
      · rcases ih he with hmem | rfl | ⟨e₀, hmem, hk, rfl⟩
        · exact .inl (List.mem_cons_of_mem _ hmem)
        · exact .inr (.inl rfl)
        · exact .inr (.inr ⟨e₀, List.mem_cons_of_mem _ hmem, hk, rfl⟩)

theorem alter_of_notMem {es : List ε} (hk : k ∉ es.map key) :
    alter key k change new es = es ++ [new] := by
  induction es with
  | nil => rfl
  | cons e es ih =>
    rw [List.map_cons, List.mem_cons, not_or] at hk
    rw [alter, if_neg (Ne.symm hk.1), ih hk.2, List.cons_append]

/-- The place of the key's entry is that of the key among the keys. -/
theorem alter_of_mem {es : List ε} (hk : k ∈ es.map key) :
    alter key k change new es = es.modify ((es.map key).idxOf k) change := by
  induction es with
  | nil => cases hk
  | cons e es ih =>
    by_cases he : key e = k
    · rw [alter, if_pos he, List.map_cons, he, List.idxOf_cons_self, List.modify_zero_cons]
    · have hmem : k ∈ es.map key := (List.mem_cons.mp hk).resolve_left (Ne.symm he)
      rw [alter, if_neg he, ih hmem, List.map_cons, List.idxOf_cons_ne _ he,
        List.modify_succ_cons]

/-- Two changes of one entry are a single one. -/
theorem alter_alter {change' : ε → ε} {new' : ε} (hchange : ∀ e, key e = k → key (change e) = k)
    (hnew : key new = k) (es : List ε) :
    alter key k change' new' (alter key k change new es) =
      alter key k (fun e => change' (change e)) (change' new) es := by
  induction es with
  | nil => simp [alter, hnew]
  | cons e es ih =>
    by_cases he : key e = k
    · simp [alter, he, hchange e he]
    · rw [alter, if_neg he, alter, if_neg he, ih, alter, if_neg he]

theorem alter_eq_map {es : List ε} (hnd : (es.map key).Nodup) (hk : k ∈ es.map key) :
    alter key k change new es = es.map fun e => if key e = k then change e else e := by
  induction es with
  | nil => cases hk
  | cons e es ih =>
    rw [List.map_cons, List.nodup_cons] at hnd
    by_cases he : key e = k
    · -- the keys behind are other keys
      have hrest : es.map (fun e => if key e = k then change e else e) = es :=
        (List.map_congr_left fun e' he' => if_neg fun hk' =>
          hnd.1 (by rw [he, ← hk']; exact List.mem_map_of_mem he')).trans (List.map_id es)
      rw [alter, if_pos he, List.map_cons, if_pos he, hrest]
    · have hmem : k ∈ es.map key := (List.mem_cons.mp hk).resolve_left (Ne.symm he)
      rw [alter, if_neg he, ih hnd.2 hmem, List.map_cons, if_neg he]

end Alter

/-! ### Pairs of a key and a value -/

section Pairs

variable {κ α β : Type} [BEq κ] [LawfulBEq κ] [DecidableEq κ]

theorem lookup_cons (k : κ) (v : α) (ps : List (κ × α)) (j : κ) :
    List.lookup j ((k, v) :: ps) = if j = k then some v else ps.lookup j := by
  rw [List.lookup_cons]
  by_cases h : j = k
  · simp [h]
  · rw [if_neg h, beq_eq_false_iff_ne.mpr h]

theorem lookup_replace (ps : List (κ × α)) (k : κ) (v : α) (j : κ) :
    (ps.map fun p => if p.1 = k then (k, v) else p).lookup j =
      if j = k then (ps.lookup j).map fun _ => v else ps.lookup j := by
  induction ps with
  | nil => simp
  | cons p ps ih =>
    obtain ⟨k', v'⟩ := p
    by_cases hk : k' = k
    · subst hk
      rw [List.map_cons, if_pos rfl, lookup_cons, lookup_cons, ih]
      by_cases hj : j = k' <;> simp [hj]
    · rw [List.map_cons, if_neg hk, lookup_cons, lookup_cons, ih]
      by_cases hj : j = k' <;> simp [hj, hk]

theorem lookup_filter_ne (ps : List (κ × α)) (k j : κ) :
    (ps.filter (·.1 ≠ k)).lookup j = if j = k then none else ps.lookup j := by
  induction ps with
  | nil => simp
  | cons p ps ih =>
    obtain ⟨k', v⟩ := p
    by_cases hk : k' = k
    · rw [List.filter_cons_of_neg (by simp [hk]), ih, lookup_cons, hk]
      by_cases hj : j = k <;> simp [hj]
    · rw [List.filter_cons_of_pos (by simp [hk]), lookup_cons, ih, lookup_cons]
      by_cases hj : j = k' <;> simp [hj, hk]

theorem lookup_mapValues (ps : List (κ × α)) (g : α → β) (j : κ) :
    (ps.map fun p => (p.1, g p.2)).lookup j = (ps.lookup j).map g := by
  induction ps with
  | nil => rfl
  | cons p ps ih =>
    rw [List.map_cons, lookup_cons, lookup_cons, ih]
    split <;> rfl

theorem isSome_lookup {ps : List (κ × α)} {j : κ} :
    (ps.lookup j).isSome = true ↔ j ∈ ps.map (·.1) := by
  induction ps with
  | nil => simp
  | cons p ps ih =>
    rw [lookup_cons, List.map_cons, List.mem_cons, ← ih]
    by_cases hj : j = p.1 <;> simp [hj]

theorem lookup_of_mem {ps : List (κ × α)} (hnd : (ps.map (·.1)).Nodup) {p : κ × α} (hp : p ∈ ps) :
    ps.lookup p.1 = some p.2 := by
  induction ps with
  | nil => cases hp
  | cons q ps ih =>
    rw [List.map_cons, List.nodup_cons] at hnd
    rw [lookup_cons]
    rcases List.mem_cons.mp hp with rfl | hp
    · rw [if_pos rfl]
    · rw [if_neg fun heq => hnd.1 (by rw [← heq]; exact List.mem_map_of_mem hp), ih hnd.2 hp]

theorem mem_of_lookup {ps : List (κ × α)} {j : κ} {v : α} (h : ps.lookup j = some v) :
    (j, v) ∈ ps := by
  induction ps with
  | nil => cases h
  | cons p ps ih =>
    rw [lookup_cons] at h
    split at h
    · rename_i hj
      cases h
      rw [hj]
      exact List.mem_cons_self
    · exact List.mem_cons_of_mem _ (ih h)

theorem lookup_perm {ps qs : List (κ × α)} (hnd : (ps.map (·.1)).Nodup) (h : qs.Perm ps) (j : κ) :
    qs.lookup j = ps.lookup j := by
  have hnd' : (qs.map (·.1)).Nodup := (h.map _).nodup_iff.mpr hnd
  refine Option.ext fun v => ⟨fun hv => ?_, fun hv => ?_⟩
  · exact lookup_of_mem hnd (h.mem_iff.mp (mem_of_lookup hv))
  · exact lookup_of_mem hnd' (h.mem_iff.mpr (mem_of_lookup hv))

theorem lookup_zip (ks : List κ) (vs : List α) (j : κ) :
    (ks.zip vs).lookup j = if j ∈ ks then vs[ks.idxOf j]? else none := by
  induction ks generalizing vs with
  | nil => rfl
  | cons k ks ih =>
    cases vs with
    | nil => simp
    | cons v vs =>
      rw [List.zip_cons_cons, lookup_cons, ih]
      by_cases hj : j = k
      · simp [hj]
      · rw [if_neg hj, List.idxOf_cons_ne _ (Ne.symm hj), List.getElem?_cons_succ]
        simp [hj]

theorem lookup_zipIdx (ks : List κ) (n : Nat) (j : κ) :
    (ks.zipIdx n).lookup j = if j ∈ ks then some (n + ks.idxOf j) else none := by
  induction ks generalizing n with
  | nil => rfl
  | cons k ks ih =>
    rw [List.zipIdx_cons, lookup_cons, ih]
    by_cases hj : j = k
    · simp [hj]
    · rw [if_neg hj, List.idxOf_cons_ne _ (Ne.symm hj)]
      by_cases hmem : j ∈ ks
      · simp [hmem]
        omega
      · simp [hmem, hj]

end Pairs

end ComplexityLint
