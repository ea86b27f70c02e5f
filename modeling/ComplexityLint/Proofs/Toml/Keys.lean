import ComplexityLint.Proofs.Keyed
import ComplexityLint.Toml.Document

/-!
The tables of a document. However a table is written, with headers, dotted keys or inline, no key
stands in it twice, and this holds of the tables in it as well (`distinct_document?`). So a table is a
finite map, and the order of its members has no part in what it says (`get?_perm`).
-/

namespace ComplexityLint.Toml

open Text (Reader)

/-- A value in which no key stands twice in a table, at any depth. -/
inductive Value.Distinct : Value → Prop
  | string (s : String) : Distinct (.string s)
  | integer (i : Int) : Distinct (.integer i)
  | float (text : String) : Distinct (.float text)
  | boolean (b : Bool) : Distinct (.boolean b)
  | datetime (text : String) : Distinct (.datetime text)
  | array {vs : List Value} (items : ∀ v ∈ vs, Distinct v) : Distinct (.array vs)
  | table {ms : List (String × Value)} (keys : (ms.map (·.1)).Nodup)
    (values : ∀ p ∈ ms, Distinct p.2) : Distinct (.table ms)

/-- The same of a value under construction. -/
inductive Node.Distinct : Node → Prop
  | value {v : Value} (h : v.Distinct) : Distinct (.value v)
  | table (origin : Origin) {ms : List (String × Node)} (keys : (ms.map (·.1)).Nodup)
    (nodes : ∀ p ∈ ms, Distinct p.2) : Distinct (.table origin ms)
  | tables {es : List (List (String × Node))} (keys : ∀ ms ∈ es, (ms.map (·.1)).Nodup)
    (nodes : ∀ ms ∈ es, ∀ p ∈ ms, Distinct p.2) : Distinct (.tables es)

/-- Members of a table under construction of which no two have one key. -/
structure Members.Distinct (ms : Members) : Prop where
  keys : (ms.map (·.1)).Nodup
  nodes : ∀ p ∈ ms, p.2.Distinct

/-! ### Tables under construction -/

namespace Members

theorem distinct_nil : Distinct [] := ⟨List.nodup_nil, nofun⟩

theorem distinct_table_iff {origin : Origin} {ms : Members} :
    (Node.table origin ms).Distinct ↔ ms.Distinct := by
  constructor
  · intro h
    cases h with
    | table _ hkeys hnodes => exact ⟨hkeys, hnodes⟩
  · exact fun h => .table origin h.keys h.nodes

theorem distinct_tables_iff {es : List Members} :
    (Node.tables es).Distinct ↔ ∀ ms ∈ es, Distinct ms := by
  constructor
  · intro h
    cases h with
    | tables hkeys hnodes => exact fun ms hms => ⟨hkeys ms hms, hnodes ms hms⟩
  · exact fun h => .tables (fun ms hms => (h ms hms).keys) fun ms hms => (h ms hms).nodes

theorem put_eq_alter (key : String) (n : Node) (ms : Members) :
    ms.put key n = alter Prod.fst key (fun _ => (key, n)) (key, n) ms := by
  induction ms with
  | nil => rfl
  | cons m ms ih =>
    by_cases hk : m.1 = key
    · simp [put, alter, hk]
    · simp [put, alter, hk, ih]

variable {ms ms' : Members}

theorem Distinct.put (h : ms.Distinct) {n : Node} (hn : n.Distinct) (key : String) :
    (ms.put key n).Distinct := by
  rw [put_eq_alter]
  refine ⟨?_, fun p hp => ?_⟩
  · have hkeys := @map_key_alter _ Prod.fst key (fun _ => (key, n)) (key, n) (fun _ _ => rfl) rfl ms
    rw [hkeys]
    split
    · exact h.keys
    · rename_i hnew
      exact List.nodup_append.mpr ⟨h.keys, List.nodup_singleton key, fun k hk k' hk' heq =>
        hnew (List.mem_singleton.mp hk' ▸ heq ▸ hk)⟩
  · rcases mem_alter hp with hp | rfl | ⟨_, -, -, rfl⟩
    · exact h.nodes p hp
    · exact hn
    · exact hn

theorem Distinct.get? (h : ms.Distinct) {key : String} {n : Node} (hn : ms.get? key = some n) :
    n.Distinct := h.nodes _ (mem_of_lookup hn)

/-- A change of a table deep inside keeps keys apart if the change of that table does. -/
theorem Distinct.modifyAt {origin : Origin} {f : Option Origin → Members → Option Members}
    (hf : ∀ here ms ms', f here ms = some ms' → ms.Distinct → ms'.Distinct) {here : Option Origin}
    {path : List String} (h : modifyAt origin f here path ms = some ms') (hms : ms.Distinct) :
    ms'.Distinct := by
  induction path generalizing here ms ms' with
  | nil => exact hf here ms ms' h hms
  | cons key path ih =>
    rw [Members.modifyAt] at h
    split at h
    · obtain ⟨sub, hsub, rfl⟩ := Option.map_eq_some_iff.mp h
      exact hms.put (distinct_table_iff.mpr (ih hsub distinct_nil)) key
    · rename_i o sub hget
      have hold := distinct_table_iff.mp (hms.get? hget)
      split at h
      · cases h
      · obtain ⟨sub', hsub, rfl⟩ := Option.map_eq_some_iff.mp h
        exact hms.put (distinct_table_iff.mpr (ih hsub hold)) key
    · rename_i elements hget
      have hold := distinct_tables_iff.mp (hms.get? hget)
      split at h
      · cases h
      · rename_i last hlast
        obtain ⟨sub, hsub, rfl⟩ := Option.map_eq_some_iff.mp h
        have hsub := ih hsub (hold last (List.mem_of_getLast? hlast))
        refine hms.put (distinct_tables_iff.mpr (List.forall_mem_append.mpr ⟨?_, ?_⟩)) key
        · exact fun ms hms => hold ms (List.dropLast_subset _ hms)
        · exact List.forall_mem_singleton.mpr hsub
    · cases h

variable {path : List String} {key : String} {v : Value}

theorem Distinct.assign (h : ms.assign path key v = some ms') (hms : ms.Distinct)
    (hv : v.Distinct) : ms'.Distinct := by
  refine Distinct.modifyAt (fun here ms ms' h hms => ?_) h hms
  split at h
  · cases h
  · split at h
    · cases h
    · cases h
      exact hms.put (.value hv) key

theorem Distinct.assignUnder {header : List String} (h : ms.assignUnder header path key v = some ms')
    (hms : ms.Distinct) (hv : v.Distinct) : ms'.Distinct :=
  Distinct.modifyAt (fun _ _ _ h hms => hms.assign h hv) h hms

theorem Distinct.openTable (h : ms.openTable path key = some ms') (hms : ms.Distinct) :
    ms'.Distinct := by
  refine Distinct.modifyAt (fun here ms ms' h hms => ?_) h hms
  split at h
  · cases h
    exact hms.put (distinct_table_iff.mpr distinct_nil) key
  · rename_i hget
    cases h
    exact hms.put (distinct_table_iff.mpr (distinct_table_iff.mp (hms.get? hget))) key
  · cases h

theorem Distinct.openElement (h : ms.openElement path key = some ms') (hms : ms.Distinct) :
    ms'.Distinct := by
  have hnew : ∀ ms ∈ [([] : Members)], Distinct ms := List.forall_mem_singleton.mpr distinct_nil
  refine Distinct.modifyAt (fun here ms ms' h hms => ?_) h hms
  split at h
  · cases h
    exact hms.put (distinct_tables_iff.mpr hnew) key
  · rename_i hget
    cases h
    have hold := distinct_tables_iff.mp (hms.get? hget)
    exact hms.put (distinct_tables_iff.mpr (List.forall_mem_append.mpr ⟨hold, hnew⟩)) key
  · cases h

end Members

/-! ### Finished values -/

theorem finishMembers_eq_map (ms : Members) :
    finishMembers ms = ms.map fun p => (p.1, p.2.finish) := by
  induction ms with
  | nil => rfl
  | cons p ms ih => rw [finishMembers, ih, List.map_cons]

theorem finishElements_eq_map (es : List Members) :
    finishElements es = es.map fun ms => .table (finishMembers ms) := by
  induction es with
  | nil => rfl
  | cons ms es ih => rw [finishElements, ih, List.map_cons]

/-- Finished members have the keys that they had. -/
theorem distinct_finishMembers {ms : Members} (hkeys : (ms.map (·.1)).Nodup)
    (hvalues : ∀ p ∈ ms, p.2.finish.Distinct) : (Value.table (finishMembers ms)).Distinct := by
  rw [finishMembers_eq_map]
  refine .table (by rwa [List.map_map]) fun p hp => ?_
  obtain ⟨q, hq, rfl⟩ := List.mem_map.mp hp
  exact hvalues q hq

theorem Node.Distinct.finish {n : Node} (h : n.Distinct) : n.finish.Distinct := by
  induction h with
  | value h => exact h
  | table _ hkeys _ ih => exact distinct_finishMembers hkeys ih
  | tables hkeys _ ih =>
    rw [Node.finish, finishElements_eq_map]
    refine .array fun v hv => ?_
    obtain ⟨ms, hms, rfl⟩ := List.mem_map.mp hv
    exact distinct_finishMembers (hkeys ms hms) (ih ms hms)

theorem Members.Distinct.finish {ms : Members} (h : ms.Distinct) :
    (Value.table (finishMembers ms)).Distinct :=
  distinct_finishMembers h.keys fun p hp => (h.nodes p hp).finish

/-! ### Values as they are read -/

/-- A reader takes only values without repeated keys. -/
def ReadsDistinct (read : Reader Value) : Prop :=
  ∀ ⦃s v rest⦄, read s = some (v, rest) → v.Distinct

theorem distinct_scalar? {s : List Char} {v : Value} (h : scalar? s = some v) : v.Distinct := by
  rw [scalar?] at h
  split at h
  · cases h
    exact .boolean _
  · split at h
    · cases h
      exact .boolean _
    · split at h
      · cases h
        exact .integer _
      · split at h
        · cases h
          exact .float _
        · split at h
          · cases h
            exact .datetime _
          · cases h

theorem readsDistinct_plain? : ReadsDistinct plain? := by
  intro s v rest h
  obtain ⟨w, hw, heq⟩ := Option.map_eq_some_iff.mp h
  cases heq
  exact distinct_scalar? hw

variable {value : Reader Value}

theorem distinct_itemsUpTo (hvalue : ReadsDistinct value) {fuel : Nat} {s rest : List Char}
    {vs : List Value} (h : itemsUpTo value fuel s = some (vs, rest)) : ∀ v ∈ vs, v.Distinct := by
  induction fuel generalizing s vs with
  | zero => cases h
  | succ fuel ih =>
    obtain ⟨s₁, -, h⟩ := Option.bind_eq_some_iff.mp h
    split at h
    · cases h
      exact nofun
    · obtain ⟨⟨v, s₂⟩, hv, h⟩ := Option.bind_eq_some_iff.mp h
      have hv := hvalue hv
      obtain ⟨s₃, -, h⟩ := Option.bind_eq_some_iff.mp h
      split at h
      · cases h
        exact List.forall_mem_singleton.mpr hv
      · obtain ⟨⟨ws, s₄⟩, hws, h⟩ := Option.bind_eq_some_iff.mp h
        cases h
        exact List.forall_mem_cons.mpr ⟨hv, ih hws⟩
      · cases h

theorem distinct_assignment? (hvalue : ReadsDistinct value)
    {gap : List Char → Option (List Char)} {s rest : List Char} {path : List String} {key : String}
    {v : Value} (h : assignment? gap value s = some ((path, key, v), rest)) : v.Distinct := by
  obtain ⟨⟨⟨path', key'⟩, s₁⟩, -, h⟩ := Option.bind_eq_some_iff.mp h
  obtain ⟨s₂, -, h⟩ := Option.bind_eq_some_iff.mp h
  obtain ⟨s₃, -, h⟩ := Option.bind_eq_some_iff.mp h
  obtain ⟨s₄, -, h⟩ := Option.bind_eq_some_iff.mp h
  obtain ⟨⟨w, s₅⟩, hw, h⟩ := Option.bind_eq_some_iff.mp h
  cases h
  exact hvalue hw

theorem distinct_fieldsUpTo (hvalue : ReadsDistinct value) {fuel : Nat} {ms ms' : Members}
    {s rest : List Char} (h : fieldsUpTo value fuel ms s = some (ms', rest)) (hms : ms.Distinct) :
    ms'.Distinct := by
  induction fuel generalizing s ms with
  | zero => cases h
  | succ fuel ih =>
    obtain ⟨s₁, -, h⟩ := Option.bind_eq_some_iff.mp h
    split at h
    · cases h
      exact hms
    · obtain ⟨⟨⟨path, key, v⟩, s₂⟩, hv, h⟩ := Option.bind_eq_some_iff.mp h
      obtain ⟨ms₁, hms₁, h⟩ := Option.bind_eq_some_iff.mp h
      have hms₁ := hms.assign hms₁ (distinct_assignment? hvalue hv)
      obtain ⟨s₃, -, h⟩ := Option.bind_eq_some_iff.mp h
      split at h
      · cases h
        exact hms₁
      · exact ih h hms₁
      · cases h

theorem readsDistinct_valueUpTo (depth : Nat) : ReadsDistinct (valueUpTo depth) := by
  induction depth using Nat.strongRecOn with
  | ind depth ih =>
    intro s v rest h
    rw [valueUpTo.eq_def] at h
    split at h
    · obtain ⟨_, -, heq⟩ := Option.map_eq_some_iff.mp h
      cases heq
      exact .string _
    · obtain ⟨_, -, heq⟩ := Option.map_eq_some_iff.mp h
      cases heq
      exact .string _
    · obtain ⟨_, hvs, heq⟩ := Option.map_eq_some_iff.mp h
      cases heq
      exact .array (distinct_itemsUpTo (ih _ (Nat.lt_succ_self _)) hvs)
    · obtain ⟨_, hms, heq⟩ := Option.map_eq_some_iff.mp h
      cases heq
      exact (distinct_fieldsUpTo (ih _ (Nat.lt_succ_self _)) hms Members.distinct_nil).finish
    · exact readsDistinct_plain? h

/-! ### Lines as they are read -/

theorem distinct_statement? {d d' : Draft} {s rest : List Char}
    (h : statement? d s = some (d', rest)) (hd : d.members.Distinct) : d'.members.Distinct := by
  rw [statement?.eq_def] at h
  split at h
  · obtain ⟨⟨⟨path, key⟩, s₁⟩, -, h⟩ := Option.bind_eq_some_iff.mp h
    obtain ⟨s₂, -, h⟩ := Option.bind_eq_some_iff.mp h
    obtain ⟨s₃, -, h⟩ := Option.bind_eq_some_iff.mp h
    obtain ⟨ms, hms, h⟩ := Option.bind_eq_some_iff.mp h
    cases h
    exact hd.openElement hms
  · obtain ⟨⟨⟨path, key⟩, s₁⟩, -, h⟩ := Option.bind_eq_some_iff.mp h
    obtain ⟨s₂, -, h⟩ := Option.bind_eq_some_iff.mp h
    obtain ⟨ms, hms, h⟩ := Option.bind_eq_some_iff.mp h
    cases h
    exact hd.openTable hms
  · obtain ⟨⟨⟨path, key, v⟩, s₁⟩, hv, h⟩ := Option.bind_eq_some_iff.mp h
    obtain ⟨ms, hms, h⟩ := Option.bind_eq_some_iff.mp h
    cases h
    exact hd.assignUnder hms (distinct_assignment? (readsDistinct_valueUpTo _) hv)

theorem distinct_linesUpTo {fuel : Nat} {d d' : Draft} {s : List Char}
    (h : linesUpTo fuel d s = some d') (hd : d.members.Distinct) : d'.members.Distinct := by
  induction fuel generalizing d s with
  | zero => cases h
  | succ fuel ih =>
    cases s with
    | nil =>
      cases h
      exact hd
    | cons c s =>
      rw [linesUpTo.eq_def] at h
      dsimp only at h
      split at h
      · exact ih h hd
      · obtain ⟨⟨d₁, s₁⟩, hd₁, h⟩ := Option.bind_eq_some_iff.mp h
        obtain ⟨s₂, -, h⟩ := Option.bind_eq_some_iff.mp h
        exact ih h (distinct_statement? hd₁ hd)

/-- **No key stands twice in a table**, in the document or anywhere in its values. -/
theorem distinct_document? {text : String} {t : Table} (h : document? text = some t) :
    (Value.table t).Distinct := by
  obtain ⟨d, hd, rfl⟩ := Option.map_eq_some_iff.mp h
  exact (distinct_linesUpTo hd Members.distinct_nil).finish

/-- The order of the members has no part in what a table says. -/
theorem Table.get?_perm {t t' : Table} (hkeys : (t.map (·.1)).Nodup) (h : t'.Perm t)
    (key : String) : t'.get? key = t.get? key :=
  lookup_perm hkeys h key

end ComplexityLint.Toml
