import ComplexityLint.Proofs.Output.Layout

/-!
How wide the columns of a table have to be. A column is as wide as its largest cell takes bytes
(`getElem?_widths`), and no narrower than its longest cell has characters. Numbers and the words of
the header take as many bytes as they have characters, so only the column of the names can be too
wide: it is, exactly if a name takes more bytes than any text of the column has characters
(`snug_table`).
-/

namespace ComplexityLint

namespace Text

/-- ASCII characters take a byte each. -/
theorem utf8ByteSize_of_ascii {s : String} (h : ∀ c ∈ s.toList, c.toNat < 0x80) :
    s.utf8ByteSize = s.length := by
  rw [← String.utf8Len_toList, ← String.length_toList]
  revert h
  induction s.toList with
  | nil => simp
  | cons c s ih =>
    intro h
    obtain ⟨hc, hs⟩ := List.forall_mem_cons.mp h
    have hone : c.utf8Size = 1 := Char.utf8Size_eq_one_iff.mpr (Nat.le_of_lt_succ hc)
    rw [String.utf8Len_cons, ih hs, hone, List.length_cons]

end Text

namespace Output

/-! ### Cells of a column -/

/-- The cells of a column, that of the header first. -/
def columnCells (es : List Entry) (i : Nat) : List Cell :=
  (header :: es.map rowCells).filterMap (·[i]?)

/-- The sizes of the texts in a column. -/
def columnSizes (size : String → Nat) (es : List Entry) (i : Nat) : List Nat :=
  (columnCells es i).map fun c => size c.text

/-- The narrowest columns that all cells fit into. -/
def neededWidths (es : List Entry) : List Nat :=
  (List.range header.length).map fun i => (columnSizes String.length es i).max?.getD 0

/-- A name takes more bytes than any text of its column has characters. -/
def Overwide (es : List Entry) : Prop :=
  ∃ e ∈ es, ∀ c ∈ columnCells es 0, c.text.length < e.record.name.utf8ByteSize

theorem columnCells_eq_nil {i : Nat} (hi : header.length ≤ i) (es : List Entry) :
    columnCells es i = [] := by
  rw [columnCells, List.filterMap_eq_nil_iff]
  refine List.forall_mem_cons.mpr ⟨List.getElem?_eq_none hi, fun row hrow => ?_⟩
  exact List.getElem?_eq_none ((length_of_mem_rows row hrow).le.trans hi)

theorem columnCells_eq_cons {i : Nat} {c : Cell} (hc : header[i]? = some c) (es : List Entry) :
    columnCells es i = c :: (es.map rowCells).filterMap (·[i]?) := by
  rw [columnCells, List.filterMap_cons, hc]

theorem columnCells_zero (es : List Entry) :
    columnCells es 0 = ⟨"function", { bold := true }⟩ :: es.map fun e => ⟨e.record.name, .plain⟩ := by
  rw [columnCells_eq_cons rfl, List.filterMap_map, ← List.filterMap_eq_map]
  rfl

theorem getElem?_foldl_widen {ws : List Nat} {rows : List (List Cell)}
    (h : ∀ row ∈ rows, row.length = ws.length) (i : Nat) :
    (rows.foldl widen ws)[i]? =
      ws[i]?.map fun w => ((rows.filterMap (·[i]?)).map (·.text.utf8ByteSize)).foldl max w := by
  induction rows generalizing ws with
  | nil => simp
  | cons row rows ih =>
    obtain ⟨hrow, hrest⟩ := List.forall_mem_cons.mp h
    have hlen : (widen ws row).length = ws.length := length_widen hrow
    rw [List.foldl_cons, ih fun r hr => (hrest r hr).trans hlen.symm, widen, List.getElem?_zipWith]
    by_cases hi : i < ws.length
    · simp [List.getElem?_eq_getElem hi, List.getElem?_eq_getElem (hrow ▸ hi)]
    · simp [List.getElem?_eq_none (Nat.le_of_not_lt hi)]

/-- **A column is as wide as its largest cell takes bytes.** -/
theorem getElem?_widths (es : List Entry) (i : Nat) :
    (widths (es.map rowCells))[i]? = (columnSizes String.utf8ByteSize es i).max? := by
  have hfold := @getElem?_foldl_widen headerWidths _ (@length_of_mem_rows es) i
  rw [widths_eq, hfold, headerWidths, List.getElem?_map]
  cases hc : header[i]? with
  | none => simp [columnSizes, columnCells_eq_nil (List.getElem?_eq_none_iff.mp hc)]
  | some c =>
    rw [columnSizes, columnCells_eq_cons hc, List.map_cons, List.max?_cons']
    rfl

theorem getElem?_neededWidths (es : List Entry) (i : Nat) :
    (neededWidths es)[i]? = (columnSizes String.length es i).max? := by
  rw [neededWidths, List.getElem?_map]
  cases hc : header[i]? with
  | none =>
    have hi : header.length ≤ i := List.getElem?_eq_none_iff.mp hc
    simp [columnSizes, columnCells_eq_nil hi, hi]
  | some c =>
    obtain ⟨hi, -⟩ := List.getElem?_eq_some_iff.mp hc
    rw [List.getElem?_range hi, Option.map_some, columnSizes, columnCells_eq_cons hc, List.map_cons,
      List.max?_cons', Option.getD_some]

/-! ### Bytes and characters -/

theorem toNat_lt_of_isDigit {c : Char} (h : c.isDigit = true) : c.toNat < 0x80 := by
  simp only [Char.isDigit, Bool.and_eq_true, decide_eq_true_eq] at h
  exact Nat.lt_of_le_of_lt h.2 (by decide)

theorem utf8ByteSize_number (n : UInt32) :
    (toString n.toNat).utf8ByteSize = (toString n.toNat).length := by
  refine Text.utf8ByteSize_of_ascii fun c hc => ?_
  rw [Text.toList_toString] at hc
  exact toNat_lt_of_isDigit (Text.isDigit_digits hc)

/-- A text of a column other than that of the names takes as many bytes as it has characters. -/
theorem utf8ByteSize_of_mem_columnCells {es : List Entry} {i : Nat} (hi : i ≠ 0) {c : Cell}
    (hc : c ∈ columnCells es i) : c.text.utf8ByteSize = c.text.length := by
  have hheader : ∀ c ∈ header.tail, c.text.utf8ByteSize = c.text.length := by decide
  have hentry : ∀ e, ∀ c ∈ (rowCells e).tail, c.text.utf8ByteSize = c.text.length := by
    intro e c hc
    have hdash : "-".utf8ByteSize = "-".length := by decide
    simp only [rowCells, List.tail_cons, List.mem_cons, List.not_mem_nil, or_false] at hc
    rcases hc with rfl | rfl | rfl | rfl | rfl
    · exact utf8ByteSize_number e.record.lines
    · exact utf8ByteSize_number e.record.complexity
    · exact utf8ByteSize_number e.record.tokens
    · exact utf8ByteSize_number e.record.parameters
    · simp only [String.utf8ByteSize_append, String.length_append, utf8ByteSize_number, hdash]
  obtain ⟨j, rfl⟩ := Nat.exists_eq_succ_of_ne_zero hi
  obtain ⟨row, hrow, hat⟩ := List.mem_filterMap.mp hc
  have htail : c ∈ row.tail := by
    rw [← List.getElem?_tail] at hat
    exact List.mem_of_getElem? hat
  rcases List.mem_cons.mp hrow with rfl | hrow
  · exact hheader c htail
  · obtain ⟨e, -, rfl⟩ := List.mem_map.mp hrow
    exact hentry e c htail

theorem columnSizes_of_ne_zero {i : Nat} (hi : i ≠ 0) (es : List Entry) :
    columnSizes String.utf8ByteSize es i = columnSizes String.length es i :=
  List.map_congr_left fun _ hc => utf8ByteSize_of_mem_columnCells hi hc

/-! ### Columns that are wider than needed -/

/-- The widths and the needed widths differ in the first column only, and there exactly if a name
takes too many bytes. -/
theorem exists_widths_eq_cons (es : List Entry) :
    ∃ w n rest, widths (es.map rowCells) = w :: rest ∧ neededWidths es = n :: rest ∧ n ≤ w ∧
      (w = n ↔ ¬ Overwide es) := by
  have hlen : (widths (es.map rowCells)).length = 6 := length_widths es
  obtain ⟨w, rest, hws⟩ : ∃ w rest, widths (es.map rowCells) = w :: rest :=
    List.exists_cons_of_length_eq_add_one hlen
  obtain ⟨n, rest', hneed⟩ : ∃ n rest', neededWidths es = n :: rest' :=
    List.exists_cons_of_length_eq_add_one (n := 5) (by simp [neededWidths, header])
  have hrest : rest' = rest := by
    refine List.ext_getElem? fun i => ?_
    have hbytes := getElem?_widths es (i + 1)
    have hchars := getElem?_neededWidths es (i + 1)
    rw [hws, List.getElem?_cons_succ] at hbytes
    rw [hneed, List.getElem?_cons_succ] at hchars
    rw [hbytes, hchars, columnSizes_of_ne_zero (Nat.succ_ne_zero i)]
  have hbytes : (columnSizes String.utf8ByteSize es 0).max? = some w := by
    rw [← getElem?_widths, hws]
    rfl
  have hchars : (columnSizes String.length es 0).max? = some n := by
    rw [← getElem?_neededWidths, hneed]
    rfl
  obtain ⟨longest, hlongest, hn⟩ := List.mem_map.mp (List.max?_mem hchars)
  have hfits : ∀ c ∈ columnCells es 0, c.text.length ≤ n := fun c hc =>
    (List.max?_le_iff hchars).mp le_rfl _ (List.mem_map_of_mem hc)
  have hle : n ≤ w := by
    have hlongest : longest.text.utf8ByteSize ≤ w :=
      (List.max?_le_iff hbytes).mp le_rfl _ (List.mem_map_of_mem hlongest)
    exact hn ▸ (Text.length_le_utf8ByteSize _).trans hlongest
  have hnames : w ≤ n ↔ ∀ e ∈ es, e.record.name.utf8ByteSize ≤ n := by
    have hword : "function".utf8ByteSize ≤ n :=
      hfits ⟨"function", { bold := true }⟩ (by simp [columnCells_zero])
    rw [List.max?_le_iff hbytes, columnSizes, columnCells_zero]
    simp [hword]
  have hover : Overwide es ↔ ∃ e ∈ es, n < e.record.name.utf8ByteSize := by
    refine exists_congr fun e => and_congr_right fun _ => ⟨fun h => ?_, fun h c hc => ?_⟩
    · exact hn ▸ h longest hlongest
    · exact (hfits c hc).trans_lt h
  refine ⟨w, n, rest, hws, hrest ▸ hneed, hle, ?_⟩
  rw [hover, ← hle.ge_iff_eq', hnames]
  simp

/-- **How wide a table is.** The lines are laid out in the columns of these widths, and the rule is as
long as the columns and the gaps between them. A column is as wide as its largest text takes bytes,
which in all columns but that of the names is the number of characters of the longest one. A text
that touches both edges of its column is there exactly if the column is as narrow as can be. The
column of the names is so, and with it the whole table, exactly if no name takes more bytes than the
longest text of the column has characters. -/
theorem snug_table (k : SortKey) (descending : Bool) (es : List Entry) :
    let ws := widths (es.map rowCells)
    table false k descending es = tableTop false ws ++
        String.join ((sortEntries k descending es).map (entryLine false ws)) ∧
      (∀ row ∈ header :: es.map rowCells, Laid ws row (lineText false ws row).toList) ∧
      (∀ i, ws[i]? = (columnSizes String.utf8ByteSize es i).max?) ∧
      (∀ i ≠ 0, ws[i]? = (columnSizes String.length es i).max?) ∧
      (∀ i w, ws[i]? = some w → ((columnSizes String.length es i).max? = some w ↔
        ∃ c ∈ columnCells es i, c.text.length = w)) ∧
      (ws[0]? = (columnSizes String.length es 0).max? ↔ ¬ Overwide es) ∧
      (∀ i, (neededWidths es)[i]? = (columnSizes String.length es i).max?) ∧
      lineLength (neededWidths es) ≤ lineLength ws ∧
      (lineLength ws = lineLength (neededWidths es) ↔ ¬ Overwide es) := by
  intro ws
  obtain ⟨w, n, rest, hws, hneed, hle, hsnug⟩ := exists_widths_eq_cons es
  refine ⟨table_eq false k descending es, laid_rows es, getElem?_widths es, fun i hi => ?_,
    fun i w hw => ?_, ?_, getElem?_neededWidths es, ?_, ?_⟩
  · rw [← columnSizes_of_ne_zero hi, ← getElem?_widths]
  · have hbytes : (columnSizes String.utf8ByteSize es i).max? = some w :=
      (getElem?_widths es i).symm.trans hw
    have hfits : ∀ n ∈ columnSizes String.length es i, n ≤ w := by
      intro n hn
      obtain ⟨c, hc, rfl⟩ := List.mem_map.mp hn
      exact (Text.length_le_utf8ByteSize c.text).trans
        ((List.max?_le_iff hbytes).mp le_rfl _ (List.mem_map_of_mem hc))
    rw [List.max?_eq_some_iff, columnSizes, List.mem_map]
    exact and_iff_left hfits
  · rw [← getElem?_neededWidths, hneed, ← hsnug]
    change (widths (es.map rowCells))[0]? = _ ↔ _
    simp [hws]
  · change lineLength _ ≤ lineLength (widths (es.map rowCells))
    rw [hws, hneed, lineLength_eq, lineLength_eq]
    simp only [List.sum_cons, List.length_cons]
    omega
  · change lineLength (widths (es.map rowCells)) = _ ↔ _
    rw [hws, hneed, lineLength_eq, lineLength_eq, ← hsnug]
    simp only [List.sum_cons, List.length_cons]
    omega

/-- Accents take a byte more than the letters that carry them. -/
def accentedNames : List Entry := [⟨⟨"éééééé", "a.c", 3, 20, 1, 5, 1, 9⟩, Flags.clear⟩]

theorem snug_table_of_accents :
    let ws := widths (accentedNames.map rowCells)
    2 ≠ 0 ∧ ws[2]? = some 3 ∧ (columnSizes String.length accentedNames 2).max? = some 3 ∧
      ¬ (ws[0]? = (columnSizes String.length accentedNames 0).max?) ∧
      lineLength ws ≠ lineLength (neededWidths accentedNames) := by
  intro ws
  have hover : Overwide accentedNames := by
    refine ⟨accentedNames[0], List.mem_cons_self, ?_⟩
    decide
  obtain ⟨-, -, -, hnumbers, -, hname, -, -, hrule⟩ := snug_table .name false accentedNames
  have hccn : ws[2]? = some 3 := by decide
  exact ⟨by decide, hccn, (hnumbers 2 (by decide)).symm.trans hccn, fun h => hname.mp h hover,
    fun h => hrule.mp h hover⟩

/-- A column that no text fills: it is twelve characters wide, and its longest text has eight. -/
theorem widths_accentedNames :
    ¬ ∀ (es : List Entry) (i : Nat),
      (widths (es.map rowCells))[i]? = (columnSizes String.length es i).max? := by
  intro h
  have hwide : (widths (accentedNames.map rowCells))[0]? = some 12 := by decide
  have hlong : (columnSizes String.length accentedNames 0).max? = some 8 := by decide
  have heq := h accentedNames 0
  rw [hwide, hlong] at heq
  cases heq

end Output

end ComplexityLint
