import Mathlib.Algebra.GroupWithZero.Nat
import Mathlib.Data.List.Forall2
import Mathlib.Data.String.Basic
import ComplexityLint.Proofs.Output.Table
import ComplexityLint.Proofs.Text.Classes
import ComplexityLint.Proofs.Text.Pieces

/-!
How a table is laid out. A column is as wide as its widest cell takes bytes, so every cell fits into
it (`fits_widths`), whatever the order of the lines (`widths_perm`). In all lines a column starts at
the same place and takes the same number of characters (`laid_lineText`). No line ends with a blank,
so nothing is trimmed away (`tableLine_eq`), and the lines of a table can be told apart by their ends
(`pieces_table`).
-/

namespace ComplexityLint

namespace Text

theorem trimRight_concat {c : Char} (hc : isBlank c = false) (s : List Char) :
    trimRight (s ++ [c]) = s ++ [c] := by
  have hkeep : (c :: s.reverse).dropWhile isBlank = c :: s.reverse :=
    List.dropWhile_cons_of_neg (by simp [hc])
  rw [trimRight, List.reverse_concat, hkeep, List.reverse_cons, List.reverse_reverse]

/-- A character takes at least a byte. -/
theorem length_le_utf8ByteSize (s : String) : s.length ≤ s.utf8ByteSize := by
  rw [← String.utf8Len_toList, ← String.length_toList]
  induction s.toList with
  | nil => simp
  | cons c s ih =>
    have hpos : 0 < c.utf8Size := c.utf8Size_pos
    rw [List.length_cons, String.utf8Len_cons]
    omega

/-- Each of some texts that are put together stands behind those before it and their separators; what
follows begins with a separator, except behind the last one. -/
theorem exists_intercalate_append (sep : List Char) {ps : List (List Char)} {i : Nat} {p : List Char}
    (h : ps[i]? = some p) :
    ∃ front back, sep.intercalate ps = front ++ (p ++ back) ∧
      front.length = ((ps.take i).map List.length).sum + sep.length * i ∧
      (i + 1 < ps.length → ∃ rest, back = sep ++ rest) ∧ (i + 1 = ps.length → back = []) := by
  induction ps generalizing i with
  | nil => simp at h
  | cons q ps ih =>
    cases i with
    | zero =>
      obtain rfl : q = p := by simpa using h
      by_cases hps : ps = []
      · exact ⟨[], [], by simp [hps], by simp, by simp [hps], fun _ => rfl⟩
      · refine ⟨[], sep ++ sep.intercalate ps, ?_, by simp, fun _ => ⟨_, rfl⟩, fun hlen => ?_⟩
        · rw [List.intercalate_cons_of_ne_nil hps, List.nil_append, List.append_assoc]
        · have hnil : ps.length = 0 := by simpa using hlen.symm
          exact absurd (List.length_eq_zero_iff.mp hnil) hps
    | succ i =>
      have hi : ps[i]? = some p := by simpa using h
      have hps : ps ≠ [] := by
        rintro rfl
        simp at hi
      obtain ⟨front, back, hcut, hlen, hnext, hlast⟩ := ih hi
      refine ⟨q ++ sep ++ front, back, ?_, ?_, fun hlt => hnext ?_, fun heq => hlast ?_⟩
      · rw [List.intercalate_cons_of_ne_nil hps, hcut, List.append_assoc (q ++ sep)]
      · simp only [List.length_append, hlen, List.take_succ_cons, List.map_cons, List.sum_cons,
          Nat.mul_succ]
        omega
      · simpa using hlt
      · simpa using heq

/-- What is put together holds only what its parts and the separators hold. -/
theorem mem_intercalate {sep : List Char} {ps : List (List Char)} {x : Char}
    (h : x ∈ sep.intercalate ps) : x ∈ sep ∨ ∃ p ∈ ps, x ∈ p := by
  induction ps with
  | nil => simp at h
  | cons p ps ih =>
    by_cases hps : ps = []
    · rw [hps, List.intercalate_singleton] at h
      exact .inr ⟨p, List.mem_cons_self, h⟩
    · rw [List.intercalate_cons_of_ne_nil hps, List.mem_append, List.mem_append] at h
      rcases h with (hp | hsep) | hrest
      · exact .inr ⟨p, List.mem_cons_self, hp⟩
      · exact .inl hsep
      · rcases ih hrest with hsep | ⟨q, hq, hx⟩
        · exact .inl hsep
        · exact .inr ⟨q, List.mem_cons_of_mem p hq, hx⟩

end Text

namespace Output

open Style
open Text (trimRight isBlank pieces)

/-! ### The widths of the columns -/

/-- Every cell of a line is at most as long as its column is wide. -/
abbrev Fits (row : List Cell) (ws : List Nat) : Prop :=
  List.Forall₂ (fun c w => c.text.length ≤ w) row ws

/-- The widths after one more line. -/
def widen (ws : List Nat) (row : List Cell) : List Nat :=
  ws.zipWith (fun w c => max w c.text.utf8ByteSize) row

theorem length_widen {ws : List Nat} {row : List Cell} (h : row.length = ws.length) :
    (widen ws row).length = ws.length := by
  simp [widen, h]

theorem fits_widen_self {ws : List Nat} {row : List Cell} (h : row.length = ws.length) :
    Fits row (widen ws row) := by
  induction row generalizing ws with
  | nil =>
    obtain rfl : ws = [] := List.length_eq_zero_iff.mp h.symm
    exact .nil
  | cons c row ih =>
    obtain ⟨w, ws, rfl⟩ := List.exists_cons_of_length_eq_add_one h.symm
    have hc : c.text.length ≤ max w c.text.utf8ByteSize :=
      (Text.length_le_utf8ByteSize c.text).trans (le_max_right _ _)
    exact .cons hc (ih (by simpa using h))

/-- Columns never get narrower. -/
theorem Fits.widen {ws : List Nat} {row other : List Cell} (hfits : Fits row ws)
    (h : other.length = ws.length) : Fits row (widen ws other) := by
  induction hfits generalizing other with
  | nil =>
    obtain rfl : other = [] := List.length_eq_zero_iff.mp h
    exact .nil
  | cons hc _ ih =>
    obtain ⟨c, other, rfl⟩ := List.exists_cons_of_length_eq_add_one h
    exact .cons (hc.trans (le_max_left _ _)) (ih (by simpa using h))

theorem foldl_widen (ws : List Nat) {rows : List (List Cell)}
    (h : ∀ row ∈ rows, row.length = ws.length) :
    (rows.foldl widen ws).length = ws.length ∧
      (∀ row, Fits row ws → Fits row (rows.foldl widen ws)) ∧
      ∀ row ∈ rows, Fits row (rows.foldl widen ws) := by
  induction rows generalizing ws with
  | nil => simp
  | cons first rows ih =>
    obtain ⟨hfirst, hrest⟩ := List.forall_mem_cons.mp h
    have hlen : (Output.widen ws first).length = ws.length := length_widen hfirst
    obtain ⟨hlen', hkept, hin⟩ := ih _ fun row hrow => (hrest row hrow).trans hlen.symm
    refine ⟨hlen'.trans hlen, fun row hrow => hkept row (hrow.widen hfirst), ?_⟩
    exact List.forall_mem_cons.mpr ⟨hkept first (fits_widen_self hfirst), hin⟩

/-- The widths before any function is listed. -/
def headerWidths : List Nat := header.map (·.text.utf8ByteSize)

theorem widths_eq (rows : List (List Cell)) : widths rows = rows.foldl widen headerWidths := rfl

theorem length_rowCells (e : Entry) : (rowCells e).length = 6 := rfl

theorem length_of_mem_rows {es : List Entry} : ∀ row ∈ es.map rowCells, row.length = 6 := by
  intro row hrow
  obtain ⟨e, -, rfl⟩ := List.mem_map.mp hrow
  exact length_rowCells e

theorem length_widths (es : List Entry) : (widths (es.map rowCells)).length = 6 :=
  (foldl_widen headerWidths length_of_mem_rows).1

/-- **Every cell fits into its column**, those of the header too. -/
theorem fits_widths (es : List Entry) :
    ∀ row ∈ header :: es.map rowCells, Fits row (widths (es.map rowCells)) := by
  obtain ⟨-, hkept, hin⟩ := foldl_widen headerWidths (@length_of_mem_rows es)
  have hheader : Fits header headerWidths := by
    rw [Fits, headerWidths, List.forall₂_map_right_iff, List.forall₂_same]
    exact fun c _ => Text.length_le_utf8ByteSize c.text
  exact List.forall_mem_cons.mpr ⟨hkept header hheader, hin⟩

instance : RightCommutative widen where
  right_comm ws row row' := by
    refine List.ext_getElem? fun i => ?_
    simp only [widen, List.getElem?_zipWith]
    cases ws[i]? <;> cases row[i]? <;> cases row'[i]? <;> simp [max_right_comm]

/-- The order of the lines has no part in the widths. -/
theorem widths_perm {es es' : List Entry} (h : es.Perm es') :
    widths (es.map rowCells) = widths (es'.map rowCells) := by
  rw [widths_eq, widths_eq]
  exact (h.map rowCells).foldl_eq headerWidths

/-! ### Lines -/

/-- The cells of a line in their columns. -/
def columns (colours : Bool) : List Nat → List Cell → List String
  | w :: ws, c :: cs => padded colours true w c :: ws.zipWith (padded colours false) cs
  | _, _ => []

/-- A line before it is trimmed. -/
def lineText (colours : Bool) (ws : List Nat) (row : List Cell) : String :=
  "  ".intercalate (columns colours ws row)

/-- The last cell of a line ends with a character that can be seen. -/
def Inked (row : List Cell) : Prop :=
  ∃ c s x, row.getLast? = some c ∧ c.text.toList = s ++ [x] ∧ isBlank x = false

theorem inked_header : Inked header :=
  ⟨⟨"lines", { bold := true }⟩, "line".toList, 's', rfl, by decide, by decide⟩

theorem inked_rowCells (e : Entry) : Inked (rowCells e) := by
  obtain ⟨hne, hdigits⟩ := Text.filled_digits e.record.endLine
  obtain ⟨s, x, hx⟩ := (List.eq_nil_or_concat (Text.digits e.record.endLine)).resolve_left hne
  rw [List.concat_eq_append] at hx
  have hlast : (toString e.record.endLine.toNat).toList = s ++ [x] := by
    rw [← hx]
    exact Nat.toList_repr
  refine ⟨⟨toString e.record.startLine.toNat ++ "-" ++ toString e.record.endLine.toNat, .plain⟩,
    (toString e.record.startLine.toNat ++ "-").toList ++ s, x, rfl, ?_,
    Text.isBlank_eq_false_of_isDigit (hdigits x (by simp [hx]))⟩
  rw [String.toList_append, hlast, List.append_assoc]

/-- A styled text ends with a character that can be seen, if the text does. -/
theorem exists_paint_concat (colours : Bool) (style : Style) {text : String} {s : List Char} {x : Char}
    (htext : text.toList = s ++ [x]) (hx : isBlank x = false) :
    ∃ t y, (paint colours style text).toList = t ++ [y] ∧ isBlank y = false := by
  unfold paint
  split
  · exact ⟨s, x, htext, hx⟩
  · refine ⟨style.opening ++ reopen style.opening text.toList ++ ['\x1b', '[', '0'], 'm', ?_,
      by decide⟩
    rw [String.toList_ofList, List.append_assoc _ ['\x1b', '[', '0']]
    rfl

/-! ### Places -/

theorem getElem?_columns (colours : Bool) {ws : List Nat} {row : List Cell} {i w : Nat} {c : Cell}
    (hw : ws[i]? = some w) (hc : row[i]? = some c) :
    (columns colours ws row)[i]? = some (padded colours (i = 0) w c) := by
  cases ws with
  | nil => simp at hw
  | cons w₀ ws =>
    cases row with
    | nil => simp at hc
    | cons c₀ row =>
      cases i with
      | zero =>
        obtain rfl : w₀ = w := by simpa using hw
        obtain rfl : c₀ = c := by simpa using hc
        rfl
      | succ i =>
        rw [List.getElem?_cons_succ] at hw hc
        rw [columns, List.getElem?_cons_succ, List.getElem?_zipWith, hw, hc]
        simp

/-- What stands in a column is a cell of the line. -/
theorem exists_cell_of_mem_columns {colours : Bool} {ws : List Nat} {row : List Cell} {p : String}
    (hp : p ∈ columns colours ws row) : ∃ left w, ∃ c ∈ row, p = padded colours left w c := by
  cases ws with
  | nil => simp [columns] at hp
  | cons w ws =>
    cases row with
    | nil => simp [columns] at hp
    | cons c row =>
      rcases List.mem_cons.mp hp with rfl | hp
      · exact ⟨true, w, c, List.mem_cons_self, rfl⟩
      · rw [← List.map_uncurry_zip_eq_zipWith, List.mem_map] at hp
        obtain ⟨⟨w', c'⟩, hmem, rfl⟩ := hp
        exact ⟨false, w', c', List.mem_cons_of_mem c (List.of_mem_zip hmem).2, rfl⟩

theorem length_columns (colours : Bool) {ws : List Nat} {row : List Cell}
    (hlen : row.length = ws.length) : (columns colours ws row).length = ws.length := by
  cases ws with
  | nil =>
    obtain rfl : row = [] := List.length_eq_zero_iff.mp hlen
    rfl
  | cons w ws =>
    obtain ⟨c, row, rfl⟩ := List.exists_cons_of_length_eq_add_one hlen
    rw [List.length_cons, List.length_cons, Nat.add_right_cancel_iff] at hlen
    simp [columns, hlen]

/-- A column in its line: what stands before it are the columns in front and two blanks for each; two
blanks follow, except behind the last column. -/
theorem exists_lineText_append (colours : Bool) {ws : List Nat} {row : List Cell} {i w : Nat} {c : Cell}
    (hlen : row.length = ws.length) (hw : ws[i]? = some w) (hc : row[i]? = some c) :
    ∃ front back,
      (lineText colours ws row).toList = front ++ ((padded colours (i = 0) w c).toList ++ back) ∧
      front.length = (((columns colours ws row).take i).map String.length).sum + 2 * i ∧
      (i + 1 < ws.length → ∃ rest, back = [' ', ' '] ++ rest) ∧ (i + 1 = ws.length → back = []) := by
  have hcolumn : ((columns colours ws row).map String.toList)[i]? =
      some (padded colours (i = 0) w c).toList := by
    rw [List.getElem?_map, getElem?_columns colours hw hc, Option.map_some]
  obtain ⟨front, back, hcut, hfront, hnext, hlast⟩ :=
    Text.exists_intercalate_append [' ', ' '] hcolumn
  rw [List.length_map, length_columns colours hlen] at hnext hlast
  refine ⟨front, back, ?_, ?_, hnext, hlast⟩
  · rw [← hcut]
    exact String.toList_intercalate
  · rw [hfront, ← List.map_take, List.map_map]
    rfl

/-- Where a column starts: behind the columns in front, each with two blanks. -/
def offset (ws : List Nat) (i : Nat) : Nat := (ws.take i).sum + 2 * i

/-- The length of a line: that of all columns and the blanks between them. -/
def lineLength (ws : List Nat) : Nat := ws.foldr (· + ·) (2 * (ws.length - 1))

/-- A text in a column, flush left or flush right. -/
def aligned (left : Bool) (width : Nat) (text : List Char) : List Char :=
  if left then text ++ List.replicate (width - text.length) ' '
  else List.replicate (width - text.length) ' ' ++ text

/-- A line is laid out in columns: each cell stands in its column, the first one flush left and the
others flush right, and nothing but two blanks stands between two columns. -/
structure Laid (ws : List Nat) (row : List Cell) (line : List Char) : Prop where
  length : line.length = lineLength ws
  fits : Fits row ws
  column : ∀ i w c, ws[i]? = some w → row[i]? = some c →
    (line.drop (offset ws i)).take w = aligned (i = 0) w c.text.toList
  gap : ∀ i w, ws[i]? = some w → i + 1 < ws.length →
    (line.drop (offset ws i + w)).take 2 = [' ', ' ']

theorem toList_padded (left : Bool) (w : Nat) (c : Cell) :
    (padded false left w c).toList = aligned left w c.text.toList := by
  cases left <;> simp [padded, aligned, paint, String.length_toList]

theorem length_aligned {left : Bool} {w : Nat} {text : List Char} (h : text.length ≤ w) :
    (aligned left w text).length = w := by
  cases left <;> simp [aligned] <;> omega

theorem length_padded {left : Bool} {w : Nat} {c : Cell} (h : c.text.length ≤ w) :
    (padded false left w c).length = w := by
  have htext : c.text.toList.length ≤ w := by
    rwa [String.length_toList]
  rw [← String.length_toList, toList_padded, length_aligned htext]

/-- Without colours a column takes its width. -/
theorem map_length_columns {ws : List Nat} {row : List Cell} (h : Fits row ws) :
    (columns false ws row).map String.length = ws := by
  cases h with
  | nil => rfl
  | cons hc hrest =>
    rw [columns, List.map_cons, length_padded hc, List.map_zipWith]
    congr 1
    induction hrest with
    | nil => rfl
    | cons hc _ ih => rw [List.zipWith_cons_cons, length_padded hc, ih]

theorem lineLength_eq (ws : List Nat) : lineLength ws = ws.sum + 2 * (ws.length - 1) := by
  have hfold : ∀ n, ws.foldr (· + ·) n = ws.sum + n := fun n => by
    induction ws with
    | nil => simp
    | cons w ws ih =>
      rw [List.foldr_cons, ih, List.sum_cons]
      omega
  exact hfold _

theorem Fits.length_le {row : List Cell} {ws : List Nat} (h : Fits row ws) {i w : Nat} {c : Cell}
    (hw : ws[i]? = some w) (hc : row[i]? = some c) : c.text.length ≤ w := by
  induction h generalizing i with
  | nil => simp at hw
  | cons hfirst _ ih =>
    cases i with
    | zero =>
      obtain rfl : _ = w := by simpa using hw
      obtain rfl : _ = c := by simpa using hc
      exact hfirst
    | succ i => exact ih (by simpa using hw) (by simpa using hc)

/-- A column in a line without colours. -/
theorem exists_plain_append {ws : List Nat} {row : List Cell} (hfits : Fits row ws) {i w : Nat}
    (hw : ws[i]? = some w) :
    ∃ c front back, row[i]? = some c ∧
      (lineText false ws row).toList = front ++ (aligned (i = 0) w c.text.toList ++ back) ∧
      front.length = offset ws i ∧ (aligned (i = 0) w c.text.toList).length = w ∧
      (i + 1 < ws.length → ∃ rest, back = [' ', ' '] ++ rest) ∧ (i + 1 = ws.length → back = []) := by
  have hlen : row.length = ws.length := hfits.length_eq
  obtain ⟨hi, -⟩ := List.getElem?_eq_some_iff.mp hw
  obtain ⟨c, hc⟩ : ∃ c, row[i]? = some c := ⟨_, List.getElem?_eq_getElem (by omega)⟩
  obtain ⟨front, back, hcut, hfront, hnext, hlast⟩ := exists_lineText_append false hlen hw hc
  rw [toList_padded] at hcut
  have hwidth : c.text.toList.length ≤ w := by
    rw [String.length_toList]
    exact hfits.length_le hw hc
  refine ⟨c, front, back, hc, hcut, ?_, length_aligned hwidth, hnext, hlast⟩
  rw [hfront, List.map_take, map_length_columns hfits, offset]

/-- **Every line is laid out in the same columns.** -/
theorem laid_lineText {ws : List Nat} {row : List Cell} (hfits : Fits row ws) (hne : row ≠ []) :
    Laid ws row (lineText false ws row).toList where
  fits := hfits
  length := by
    -- the last column ends the line
    have hpos : 0 < ws.length := hfits.length_eq ▸ List.length_pos_iff.mpr hne
    obtain ⟨w, hw⟩ : ∃ w, ws[ws.length - 1]? = some w := ⟨_, List.getElem?_eq_getElem (by omega)⟩
    obtain ⟨c, front, back, -, hcut, hfront, hcell, -, hlast⟩ := exists_plain_append hfits hw
    have hsum : (ws.take (ws.length - 1)).sum + w = ws.sum := by
      have htake : ws = ws.take (ws.length - 1) ++ [w] := by
        have hall := @List.take_add_one _ ws (ws.length - 1)
        rwa [Nat.sub_add_cancel hpos, List.take_length, hw] at hall
      have hsums := congrArg List.sum htake
      rwa [List.sum_append, List.sum_singleton, eq_comm] at hsums
    rw [hcut, hlast (by omega), List.append_nil, List.length_append, hfront, hcell, offset,
      lineLength_eq]
    omega
  column i w c hw hc := by
    obtain ⟨c', front, back, hc', hcut, hfront, hcell, -⟩ := exists_plain_append hfits hw
    obtain rfl : c = c' := Option.some.inj (hc.symm.trans hc')
    rw [hcut, List.drop_left' hfront, List.take_left' hcell]
  gap i w hw hi := by
    obtain ⟨c, front, back, -, hcut, hfront, hcell, hnext, -⟩ := exists_plain_append hfits hw
    obtain ⟨rest, rfl⟩ := hnext hi
    rw [hcut, ← List.drop_drop, List.drop_left' hfront, List.drop_left' hcell]
    rfl

theorem laid_rows (es : List Entry) :
    let ws := widths (es.map rowCells)
    ∀ row ∈ header :: es.map rowCells, Laid ws row (lineText false ws row).toList := by
  intro ws row hrow
  have hlen : row.length = 6 := by
    rcases List.mem_cons.mp hrow with rfl | hrow
    · rfl
    · exact length_of_mem_rows row hrow
  have hne : row ≠ [] := by
    rintro rfl
    cases hlen
  exact laid_lineText (fits_widths es row hrow) hne

/-! ### The end of a line -/

/-- **Nothing is trimmed away**, with colours or without. -/
theorem trimRight_lineText (colours : Bool) {ws : List Nat} {row : List Cell}
    (hlen : row.length = ws.length) (hmany : 1 < row.length) (hink : Inked row) :
    trimRight (lineText colours ws row).toList = (lineText colours ws row).toList := by
  obtain ⟨c, s, x, hlast, htext, hx⟩ := hink
  rw [List.getLast?_eq_getElem?] at hlast
  obtain ⟨w, hw⟩ : ∃ w, ws[row.length - 1]? = some w := ⟨_, List.getElem?_eq_getElem (by omega)⟩
  obtain ⟨front, back, hcut, -, -, hend⟩ := exists_lineText_append colours hlen hw hlast
  have hright : decide (row.length - 1 = 0) = false := decide_eq_false (by omega)
  obtain ⟨t, y, hpaint, hy⟩ := exists_paint_concat colours c.style htext hx
  rw [hcut, hend (by omega), List.append_nil, hright, padded]
  simp only [Bool.false_eq_true, if_false, String.toList_append, hpaint, ← List.append_assoc]
  exact Text.trimRight_concat hy _

theorem tableLine_eq (colours : Bool) {ws : List Nat} {row : List Cell}
    (hlen : row.length = ws.length) (hmany : 1 < row.length) (hink : Inked row) :
    tableLine colours ws row = lineText colours ws row ++ "\n" := by
  have hdef : tableLine colours ws row =
      String.ofList (trimRight (lineText colours ws row).toList) ++ "\n" := by
    cases ws with
    | nil =>
      rw [List.length_nil] at hlen
      omega
    | cons w ws =>
      cases row with
      | nil => simp at hmany
      | cons c row => rw [tableLine, lineText, columns]
  rw [hdef, trimRight_lineText colours hlen hmany hink, String.ofList_toList]

/-! ### The whole table -/

/-- What stands above the lines of the functions. -/
def tableTop (colours : Bool) (ws : List Nat) : String :=
  lineText colours ws header ++ "\n" ++ String.ofList (List.replicate (lineLength ws) '-') ++ "\n"

/-- The line of a function. -/
def entryLine (colours : Bool) (ws : List Nat) (e : Entry) : String :=
  lineText colours ws (rowCells e) ++ "\n"

/-- **A table line by line.** The widths are those of the entries in any order, and so is the line of
each. -/
theorem table_eq (colours : Bool) (k : SortKey) (descending : Bool) (es : List Entry) :
    let ws := widths (es.map rowCells)
    table colours k descending es =
      tableTop colours ws ++ String.join ((sortEntries k descending es).map (entryLine colours ws)) := by
  intro ws
  have hws : widths ((sortEntries k descending es).map rowCells) = ws :=
    widths_perm (sortEntries_perm k descending es)
  have hlen : ws.length = 6 := length_widths es
  have hheader : tableLine colours ws header = lineText colours ws header ++ "\n" :=
    tableLine_eq colours hlen.symm (by decide) inked_header
  have hentry : ∀ e, tableLine colours ws (rowCells e) = entryLine colours ws e := fun e =>
    tableLine_eq colours hlen.symm (by rw [length_rowCells]; decide) (inked_rowCells e)
  have hlines : ((sortEntries k descending es).map rowCells).map (tableLine colours ws) =
      (sortEntries k descending es).map (entryLine colours ws) := by
    rw [List.map_map]
    exact List.map_congr_left fun e _ => hentry e
  rw [table]
  simp only [hws, hheader, hlines]
  rfl

/-! ### Lines apart -/

/-- A character in the cells of a function that no number is written with is one of its name. -/
theorem notMem_rowCells {e : Entry} {x : Char} (hname : x ∉ e.record.name.toList)
    (hdigit : x.isDigit = false) (hdash : x ≠ '-') : ∀ c ∈ rowCells e, x ∉ c.text.toList := by
  have hnumber : ∀ n : UInt32, x ∉ (toString n.toNat).toList := by
    intro n hx
    have hx' : x ∈ Text.digits n := by
      rw [Text.digits, ← Nat.toList_repr]
      exact hx
    rw [Text.isDigit_digits hx'] at hdigit
    cases hdigit
  intro c hc
  simp only [rowCells, List.mem_cons, List.not_mem_nil, or_false] at hc
  rcases hc with rfl | rfl | rfl | rfl | rfl | rfl
  · exact hname
  · exact hnumber e.record.lines
  · exact hnumber e.record.complexity
  · exact hnumber e.record.tokens
  · exact hnumber e.record.parameters
  · have hstart := hnumber e.record.startLine
    have hend := hnumber e.record.endLine
    have hdash' : x ∉ "-".toList := fun hx => hdash (List.mem_singleton.mp hx)
    rw [String.toList_append, String.toList_append, List.mem_append, List.mem_append]
    rintro ((hx | hx) | hx)
    · exact hstart hx
    · exact hdash' hx
    · exact hend hx

/-- Without colours a line holds its cells and blanks. -/
theorem notMem_lineText {ws : List Nat} {row : List Cell} {x : Char} (hblank : x ≠ ' ')
    (hrow : ∀ c ∈ row, x ∉ c.text.toList) : x ∉ (lineText false ws row).toList := by
  intro hx
  rw [lineText, String.toList_intercalate] at hx
  rcases Text.mem_intercalate hx with hsep | ⟨p, hp, hx⟩
  · have hsep : x ∈ [' ', ' '] := hsep
    simp [hblank] at hsep
  · obtain ⟨s, hs, rfl⟩ := List.mem_map.mp hp
    obtain ⟨left, w, c, hc, rfl⟩ := exists_cell_of_mem_columns hs
    have htext : x ∉ c.text.toList := hrow c hc
    rw [toList_padded] at hx
    cases left <;> simp [aligned, htext, hblank] at hx

/-- The lines of a table without colours: the header, a rule, and a line for each entry in order. -/
def tableLines (ws : List Nat) (es : List Entry) : List (List Char) :=
  (lineText false ws header).toList :: List.replicate (lineLength ws) '-' ::
    es.map fun e => (lineText false ws (rowCells e)).toList

/-- **No name breaks a line**, so the lines of a table are found at their ends. -/
theorem pieces_table {es : List Entry} (hnames : ∀ e ∈ es, '\n' ∉ e.record.name.toList) (k : SortKey)
    (descending : Bool) :
    let ws := widths (es.map rowCells)
    pieces '\n' (table false k descending es).toList =
      tableLines ws (sortEntries k descending es) ++ [[]] := by
  intro ws
  have htext : (table false k descending es).toList =
      (tableLines ws (sortEntries k descending es)).flatMap (· ++ ['\n']) := by
    have hend : "\n".toList = ['\n'] := rfl
    rw [table_eq, String.toList_append, String.toList_join, tableTop, tableLines, List.flatMap_cons,
      List.flatMap_cons, List.flatMap_map, List.flatMap_map]
    simp only [String.toList_append, String.toList_ofList, entryLine, hend, List.append_assoc]
    rfl
  rw [htext]
  refine Text.pieces_lines ?_
  have hheader : '\n' ∉ (lineText false ws header).toList :=
    notMem_lineText (by decide) (by decide)
  refine List.forall_mem_cons.mpr ⟨hheader, List.forall_mem_cons.mpr ⟨by simp, fun line hline => ?_⟩⟩
  obtain ⟨e, he, rfl⟩ := List.mem_map.mp hline
  have hmem : e ∈ es := (sortEntries_perm k descending es).mem_iff.mp he
  exact notMem_lineText (by decide) (notMem_rowCells (hnames e hmem) (by decide) (by decide))

end Output

end ComplexityLint
