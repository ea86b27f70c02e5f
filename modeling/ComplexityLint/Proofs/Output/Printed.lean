import ComplexityLint.Proofs.Diagnostic.Lines
import ComplexityLint.Proofs.Output.Colour
import ComplexityLint.Proofs.Output.Width

/-!
What is printed for people, written out. Of a function a table shows the name, four numbers and the
lines that it spans, each in a column of its own (`tableColumns`), and the numbers that are marked
stand out (`table_eq_linesOf`). A report shows each warning with its metric, file and line, and how
many there are (`console_eq_warningsText`). In colour a text stands between the sequence that sets its
attributes and the one that resets them (`attributed_paint`).
-/

namespace ComplexityLint.Output

open Style
open Text (pieces)

/-! ### Attributes -/

/-- A text that resets nothing, between the sequence that sets some attributes and the one that resets
them. -/
def attributed (colours : Bool) (codes text : String) : String :=
  if colours then "\x1b[" ++ codes ++ "m" ++ text ++ "\x1b[0m" else text

/-- A text is shown with some attributes: where the text itself resets them, they are set again. -/
def Attributed (colours : Bool) (codes text shown : String) : Prop :=
  if colours then
    ∃ parts : List String, (∀ part ∈ parts, ¬ "\x1b[0m".toList <:+: part.toList) ∧
      text = "\x1b[0m".intercalate parts ∧
      shown = "\x1b[" ++ codes ++ "m" ++ ("\x1b[0m\x1b[" ++ codes ++ "m").intercalate parts ++ "\x1b[0m"
  else shown = text

/-- A text is cut at its resets, and a style is opened again at each cut. -/
theorem exists_parts_reopen (start s : List Char) :
    ∃ parts, (∀ part ∈ parts, ¬ reset <:+: part) ∧ parts ≠ [] ∧ s = reset.intercalate parts ∧
      reopen start s = (reset ++ start).intercalate parts := by
  induction s using reopen.induct with
  | case1 s ih =>
    obtain ⟨parts, hfree, hne, hs, hopen⟩ := ih
    refine ⟨[] :: parts, List.forall_mem_cons.mpr ⟨by decide, hfree⟩, List.cons_ne_nil _ _, ?_, ?_⟩
    · rw [List.intercalate_cons_of_ne_nil hne, ← hs]
      rfl
    · rw [reopen, List.intercalate_cons_of_ne_nil hne, ← hopen]
      rfl
  | case2 c s hc ih =>
    obtain ⟨parts, hfree, hne, hs, hopen⟩ := ih
    obtain ⟨part, parts, rfl⟩ := List.exists_cons_of_ne_nil hne
    obtain ⟨hpart, hparts⟩ := List.forall_mem_cons.mp hfree
    have hcons : ∀ sep : List Char,
        sep.intercalate ((c :: part) :: parts) = c :: sep.intercalate (part :: parts) := by
      intro sep
      cases parts with
      | nil => simp
      | cons next parts => simp
    refine ⟨(c :: part) :: parts, List.forall_mem_cons.mpr ⟨fun h => ?_, hparts⟩,
      List.cons_ne_nil _ _, ?_, ?_⟩
    · -- a reset would begin with this character, or lie in the part behind it
      rcases List.infix_cons_iff.mp h with hprefix | hinfix
      · have hfirst : part <+: s := by
          rw [hs]
          cases parts <;> simp
        obtain ⟨rest, hrest⟩ := hprefix.trans ((List.prefix_cons_inj c).mpr hfirst)
        have hcut : '\x1b' :: '[' :: '0' :: 'm' :: rest = c :: s := hrest
        obtain ⟨hescape, htail⟩ := List.cons.inj hcut
        exact hc rest hescape.symm htail.symm
      · exact hpart hinfix
    · rw [hcons, ← hs]
    · rw [reopen, hcons, ← hopen]
      exact hc
  | case3 => exact ⟨[[]], by decide, by decide, rfl, rfl⟩

/-- **A styled text is shown with the attributes of its style.** -/
theorem attributed_paint (colours : Bool) {style : Style} (hcodes : style.codes ≠ []) (text : String) :
    Attributed colours (";".intercalate style.codes) text (paint colours style text) := by
  cases colours with
  | false => simp [Attributed, paint]
  | true =>
    obtain ⟨parts, hfree, -, htext, hopen⟩ := exists_parts_reopen style.opening text.toList
    have hreset : "\x1b[0m".toList = reset := rfl
    have hstart : ("\x1b[" ++ ";".intercalate style.codes ++ "m").toList = style.opening := by
      simp [opening]
    have hagain : ("\x1b[0m\x1b[" ++ ";".intercalate style.codes ++ "m").toList =
        reset ++ style.opening := by
      simp [opening, reset]
    have hparts : (parts.map String.ofList).map String.toList = parts := by
      simp [Function.comp_def]
    refine ⟨parts.map String.ofList, ?_, ?_, ?_⟩
    · intro part hpart
      obtain ⟨p, hp, rfl⟩ := List.mem_map.mp hpart
      rw [hreset, String.toList_ofList]
      exact hfree p hp
    · refine String.toList_inj.mp ?_
      rw [String.toList_intercalate, hreset, hparts, htext]
    · refine String.toList_inj.mp ?_
      rw [paint, if_neg (by simp [hcodes]), String.toList_ofList, hopen, String.toList_append,
        String.toList_append, hstart, String.toList_intercalate, hagain, hparts, hreset]

/-- A text that resets nothing stands alone between the two sequences. -/
theorem paint_eq_attributed (colours : Bool) {style : Style} (hcodes : style.codes ≠ []) {text : String}
    (h : '\x1b' ∉ text.toList) :
    paint colours style text = attributed colours (";".intercalate style.codes) text := by
  cases colours with
  | false => rfl
  | true =>
    refine String.toList_inj.mp ?_
    simp [paint, hcodes, reopen_of_notMem _ h, opening, attributed, reset]

/-- A text with attributes, if it has any. -/
def shownAs (colours : Bool) (codes : Option String) (text : String) : String :=
  match codes with
  | some codes => attributed colours codes text
  | none => text

/-! ### Tables -/

/-- A column of a table: the word above it, on which side its texts are flush, and what it shows of a
function and whether that stands out. -/
structure Column where
  word : String
  left : Bool := false
  text : Entry → String
  marked : Entry → Bool := fun _ => false

namespace Column

/-- The width of a column: the most bytes that its word or one of its texts takes. -/
def width (c : Column) (es : List Entry) : Nat :=
  ((c.word :: es.map c.text).map String.utf8ByteSize).max?.getD 0

/-- A text in its column. Attributes take no room. -/
def place (c : Column) (colours : Bool) (es : List Entry) (codes : Option String) (text : String) :
    String :=
  let blanks := String.ofList (List.replicate (c.width es - text.length) ' ')
  if c.left then shownAs colours codes text ++ blanks else blanks ++ shownAs colours codes text

end Column

/-- The columns of a table. -/
def tableColumns : List Column :=
  [{ word := "function", left := true, text := fun e => e.record.name },
   { word := "NLOC", text := fun e => toString e.record.lines.toNat
     marked := fun e => e.flags.lines },
   { word := "CCN", text := fun e => toString e.record.complexity.toNat
     marked := fun e => e.flags.complexity },
   { word := "tokens", text := fun e => toString e.record.tokens.toNat
     marked := fun e => e.flags.tokens },
   { word := "params", text := fun e => toString e.record.parameters.toNat
     marked := fun e => e.flags.parameters },
   { word := "lines"
     text := fun e => toString e.record.startLine.toNat ++ "-" ++ toString e.record.endLine.toNat }]

/-- The line with the words of the columns, in bold. -/
def headerLine (colours : Bool) (es : List Entry) : String :=
  "  ".intercalate (tableColumns.map fun c => c.place colours es (some "1") c.word)

/-- The line under it, as long as the columns and two blanks between any two of them. -/
def ruleLine (es : List Entry) : String :=
  String.ofList (List.replicate ((tableColumns.map (·.width es)).sum + 2 * 5) '-')

/-- The line of a function. What is marked is bold and red. -/
def functionLine (colours : Bool) (es : List Entry) (e : Entry) : String :=
  "  ".intercalate (tableColumns.map fun c =>
    c.place colours es (if c.marked e then some "1;31" else none) (c.text e))

/-- The lines of a table of some functions, in the order in which they are given again. -/
def linesOf (colours : Bool) (es sorted : List Entry) : List String :=
  headerLine colours es :: ruleLine es :: sorted.map (functionLine colours es)

/-- A column shows its cell of every line, and what is marked is a number. -/
theorem cells_of_column {i : Nat} {c : Column} (hc : tableColumns[i]? = some c) :
    c.left = decide (i = 0) ∧ header[i]? = some ⟨c.word, { bold := true }⟩ ∧ ∀ e,
      (rowCells e)[i]? =
        some ⟨c.text e, if c.marked e then { bold := true, colour := some .red } else .plain⟩ ∧
      (c.marked e = true → '\x1b' ∉ (c.text e).toList) := by
  match i with
  | 0 => cases hc; exact ⟨rfl, rfl, fun e => ⟨rfl, nofun⟩⟩
  | 1 => cases hc; exact ⟨rfl, rfl, fun e => ⟨rfl, fun _ => escape_notMem_number _⟩⟩
  | 2 => cases hc; exact ⟨rfl, rfl, fun e => ⟨rfl, fun _ => escape_notMem_number _⟩⟩
  | 3 => cases hc; exact ⟨rfl, rfl, fun e => ⟨rfl, fun _ => escape_notMem_number _⟩⟩
  | 4 => cases hc; exact ⟨rfl, rfl, fun e => ⟨rfl, fun _ => escape_notMem_number _⟩⟩
  | 5 => cases hc; exact ⟨rfl, rfl, fun e => ⟨rfl, nofun⟩⟩
  | i + 6 => simp [tableColumns] at hc

theorem columnSizes_eq (size : String → Nat) (es : List Entry) {i : Nat} {c : Column}
    (hc : tableColumns[i]? = some c) :
    columnSizes size es i = (c.word :: es.map c.text).map size := by
  obtain ⟨-, hheader, hcells⟩ := cells_of_column hc
  have htexts : (es.map rowCells).filterMap (·[i]?) = es.map fun e =>
      ⟨c.text e, if c.marked e then { bold := true, colour := some .red } else .plain⟩ := by
    rw [List.filterMap_map, ← List.filterMap_eq_map]
    exact List.filterMap_congr fun e _ => (hcells e).1
  rw [columnSizes, columnCells_eq_cons hheader, htexts, List.map_cons, List.map_map, List.map_cons,
    List.map_map]
  rfl

theorem getElem?_widths_column (es : List Entry) {i : Nat} {c : Column}
    (hc : tableColumns[i]? = some c) : (widths (es.map rowCells))[i]? = some (c.width es) := by
  rw [getElem?_widths, columnSizes_eq String.utf8ByteSize es hc, Column.width, List.map_cons,
    List.max?_cons', Option.getD_some]

theorem widths_eq_map (es : List Entry) :
    widths (es.map rowCells) = tableColumns.map (·.width es) := by
  refine List.ext_getElem? fun i => ?_
  rw [List.getElem?_map]
  cases hc : tableColumns[i]? with
  | none =>
    have hlen : (widths (es.map rowCells)).length = tableColumns.length := length_widths es
    rw [Option.map_none, List.getElem?_eq_none_iff, hlen, ← List.getElem?_eq_none_iff, hc]
  | some c => rw [getElem?_widths_column es hc, Option.map_some]

/-- A line is told by the texts in its columns and their attributes. -/
theorem columns_eq_map (colours : Bool) (es : List Entry) {row : List Cell} {text : Column → String}
    {codes : Column → Option String} (hlen : row.length = 6)
    (hrow : ∀ (i : Nat) (c : Column), tableColumns[i]? = some c →
      ∃ style, row[i]? = some ⟨text c, style⟩ ∧
        paint colours style (text c) = shownAs colours (codes c) (text c)) :
    columns colours (widths (es.map rowCells)) row =
      tableColumns.map fun c => c.place colours es (codes c) (text c) := by
  refine List.ext_getElem? fun i => ?_
  rw [List.getElem?_map]
  cases hc : tableColumns[i]? with
  | none =>
    have hcolumns := length_columns colours (hlen.trans (length_widths es).symm)
    have hwidths : (widths (es.map rowCells)).length = tableColumns.length := length_widths es
    rw [Option.map_none, List.getElem?_eq_none_iff, hcolumns, hwidths, ← List.getElem?_eq_none_iff, hc]
  | some c =>
    obtain ⟨style, hcell, hpaint⟩ := hrow i c hc
    rw [getElem?_columns colours (getElem?_widths_column es hc) hcell, ← (cells_of_column hc).1]
    simp only [padded, hpaint, Column.place, Option.map_some]

theorem lineText_header (colours : Bool) (es : List Entry) :
    lineText colours (widths (es.map rowCells)) header = headerLine colours es := by
  have hwords : ∀ c ∈ tableColumns, '\x1b' ∉ c.word.toList := by decide
  rw [lineText, headerLine]
  refine congrArg _ (columns_eq_map colours es rfl fun i c hc => ⟨_, (cells_of_column hc).2.1, ?_⟩)
  exact paint_eq_attributed colours (by decide) (hwords c (List.mem_of_getElem? hc))

/-- **What the line of a function shows.** -/
theorem lineText_rowCells (colours : Bool) (es : List Entry) (e : Entry) :
    lineText colours (widths (es.map rowCells)) (rowCells e) = functionLine colours es e := by
  rw [lineText, functionLine]
  refine congrArg _ (columns_eq_map colours es (length_rowCells e) fun i c hc => ?_)
  obtain ⟨-, -, hcells⟩ := cells_of_column hc
  obtain ⟨hcell, hmarked⟩ := hcells e
  refine ⟨_, hcell, ?_⟩
  cases hmark : c.marked e with
  | true => exact paint_eq_attributed colours (by decide) (hmarked hmark)
  | false => cases colours <;> rfl

example :
    let e : Entry := ⟨⟨"größe", "maß.c", 17, 30, 0, 9, 7, 106⟩, (Flags.clear).set .complexity true⟩
    functionLine true [e] e = "größe        9   \x1b[1;31m17\x1b[0m      30       0  7-106" := by
  decide +kernel

/-- **A table is these lines.** -/
theorem table_eq_linesOf (colours : Bool) (k : SortKey) (descending : Bool) (es : List Entry) :
    table colours k descending es =
      String.join ((linesOf colours es (sortEntries k descending es)).map (· ++ "\n")) := by
  have hrule : String.ofList (List.replicate (lineLength (widths (es.map rowCells))) '-') =
      ruleLine es := by
    rw [lineLength_eq, widths_eq_map]
    rfl
  have hentry : entryLine colours (widths (es.map rowCells)) =
      fun e => functionLine colours es e ++ "\n" := by
    funext e
    rw [entryLine, lineText_rowCells]
  rw [table_eq, tableTop, lineText_header, hrule, hentry, linesOf, List.map_cons, List.map_cons,
    List.map_map, String.join_cons, String.join_cons]
  simp only [String.append_assoc]
  rfl

theorem tableLines_eq (es sorted : List Entry) :
    tableLines (widths (es.map rowCells)) sorted = (linesOf false es sorted).map String.toList := by
  have hrule : List.replicate (lineLength (widths (es.map rowCells))) '-' = (ruleLine es).toList := by
    rw [lineLength_eq, widths_eq_map, ruleLine, String.toList_ofList]
    rfl
  rw [tableLines, lineText_header, hrule, linesOf, List.map_cons, List.map_cons, List.map_map]
  simp only [lineText_rowCells]
  rfl

/-! ### Reports -/

/-- A warning about a row. -/
def warningText (colours : Bool) (p : FunctionRecord × Diagnostic) : String :=
  attributed colours "1;33" "warning" ++ attributed colours "1" ":" ++ " " ++ p.2.message ++ " "
    ++ attributed colours "2" ("[" ++ p.2.metric.id ++ "]") ++ "\n"
    ++ "  " ++ attributed colours "34" "-->" ++ " " ++ p.2.file ++ ":"
    ++ toString (max 1 p.1.startLine.toNat) ++ "\n\n"

/-- A report on warnings about rows. -/
def warningsText (colours : Bool) (rows : List (FunctionRecord × Diagnostic)) : String :=
  if rows = [] then attributed colours "32" "No complexity issues found." ++ "\n"
  else String.join (rows.map (warningText colours)) ++ "\nFound "
    ++ attributed colours "33" (toString rows.length ++ " warning(s)") ++ "\n"

theorem severity_of_mem_ofRecord {t : Thresholds} {r : FunctionRecord} {d : Diagnostic}
    (hd : d ∈ Diagnostic.ofRecord t r) : d.severity = .warning := by
  obtain ⟨v, -, rfl⟩ := List.mem_map.mp hd
  rfl

theorem diagnosticText_eq_warningText (colours : Bool) {t : Thresholds} {r : FunctionRecord}
    {d : Diagnostic} (hd : d ∈ Diagnostic.ofRecord t r) :
    diagnosticText colours d = warningText colours (r, d) := by
  have hid : '\x1b' ∉ ("[" ++ d.metric.id ++ "]").toList := by cases d.metric <;> decide
  rw [diagnosticText, severity_of_mem_ofRecord hd, (Diagnostic.onLine_of_mem_ofRecord hd).line,
    paint_eq_attributed colours (by decide) (by decide),
    paint_eq_attributed colours (by decide) (by decide),
    paint_eq_attributed colours (by decide) hid,
    paint_eq_attributed colours (by decide) (by decide)]
  rfl

theorem tally_eq (colours : Bool) {ds : List Diagnostic} (hne : ds ≠ [])
    (hds : ∀ d ∈ ds, d.severity = .warning) :
    tally colours ds = attributed colours "33" (toString ds.length ++ " warning(s)") := by
  have hwarnings : countOf .warning ds = ds.length := by
    rw [countOf, List.filter_eq_self.mpr fun d hd => decide_eq_true (hds d hd)]
  have hother : ∀ s, s ≠ .warning → countOf s ds = 0 := by
    intro s hs
    rw [countOf, List.length_eq_zero_iff, List.filter_eq_nil_iff]
    intro d hd
    rw [hds d hd, decide_eq_true_eq]
    exact hs.symm
  have htext : '\x1b' ∉ (toString ds.length ++ " warning(s)").toList := by
    rw [String.toList_append, List.mem_append, not_or]
    exact ⟨escape_notMem_number _, by decide⟩
  have hpaint : paint colours { colour := some .yellow } (toString ds.length ++ " warning(s)") =
      attributed colours "33" (toString ds.length ++ " warning(s)") :=
    paint_eq_attributed colours (by decide) htext
  rw [← hpaint, tally]
  simp [hwarnings, hother .error (by decide), hother .info (by decide), hne, String.append_assoc]

/-- **What a report on warnings shows.** -/
theorem console_eq_warningsText (colours : Bool) {t : Thresholds}
    {rows : List (FunctionRecord × Diagnostic)} (hrows : ∀ p ∈ rows, p.2 ∈ Diagnostic.ofRecord t p.1) :
    console colours (rows.map Prod.snd) = warningsText colours rows := by
  by_cases hne : rows = []
  · rw [hne, console, warningsText, if_pos rfl]
    exact congrArg (· ++ "\n") (paint_eq_attributed colours (by decide) (by decide))
  · have hds : ∀ d ∈ rows.map Prod.snd, d.severity = .warning := by
      intro d hd
      obtain ⟨p, hp, rfl⟩ := List.mem_map.mp hd
      exact severity_of_mem_ofRecord (hrows p hp)
    have htexts : (rows.map Prod.snd).map (diagnosticText colours) =
        rows.map (warningText colours) := by
      rw [List.map_map]
      exact List.map_congr_left fun p hp => diagnosticText_eq_warningText colours (hrows p hp)
    rw [console, warningsText, if_neg (by simpa using hne), if_neg hne, htexts,
      tally_eq colours (by simpa using hne) hds, List.length_map]

end ComplexityLint.Output
