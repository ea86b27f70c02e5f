import ComplexityLint.Output.Console
import ComplexityLint.Proofs.Output.Layout

/-!
Colours add nothing to what is read. The control sequences of a coloured text are taken out again
(`unstyled`); what is left of a styled text is the text (`readsAs_paint`), and so of a whole table
(`readsAs_table`) and of a whole report (`readsAs_console`).
-/

namespace ComplexityLint.Output

open Style
open Text (trimRight pieces)

/-! ### Control sequences -/

/-- A character between the introducer of a control sequence and its end. -/
def isParameter (c : Char) : Bool := ' ' ≤ c && c ≤ '?'

/-- A character that ends a control sequence. -/
def isFinal (c : Char) : Bool := '@' ≤ c && c ≤ '~'

/-- The length of the control sequence that a text begins with; zero, if it begins with none. -/
def controlLength : List Char → Nat
  | '\x1b' :: '[' :: s =>
    let parameters := s.takeWhile isParameter
    if (s.drop parameters.length).head?.any isFinal then parameters.length + 3 else 0
  | _ => 0

/-- A text without its first characters and without the control sequences in the rest. -/
def unstyledFrom : Nat → List Char → List Char
  | _, [] => []
  | n + 1, _ :: s => unstyledFrom n s
  | 0, c :: s =>
    match controlLength (c :: s) with
    | 0 => c :: unstyledFrom 0 s
    | n + 1 => unstyledFrom n s

/-- A text without its control sequences. -/
def unstyled (s : List Char) : List Char := unstyledFrom 0 s

theorem unstyledFrom_append (s rest : List Char) :
    unstyledFrom s.length (s ++ rest) = unstyled rest := by
  induction s with
  | nil => rfl
  | cons c s ih => rw [List.length_cons, List.cons_append, unstyledFrom, ih]

/-- A control sequence is taken out whole. -/
theorem unstyled_append_of_controlLength {c : Char} {s rest : List Char}
    (h : controlLength (c :: s ++ rest) = (c :: s).length) :
    unstyled (c :: s ++ rest) = unstyled rest := by
  rw [List.cons_append, List.length_cons] at h
  rw [unstyled, List.cons_append, unstyledFrom, h]
  exact unstyledFrom_append s rest

/-- A character that does not introduce a control sequence stays. -/
theorem unstyled_cons {c : Char} (hc : c ≠ '\x1b') (s : List Char) :
    unstyled (c :: s) = c :: unstyled s := by
  have hnone : controlLength (c :: s) = 0 := by
    rw [controlLength]
    intro s' h
    exact absurd (List.cons.inj h).1 hc
  rw [unstyled, unstyledFrom, hnone]
  rfl

/-- The sequence that selects attributes. -/
theorem controlLength_attributes {parameters : List Char}
    (h : ∀ c ∈ parameters, isParameter c = true) (rest : List Char) :
    controlLength ('\x1b' :: '[' :: parameters ++ ['m'] ++ rest) = parameters.length + 3 := by
  have htake : (parameters ++ 'm' :: rest).takeWhile isParameter = parameters := by
    rw [List.takeWhile_append_of_pos h, List.takeWhile_cons_of_neg (by decide), List.append_nil]
  have hend : ((parameters ++ 'm' :: rest).drop parameters.length).head?.any isFinal = true := by
    rw [List.drop_left]
    rfl
  have hcut : '\x1b' :: '[' :: parameters ++ ['m'] ++ rest =
      '\x1b' :: '[' :: (parameters ++ 'm' :: rest) := by simp
  rw [hcut, controlLength, htake]
  exact if_pos hend

/-- The parameters of a style. -/
theorem isParameter_codes (style : Style) :
    ∀ c ∈ (";".intercalate style.codes).toList, isParameter c = true := by
  have hcodes : ∀ code ∈ style.codes, code.toList.all isParameter = true := by
    intro code hcode
    simp only [codes, List.mem_append, List.mem_ite_nil_right, List.mem_singleton,
      Option.mem_toList, Option.map_eq_some_iff] at hcode
    rcases hcode with ((⟨-, rfl⟩ | ⟨-, rfl⟩) | ⟨-, rfl⟩) | ⟨colour, -, rfl⟩
    · decide
    · decide
    · decide
    · cases colour <;> decide
  intro c hc
  rw [String.toList_intercalate] at hc
  rcases Text.mem_intercalate hc with hsep | ⟨p, hp, hc⟩
  · obtain rfl : c = ';' := List.mem_singleton.mp hsep
    decide
  · obtain ⟨code, hcode, rfl⟩ := List.mem_map.mp hp
    exact List.all_eq_true.mp (hcodes code hcode) c hc

/-- The sequence that opens a style is taken out. -/
theorem unstyled_opening_append (style : Style) (rest : List Char) :
    unstyled (style.opening ++ rest) = unstyled rest := by
  have hlen := controlLength_attributes (isParameter_codes style) rest
  exact unstyled_append_of_controlLength (by simpa [opening] using hlen)

/-- The sequence that ends a style is taken out. -/
theorem unstyled_reset_append (rest : List Char) : unstyled (reset ++ rest) = unstyled rest := rfl

/-- Characters none of which introduces a control sequence stay. -/
theorem unstyled_append {s : List Char} (h : '\x1b' ∉ s) (rest : List Char) :
    unstyled (s ++ rest) = s ++ unstyled rest := by
  induction s with
  | nil => rfl
  | cons c s ih =>
    have hc : c ≠ '\x1b' := fun hc => h (hc ▸ List.mem_cons_self)
    have hs : '\x1b' ∉ s := fun hs => h (List.mem_cons_of_mem c hs)
    rw [List.cons_append, unstyled_cons hc, ih hs, List.cons_append]

/-! ### What is read of a coloured text -/

/-- A text reads as another one: it is the other one with control sequences in it, and it leaves none
open, whatever follows. -/
def ReadsAs (coloured plain : String) : Prop :=
  ∀ rest, unstyled (coloured.toList ++ rest) = plain.toList ++ unstyled rest

namespace ReadsAs

theorem unstyled_eq {s t : String} (h : ReadsAs s t) : unstyled s.toList = t.toList := by
  have hall := h []
  rwa [List.append_nil, show unstyled [] = [] from rfl, List.append_nil] at hall

/-- A text without an escape character reads as itself. -/
theorem of_notMem {s : String} (h : '\x1b' ∉ s.toList) : ReadsAs s s := unstyled_append h

theorem append {s t s' t' : String} (h : ReadsAs s t) (h' : ReadsAs s' t') :
    ReadsAs (s ++ s') (t ++ t') := by
  intro rest
  rw [String.toList_append, String.toList_append, List.append_assoc, h, h', List.append_assoc]

/-- Texts that are put one behind another. -/
theorem join {α : Type} {f g : α → String} {xs : List α} (h : ∀ x ∈ xs, ReadsAs (f x) (g x)) :
    ReadsAs (String.join (xs.map f)) (String.join (xs.map g)) := by
  induction xs with
  | nil => exact of_notMem (by simp)
  | cons x xs ih =>
    obtain ⟨hx, hxs⟩ := List.forall_mem_cons.mp h
    rw [List.map_cons, List.map_cons, String.join_cons, String.join_cons]
    exact hx.append (ih hxs)

/-- Texts that are put one behind another with something between. -/
theorem intercalate {sep : String} (hsep : '\x1b' ∉ sep.toList) {ss ts : List String}
    (h : List.Forall₂ ReadsAs ss ts) : ReadsAs (sep.intercalate ss) (sep.intercalate ts) := by
  induction h with
  | nil => exact of_notMem (by simp)
  | cons hfirst hrest ih =>
    cases hrest with
    | nil => simpa using hfirst
    | cons hnext hrest =>
      rw [String.intercalate_cons_cons, String.intercalate_cons_cons]
      exact (hfirst.append (of_notMem hsep)).append ih

end ReadsAs

/-- A style is opened again only behind a reset. -/
theorem reopen_of_notMem (start : List Char) {s : List Char} (h : '\x1b' ∉ s) :
    reopen start s = s := by
  induction s with
  | nil => rfl
  | cons c s ih =>
    have hs : '\x1b' ∉ s := fun hs => h (List.mem_cons_of_mem c hs)
    rw [reopen, ih hs]
    rintro s' rfl -
    exact h List.mem_cons_self

/-- **A styled text reads as the text.** -/
theorem readsAs_paint (colours : Bool) (style : Style) {text : String} (h : '\x1b' ∉ text.toList) :
    ReadsAs (paint colours style text) text := by
  intro rest
  unfold paint
  split
  · exact unstyled_append h rest
  · rw [String.toList_ofList, reopen_of_notMem _ h, List.append_assoc, List.append_assoc,
      unstyled_opening_append, unstyled_append h, unstyled_reset_append]

example : unstyled (paint true { bold := true, colour := some .red } "17").toList = ['1', '7'] := by
  decide

/-- A text is in colour exactly if its style has an attribute. -/
theorem escape_mem_paint_iff {style : Style} {text : String} (h : '\x1b' ∉ text.toList) :
    '\x1b' ∈ (paint true style text).toList ↔ style.codes ≠ [] := by
  unfold paint
  by_cases hcodes : style.codes = []
  · simp [hcodes, h]
  · simp [hcodes, opening]

/-! ### Tables -/

/-- Numbers hold no escape character. -/
theorem escape_notMem_number (n : Nat) : '\x1b' ∉ (toString n).toList := by
  intro h
  have hdigit : '\x1b' ∈ Nat.toDigits 10 n := by
    rw [← Nat.toList_repr]
    exact h
  have hisDigit := Nat.isDigit_of_mem_toDigits (by decide) (by decide) hdigit
  revert hisDigit
  decide

theorem readsAs_padded (colours left : Bool) (w : Nat) {c : Cell} (h : '\x1b' ∉ c.text.toList) :
    ReadsAs (padded colours left w c) (padded false left w c) := by
  have hpad : ReadsAs (String.ofList (List.replicate (w - c.text.length) ' '))
      (String.ofList (List.replicate (w - c.text.length) ' ')) :=
    ReadsAs.of_notMem (by simp)
  have htext : ReadsAs (paint colours c.style c.text) c.text := readsAs_paint colours c.style h
  cases left with
  | true => exact htext.append hpad
  | false => exact hpad.append htext

/-- A cell is in colour exactly if its style has an attribute. -/
theorem escape_mem_padded_iff (left : Bool) (w : Nat) {c : Cell} (h : '\x1b' ∉ c.text.toList) :
    '\x1b' ∈ (padded true left w c).toList ↔ c.style.codes ≠ [] := by
  rw [← escape_mem_paint_iff h, padded]
  cases left <;> simp

/-- The columns of a line one by one. -/
theorem readsAs_columns (colours : Bool) (ws : List Nat) {row : List Cell}
    (h : ∀ c ∈ row, '\x1b' ∉ c.text.toList) :
    List.Forall₂ ReadsAs (columns colours ws row) (columns false ws row) := by
  cases ws with
  | nil => exact .nil
  | cons w ws =>
    cases row with
    | nil => exact .nil
    | cons c row =>
      obtain ⟨hc, hrow⟩ := List.forall_mem_cons.mp h
      refine .cons (readsAs_padded colours true w hc) ?_
      clear h hc
      induction ws generalizing row with
      | nil => simp
      | cons w' ws ih =>
        cases row with
        | nil => simp
        | cons c' row =>
          obtain ⟨hc', hrow'⟩ := List.forall_mem_cons.mp hrow
          exact .cons (readsAs_padded colours false w' hc') (ih _ hrow')

theorem readsAs_lineText (colours : Bool) (ws : List Nat) {row : List Cell}
    (h : ∀ c ∈ row, '\x1b' ∉ c.text.toList) :
    ReadsAs (lineText colours ws row) (lineText false ws row) :=
  ReadsAs.intercalate (by decide) (readsAs_columns colours ws h)

theorem readsAs_tableTop (colours : Bool) (ws : List Nat) :
    ReadsAs (tableTop colours ws) (tableTop false ws) := by
  have hheader : ReadsAs (lineText colours ws header) (lineText false ws header) :=
    readsAs_lineText colours ws (by decide)
  have hend : ReadsAs "\n" "\n" := ReadsAs.of_notMem (by decide)
  have hrule : ReadsAs (String.ofList (List.replicate (lineLength ws) '-'))
      (String.ofList (List.replicate (lineLength ws) '-')) :=
    ReadsAs.of_notMem (by simp)
  exact ((hheader.append hend).append hrule).append hend

/-- **A coloured table reads as the table without colours.** -/
theorem readsAs_table (colours : Bool) (k : SortKey) (descending : Bool) {es : List Entry}
    (hnames : ∀ e ∈ es, '\x1b' ∉ e.record.name.toList) :
    ReadsAs (table colours k descending es) (table false k descending es) := by
  rw [table_eq, table_eq]
  refine (readsAs_tableTop colours _).append (ReadsAs.join fun e he => ?_)
  have hmem : e ∈ es := (sortEntries_perm k descending es).mem_iff.mp he
  have hcells : ∀ c ∈ rowCells e, '\x1b' ∉ c.text.toList :=
    notMem_rowCells (hnames e hmem) (by decide) (by decide)
  exact (readsAs_lineText colours _ hcells).append (ReadsAs.of_notMem (by decide))

/-! ### Reports -/

/-- **A coloured diagnostic reads as the diagnostic without colours.** -/
theorem readsAs_diagnosticText (colours : Bool) {d : Diagnostic} (hmessage : '\x1b' ∉ d.message.toList)
    (hfile : '\x1b' ∉ d.file.toList) :
    ReadsAs (diagnosticText colours d) (diagnosticText false d) := by
  have hgrade : ReadsAs (paint colours (severityStyle d.severity) d.severity.name) d.severity.name :=
    readsAs_paint colours _ (by cases d.severity <;> decide)
  have hmark : ReadsAs (paint colours { bold := true } ":") ":" := readsAs_paint colours _ (by decide)
  have hid : ReadsAs (paint colours { dimmed := true } ("[" ++ d.metric.id ++ "]"))
      ("[" ++ d.metric.id ++ "]") :=
    readsAs_paint colours _ (by cases d.metric <;> decide)
  have harrow : ReadsAs (paint colours { colour := some .blue } "-->") "-->" :=
    readsAs_paint colours _ (by decide)
  have hblank : ReadsAs " " " " := .of_notMem (by decide)
  have hindent : ReadsAs "  " "  " := .of_notMem (by decide)
  have hcolon : ReadsAs ":" ":" := .of_notMem (by decide)
  have hend : ReadsAs "\n" "\n" := .of_notMem (by decide)
  have hgap : ReadsAs "\n\n" "\n\n" := .of_notMem (by decide)
  have hline := ReadsAs.of_notMem (escape_notMem_number d.line.toNat)
  have hfirst := ((((((hgrade.append hmark).append hblank).append (.of_notMem hmessage)).append
    hblank).append hid).append hend)
  exact ((((((hfirst.append hindent).append harrow).append hblank).append (.of_notMem hfile)).append
    hcolon).append hline).append hgap

/-- What is counted has no part in the colours. -/
theorem readsAs_tally (colours : Bool) (ds : List Diagnostic) :
    ReadsAs (tally colours ds) (tally false ds) := by
  have hpart : ∀ (s : Severity) (c : Colour) (noun : String), '\x1b' ∉ noun.toList →
      List.Forall₂ ReadsAs
        (if countOf s ds = 0 then [] else
          [paint colours { colour := some c } (toString (countOf s ds) ++ " " ++ noun ++ "(s)")])
        (if countOf s ds = 0 then [] else
          [paint false { colour := some c } (toString (countOf s ds) ++ " " ++ noun ++ "(s)")]) := by
    intro s c noun hnoun
    have hnumber := escape_notMem_number (countOf s ds)
    split
    · exact .nil
    · refine .cons (readsAs_paint colours _ ?_) .nil
      simp only [String.toList_append, List.mem_append, not_or]
      exact ⟨⟨⟨hnumber, by decide⟩, hnoun⟩, by decide⟩
  refine ReadsAs.intercalate (by decide) (List.rel_append (List.rel_append ?_ ?_) ?_)
  · exact hpart .error .red "error" (by decide)
  · exact hpart .warning .yellow "warning" (by decide)
  · exact hpart .info .blue "info" (by decide)

/-- **A coloured report reads as the report without colours.** -/
theorem readsAs_console (colours : Bool) {ds : List Diagnostic}
    (hds : ∀ d ∈ ds, '\x1b' ∉ d.message.toList ∧ '\x1b' ∉ d.file.toList) :
    ReadsAs (console colours ds) (console false ds) := by
  have hend : ReadsAs "\n" "\n" := .of_notMem (by decide)
  have hfound : ReadsAs "\nFound " "\nFound " := .of_notMem (by decide)
  unfold console
  split
  · exact (readsAs_paint colours _ (by decide)).append hend
  · have hall : ReadsAs (String.join (ds.map (diagnosticText colours)))
        (String.join (ds.map (diagnosticText false))) :=
      ReadsAs.join fun d hd => readsAs_diagnosticText colours (hds d hd).1 (hds d hd).2
    exact ((hall.append hfound).append (readsAs_tally colours ds)).append hend

/-! ### Layout and colours -/

/-- The number of a metric in the line of a function, as it is shown: read without colours it stands
flush right in its column, and it is in colour exactly if it is marked. -/
theorem exists_metric_cell {ws : List Nat} {e : Entry} (hlen : ws.length = 6) (m : Metric) :
    ∃ w cell, ws[column m]? = some w ∧ (columns true ws (rowCells e))[column m]? = some cell ∧
      unstyled cell.toList = aligned false w (toString (m.observe e.record).toNat).toList ∧
      ('\x1b' ∈ cell.toList ↔ e.flags.get m = true) := by
  have hcolumn : column m < ws.length := by
    rw [hlen]
    cases m <;> decide
  have hright : decide (column m = 0) = false := by
    cases m <;> rfl
  have hw : ws[column m]? = some ws[column m] := List.getElem?_eq_getElem hcolumn
  obtain ⟨c, hc, htext, hstyle⟩ : ∃ c, (rowCells e)[column m]? = some c ∧
      c.text = toString (m.observe e.record).toNat ∧
      (c.style.codes ≠ [] ↔ e.flags.get m = true) := by
    refine ⟨_, rowCells_column e m, rfl, ?_⟩
    cases e.flags.get m with
    | true => simp [codes]
    | false => simp [codes, plain]
  have hplain : '\x1b' ∉ c.text.toList := htext ▸ escape_notMem_number _
  refine ⟨ws[column m], padded true false ws[column m] c, hw, ?_, ?_, ?_⟩
  · rw [getElem?_columns true hw hc, hright]
  · rw [(readsAs_padded true false _ hplain).unstyled_eq, toList_padded, htext]
  · rw [escape_mem_padded_iff false _ hplain, hstyle]

/-- **Layout and colours.** In a table of names that break no line and hold no escape character, the
header, the rule and the lines of the functions are of one length, every cell stands in its column,
and no line is trimmed. With colours the table reads the same, and the number of a metric is in
colour exactly if it is marked. A report in colours reads as the one without, too. -/
theorem layout_table {es : List Entry}
    (hnames : ∀ e ∈ es, '\n' ∉ e.record.name.toList ∧ '\x1b' ∉ e.record.name.toList) (k : SortKey)
    (descending : Bool) :
    let ws := widths (es.map rowCells)
    let lines := tableLines ws (sortEntries k descending es)
    (∀ colours, table colours k descending es = tableTop colours ws ++
      String.join ((sortEntries k descending es).map (entryLine colours ws))) ∧
      pieces '\n' (table false k descending es).toList = lines ++ [[]] ∧
      (∀ line ∈ lines, line.length = lineLength ws) ∧
      (∀ row ∈ header :: es.map rowCells, Laid ws row (lineText false ws row).toList ∧
        ∀ colours, trimRight (lineText colours ws row).toList = (lineText colours ws row).toList) ∧
      unstyled (table true k descending es).toList = (table false k descending es).toList ∧
      (∀ e ∈ es, ∀ m, ∃ w cell, ws[column m]? = some w ∧
        (columns true ws (rowCells e))[column m]? = some cell ∧
        unstyled cell.toList = aligned false w (toString (m.observe e.record).toNat).toList ∧
        ('\x1b' ∈ cell.toList ↔ e.flags.get m = true)) ∧
      ∀ ds : List Diagnostic, (∀ d ∈ ds, '\x1b' ∉ d.message.toList ∧ '\x1b' ∉ d.file.toList) →
        unstyled (console true ds).toList = (console false ds).toList := by
  intro ws lines
  have hlen : ws.length = 6 := length_widths es
  have hfits := fits_widths es
  have hrow : ∀ row ∈ header :: es.map rowCells, row.length = 6 ∧ Inked row := by
    refine List.forall_mem_cons.mpr ⟨⟨rfl, inked_header⟩, fun row hrow => ?_⟩
    obtain ⟨e, -, rfl⟩ := List.mem_map.mp hrow
    exact ⟨length_rowCells e, inked_rowCells e⟩
  have hlaid : ∀ row ∈ header :: es.map rowCells, Laid ws row (lineText false ws row).toList := by
    intro row hmem
    have hne : row ≠ [] := by
      rintro rfl
      exact absurd (hrow [] hmem).1 (by decide)
    exact laid_lineText (hfits row hmem) hne
  have hlength : ∀ line ∈ lines, line.length = lineLength ws := by
    have hheader := (hlaid header List.mem_cons_self).length
    refine List.forall_mem_cons.mpr ⟨hheader, List.forall_mem_cons.mpr ⟨by simp, fun line hline => ?_⟩⟩
    obtain ⟨e, he, rfl⟩ := List.mem_map.mp hline
    have hmem : e ∈ es := (sortEntries_perm k descending es).mem_iff.mp he
    exact (hlaid _ (List.mem_cons_of_mem _ (List.mem_map_of_mem hmem))).length
  refine ⟨fun colours => table_eq colours k descending es,
    pieces_table (fun e he => (hnames e he).1) k descending, hlength, fun row hmem => ?_, ?_,
    fun e _ m => exists_metric_cell hlen m, fun ds hds => (readsAs_console true hds).unstyled_eq⟩
  · obtain ⟨hlen', hink⟩ := hrow row hmem
    refine ⟨hlaid row hmem, fun colours => ?_⟩
    exact trimRight_lineText colours (hlen'.trans hlen.symm) (by omega) hink
  · exact (readsAs_table true k descending fun e he => (hnames e he).2).unstyled_eq

/-- Two functions whose names take more bytes than characters; a number of the first is marked. -/
def wideNames : List Entry :=
  [⟨⟨"größe_ändern", "maß.c", 17, 4294967295, 0, 100, 7, 106⟩, (Flags.clear).set .complexity true⟩,
   ⟨⟨"日本::読む", "maß.c", 2, 30, 1, 4, 110, 113⟩, Flags.clear⟩]

theorem layout_table_wideNames :
    let ws := widths (wideNames.map rowCells)
    let d : Diagnostic := ⟨.complexity, .warning, "größe_ändern ist 17", "maß.c", .ofLine 7⟩
    (∀ e ∈ wideNames, '\n' ∉ e.record.name.toList ∧ '\x1b' ∉ e.record.name.toList) ∧
      (∀ d' ∈ [d], '\x1b' ∉ d'.message.toList ∧ '\x1b' ∉ d'.file.toList) ∧
      ws = [15, 4, 3, 10, 6, 7] ∧
      (∀ line ∈ tableLines ws (sortEntries .lines true wideNames), line.length = 55) ∧
      unstyled (table true .lines true wideNames).toList =
        (table false .lines true wideNames).toList ∧
      (∃ cell, (columns true ws (rowCells wideNames[0]))[2]? = some cell ∧
        unstyled cell.toList = [' ', '1', '7'] ∧ '\x1b' ∈ cell.toList) ∧
      unstyled (console true [d]).toList = (console false [d]).toList := by
  intro ws d
  have hnames : ∀ e ∈ wideNames, '\n' ∉ e.record.name.toList ∧ '\x1b' ∉ e.record.name.toList := by
    decide
  have hreport : ∀ d' ∈ [d], '\x1b' ∉ d'.message.toList ∧ '\x1b' ∉ d'.file.toList := by
    decide
  have hws : ws = [15, 4, 3, 10, 6, 7] := by decide
  obtain ⟨-, -, hlength, -, htable, hcell, hconsole⟩ := layout_table hnames .lines true
  refine ⟨hnames, hreport, hws, fun line hline => ?_, htable, ?_, hconsole [d] hreport⟩
  · rw [hlength line hline]
    exact congrArg lineLength hws
  · obtain ⟨w, cell, hw, hat, hread, hmark⟩ := hcell wideNames[0] List.mem_cons_self .complexity
    obtain rfl : 3 = w := by
      have hthree : ws[column .complexity]? = some 3 := by rw [hws]; rfl
      exact Option.some.inj (hthree.symm.trans hw)
    exact ⟨cell, hat, hread.trans (by decide), hmark.mpr rfl⟩

end ComplexityLint.Output
