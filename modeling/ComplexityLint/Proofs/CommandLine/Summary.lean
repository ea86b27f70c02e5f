import ComplexityLint.Proofs.CommandLine.Parse
import ComplexityLint.Proofs.Output.Order
import ComplexityLint.Proofs.Report.RoundTrip

/-!
The tables behind a report. Whatever logs are read, there is a table for each file of which they have
a row, and in it a line for each function of the file, which shows the last row of that function
(`tables_of_parse`). Neither limits nor grades have a part in it.
-/

namespace ComplexityLint

namespace Report

/-- The last row of each function, in the order in which the functions are seen first. -/
def latest (rows : List FunctionRecord) : List FunctionRecord :=
  (rows.map (·.name)).eraseDups.filterMap fun name => (rows.filter fun r => r.name = name).getLast?

/-- The files of some rows, in the order in which they are seen first, each with the last row of each
of its functions. -/
def byFile (rows : List FunctionRecord) : List (String × List FunctionRecord) :=
  (rows.map (·.file)).eraseDups.map fun file => (file, latest (rows.filter fun r => r.file = file))

/-- Some sections show all that rows say and nothing else: there is one section for each file, and in
it one record for each function of the file, the last that the rows have. -/
structure Summarizes (rows : List FunctionRecord) (sections : List (String × List FunctionRecord)) :
    Prop where
  files : sections.map (·.1) = (rows.map (·.file)).eraseDups
  names : ∀ p ∈ sections, p.2.map (·.name) =
    ((rows.filter fun r => r.file = p.1).map (·.name)).eraseDups
  last : ∀ p ∈ sections, ∀ r ∈ p.2,
    (rows.filter fun r' => r'.file = p.1 ∧ r'.name = r.name).getLast? = some r

/-- What is known of functions after rows of one file that are taken in under the same limits. -/
theorem entriesOf_map (t : Thresholds) (rows : List FunctionRecord) :
    Registry.entriesOf (rows.map fun r => ⟨r, t⟩) =
      (latest rows).map fun r => Intake.entry ⟨r, t⟩ := by
  have hlatest : ∀ name, Registry.latest? (rows.map fun r => ⟨r, t⟩) name =
      (rows.filter fun r => r.name = name).getLast?.map fun r => Intake.entry ⟨r, t⟩ := by
    intro name
    rw [Registry.latest?, List.filter_map, List.getLast?_map, Option.map_map]
    rfl
  rw [Registry.entriesOf, latest, List.map_filterMap, List.map_map]
  exact List.filterMap_congr fun name _ => hlatest name

theorem names_latest (rows : List FunctionRecord) :
    (latest rows).map (·.name) = (rows.map (·.name)).eraseDups := by
  have hnames := Registry.names_entriesOf (rows.map fun r => ⟨r, Thresholds.unset⟩)
  rwa [entriesOf_map, List.map_map, List.map_map] at hnames

theorem getLast?_of_mem_latest {rows : List FunctionRecord} {r : FunctionRecord}
    (hr : r ∈ latest rows) : (rows.filter fun r' => r'.name = r.name).getLast? = some r := by
  obtain ⟨name, -, hlast⟩ := List.mem_filterMap.mp hr
  have hmem := List.mem_of_getLast? hlast
  obtain rfl : r.name = name := of_decide_eq_true (List.mem_filter.mp hmem).2
  exact hlast

theorem summarizes_byFile (rows : List FunctionRecord) : Summarizes rows (byFile rows) where
  files := by
    rw [byFile, List.map_map]
    exact List.map_id _
  names := by
    intro p hp
    obtain ⟨file, -, rfl⟩ := List.mem_map.mp hp
    exact names_latest _
  last := by
    intro p hp r hr
    obtain ⟨file, -, rfl⟩ := List.mem_map.mp hp
    have hlast := getLast?_of_mem_latest hr
    rw [List.filter_filter] at hlast
    simpa only [Bool.decide_and, Bool.and_comm] using hlast

/-- No other row is shown than one that was read. -/
theorem mem_of_mem_byFile {rows : List FunctionRecord} {p : String × List FunctionRecord}
    (hp : p ∈ byFile rows) : ∀ r ∈ p.2, r ∈ rows := by
  intro r hr
  have hlast := (summarizes_byFile rows).last p hp r hr
  exact List.mem_of_mem_filter (List.mem_of_getLast? hlast)

end Report

namespace CommandLine

open Output Report

/-- The registry of a linter that took in some reports is that of their rows, all of them under the
limits of the linter. -/
theorem registry_readerOf (c : Config) (limits : Overrides) (texts : List String) :
    (texts.foldl Linter.learn (readerOf c limits)).registry =
      Registry.ofHistory
        ((texts.flatMap Report.parse).map fun r => ⟨r, c.thresholds.override limits⟩) := by
  have hintakes : texts.flatMap (readerOf c limits).intakes =
      (texts.flatMap Report.parse).map fun r => ⟨r, c.thresholds.override limits⟩ := by
    rw [List.map_flatMap]
    rfl
  rw [Linter.foldl_learn, hintakes]
  exact Registry.foldl_take [] _

/-- **There is a table for each file**: the linter knows of every file that it was told of, so that
no file is passed over. -/
theorem fileAnalysis_readerOf (c : Config) (limits : Overrides) (texts : List String) :
    let l := texts.foldl Linter.learn (readerOf c limits)
    let rows := texts.flatMap Report.parse
    l.registry.files = (byFile rows).map (·.1) ∧
      ∀ p ∈ byFile rows, l.fileAnalysis (.ofText p.1) =
        some (p.2.map fun r => Intake.entry ⟨r, c.thresholds.override limits⟩) := by
  intro l rows
  have hregistry := registry_readerOf c limits texts
  constructor
  · rw [hregistry, Registry.files_ofHistory, (summarizes_byFile rows).files, List.map_map]
    rfl
  · intro p hp
    obtain ⟨file, hfile, rfl⟩ := List.mem_map.mp hp
    have hmem : file ∈ ((rows.map fun r => (⟨r, c.thresholds.override limits⟩ : Intake)).map
        (·.record.file)) := by
      rw [List.map_map]
      exact List.mem_eraseDups.mp hfile
    rw [Linter.fileAnalysis_ofText, hregistry, Registry.file?_ofHistory, if_pos hmem,
      List.filter_map, entriesOf_map]
    rfl

/-- What a table is made of: a row, and for each metric whether its number is above a limit. -/
def markedEntry (t : Thresholds) (r : FunctionRecord) : Entry :=
  ⟨r,
    { complexity := decide (t.Exceeded r .complexity)
      tokens := decide (t.Exceeded r .tokens)
      parameters := decide (t.Exceeded r .parameters)
      lines := decide (t.Exceeded r .lines) }⟩

theorem entry_eq_markedEntry (t : Thresholds) (r : FunctionRecord) :
    Intake.entry ⟨r, t⟩ = markedEntry t r := by
  have hflags : Flags.ofViolations (t.evaluate r) = (markedEntry t r).flags := by
    refine PerMetric.ext_get fun m => ?_
    rw [Bool.eq_iff_iff, Flags.get_ofViolations_evaluate]
    cases m <;> exact decide_eq_true_iff.symm
  rw [Intake.entry, hflags]
  rfl

theorem tables_readerOf (colours : Bool) (summary : Summary) (c : Config) (limits : Overrides)
    (texts : List String) :
    tables colours summary (texts.foldl Linter.learn (readerOf c limits)) =
      String.join ((byFile (texts.flatMap Report.parse)).map fun p =>
        titled colours summary p.1 (p.2.map (markedEntry (c.thresholds.override limits)))) := by
  obtain ⟨hfiles, hknown⟩ := fileAnalysis_readerOf c limits texts
  rw [tables, hfiles, List.filterMap_map]
  congr 1
  rw [← List.filterMap_eq_map]
  refine List.filterMap_congr fun p hp => ?_
  rw [Function.comp_apply, hknown p hp]
  simp only [entry_eq_markedEntry]
  rfl

/-- The text of a section: the name of a file, bold and underlined, and below it the lines of a table
that shows some functions in the order of a key. -/
def IsSection (colours : Bool) (k : SortKey) (descending : Bool) (file : String) (es : List Entry)
    (text : String) : Prop :=
  ∃ title sorted, Attributed colours "1;4" file title ∧ Sorted k descending es sorted ∧
    text = "\n" ++ title ++ "\n" ++ String.join ((linesOf colours es sorted).map (· ++ "\n")) ∧
    Text.pieces '\n' (String.join ((linesOf false es sorted).map (· ++ "\n"))).toList =
      (linesOf false es sorted).map String.toList ++ [[]]

theorem isSection_titled (colours : Bool) (summary : Summary) (file : String) {es : List Entry}
    (hnames : ∀ e ∈ es, '\n' ∉ e.record.name.toList) :
    IsSection colours summary.key (!summary.ascending) file es (titled colours summary file es) := by
  have htitle : Attributed colours "1;4" file
      (Style.paint colours { bold := true, underline := true } file) :=
    @attributed_paint colours { bold := true, underline := true } (by decide) file
  refine ⟨_, sortEntries summary.key (!summary.ascending) es, htitle, sorted_sortEntries _ _ es, ?_, ?_⟩
  · rw [titled, table_eq_linesOf]
  · rw [← table_eq_linesOf, ← tableLines_eq]
    exact pieces_table hnames _ _

/-- A section without colours that shows functions in the order in which they come. -/
theorem IsSection.eq {k : SortKey} {descending : Bool} {file : String} {es : List Entry} {text : String}
    (h : IsSection false k descending file es text)
    (hes : es.Pairwise fun a b => ¬ k.Precedes descending b.record a.record) :
    text = "\n" ++ file ++ "\n" ++ String.join ((linesOf false es es).map (· ++ "\n")) := by
  obtain ⟨title, sorted, htitle, hsorted, rfl, -⟩ := h
  have hplain : title = file := htitle
  rw [hplain, hsorted.eq, sortEntries_of_ordered hes]

/-- **The tables are complete.** Behind the report stands a table for each file of which a log that
can be read has a row, in the order in which the files are seen first; no file is passed over. In the
table of a file is a line for each of its functions, which shows the last row of this function over
all logs and marks the numbers above a limit. The lines are ordered by the key that is chosen, up or
down, and functions with one value stay in the order in which they are seen first. Which files and
rows there are depends on the rows of the logs alone, neither on a limit nor on a grade. -/
theorem tables_of_parse (spawn : Spawn) (terminal : Terminal) {args : List String} {s : Settings}
    {logs : List Path} {dir : Path} {limits : Overrides} {summary : Summary}
    (hargs : reading args = .run s (.parse logs dir limits summary)) (hformat : s.format = .console)
    (hshown : summary.shown = true) (d : Disk) :
    let reply := run spawn terminal args d
    let rows := (d.texts logs).flatMap Report.parse
    Summarizes rows (byFile rows) ∧
    (∀ f, Config.load d dir = .error f → reply.code = 1 ∧ reply.output = "") ∧
    ∀ loaded, Config.load d dir = .ok loaded →
      let t := loaded.config.thresholds.override limits
      let l := (d.texts logs).foldl Linter.learn (readerOf loaded.config limits)
      (∀ file ∈ l.registry.files, (l.fileAnalysis (.ofText file)).isSome) ∧
      ∃ sections,
        reply.output =
          warningsText terminal.colours (graveWarnings s t (d.texts logs)) ++
            String.join sections ∧
        List.Forall₂ (fun (file, rs) text => IsSection terminal.colours summary.key
          (!summary.ascending) file (rs.map (markedEntry t)) text) (byFile rows) sections := by
  intro reply rows
  have hreply : reply = parse spawn terminal s logs dir limits summary d :=
    run_of_reading hargs spawn terminal d
  refine ⟨summarizes_byFile rows, fun f hf => ?_, fun loaded hloaded => ?_⟩
  · rw [hreply, parse_of_unloaded spawn terminal s logs limits summary hf]
    exact ⟨rfl, rfl⟩
  intro t l
  refine ⟨fun file hfile => ?_, (byFile rows).map fun p =>
    titled terminal.colours summary p.1 (p.2.map (markedEntry t)), ?_, ?_⟩
  · obtain ⟨hfiles, hknown⟩ := fileAnalysis_readerOf loaded.config limits (d.texts logs)
    rw [hfiles] at hfile
    obtain ⟨p, hp, rfl⟩ := List.mem_map.mp hfile
    rw [hknown p hp]
    rfl
  · obtain ⟨report, hreport, houtput⟩ :=
      reports_of_loaded spawn terminal s logs limits summary hloaded
    have hbehind : (summary.shown && s.format = .console) = true := by
      rw [hshown, hformat]
      rfl
    rw [hformat] at hreport
    rw [hreply, houtput, if_pos hbehind, tables_readerOf, show report = _ from hreport]
  · rw [List.forall₂_map_right_iff, List.forall₂_same]
    intro p hp
    refine isSection_titled _ _ _ fun e he => ?_
    obtain ⟨r, hr, rfl⟩ := List.mem_map.mp he
    obtain ⟨text, -, hrow⟩ := List.mem_flatMap.mp (mem_of_mem_byFile hp r hr)
    exact (wellFormed_of_mem_parse hrow).name

/-- Two logs of one project. The second one has a later row of a function of the first. -/
def twoLogs : Disk where
  items := [(["w"], .directory),
    (["w", "a.log"],
      .file (.text "-\n5 3 9 1 6 f@1-9@a.c\n2 1 4 0 2 g@11-12@a.c\n1 file analyzed") false),
    (["w", "b.log"],
      .file (.text "-\n1 1 3 0 1 h@1-1@b.c\n6 4 9 1 7 f@1-10@a.c\n1 file analyzed") false)]
  here := ["w"]

/-- Both tables are there with the later row, although no warning is grave enough to be reported. -/
theorem tables_of_parse_of_two_logs :
    let args := ["parse", "no.log", "a.log", "b.log", "--summary", "--ccn=2", "--min-severity",
      "error"]
    (∃ s logs limits summary, reading args = .run s (.parse logs (.ofText ".") limits summary) ∧
      s.format = .console ∧ summary.shown = true) ∧
    (run Shell.spawn {} args twoLogs).output = "\n".intercalate
      ["No complexity issues found.",
       "",
       "a.c",
       "function  NLOC  CCN  tokens  params  lines",
       "------------------------------------------",
       "f            6    4       9       1   1-10",
       "g            2    1       4       0  11-12",
       "",
       "b.c",
       "function  NLOC  CCN  tokens  params  lines",
       "------------------------------------------",
       "h            1    1       3       0    1-1",
       ""] := by
  intro args
  let s : Settings := { minSeverity := .error }
  let logs : List Path := [.ofText "no.log", .ofText "a.log", .ofText "b.log"]
  let limits : Overrides := ⟨some 2, none, none, none⟩
  have hargs : reading args = .run s (.parse logs (.ofText ".") limits { shown := true }) := by
    decide +kernel
  refine ⟨⟨s, logs, limits, { shown := true }, hargs, rfl, rfl⟩, ?_⟩
  have hconfig : (Config.load twoLogs (.ofText ".")).toOption.map (·.config) = some {} := by
    decide +kernel
  cases hload : Config.load twoLogs (.ofText ".") with
  | error f => rw [hload] at hconfig; cases hconfig
  | ok loaded =>
    rw [hload] at hconfig
    have hloaded : loaded.config = {} := Option.some.inj hconfig
    obtain ⟨-, -, hreply⟩ := tables_of_parse Shell.spawn {} hargs rfl rfl twoLogs
    obtain ⟨-, sections, houtput, hsections⟩ := hreply loaded hload
    have hfiles : byFile ((twoLogs.texts logs).flatMap Report.parse) =
        [("a.c", [⟨"f", "a.c", 4, 9, 1, 6, 1, 10⟩, ⟨"g", "a.c", 1, 4, 0, 2, 11, 12⟩]),
          ("b.c", [⟨"h", "b.c", 1, 3, 0, 1, 1, 1⟩])] := by
      decide +kernel
    rw [hloaded] at houtput hsections
    rw [hfiles] at hsections
    obtain ⟨first, rest, hfirst, hrest, rfl⟩ := List.forall₂_cons_left_iff.mp hsections
    obtain ⟨second, rest, hsecond, hnil, rfl⟩ := List.forall₂_cons_left_iff.mp hrest
    obtain rfl := List.forall₂_nil_left_iff.mp hnil
    rw [houtput, show first = _ from hfirst.eq (by decide +kernel),
      show second = _ from hsecond.eq (by decide +kernel)]
    decide +kernel

end CommandLine

end ComplexityLint
