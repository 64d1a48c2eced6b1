import PascalLint.Proofs.Report.Arranged
import PascalLint.Proofs.Report.Json
import PascalLint.Proofs.Run.Outcome

/-! The reports agree.

The counts, the three reports and the exit code go through the diagnostics on their own. They agree
because none of the diagnostics is suppressed (`Summary.total_add_suppressed`), and because each
report can be read back: a line of the text report at its colons (`cells_line`), the JSON report as a
document, the table by its rules and columns. What is read are the same parts of the same diagnostics
in the same order, but for the column, which an editor counts from one (`reports_agree`). Where the
table has to be narrow, its lines are broken, and blanks may be lost there. -/
namespace PascalLint

/-! ### Counts -/

namespace Summary

/-- Every diagnostic that is not suppressed is counted once. -/
theorem total_add_suppressed (ds : List Diagnostic) :
    (ofList ds).total + ds.countP Diagnostic.isSuppressed = ds.length := by
  induction ds with
  | nil => rfl
  | cons d ds ih =>
    have hone : (if d.isError then 1 else 0) + (if d.isWarning then 1 else 0) +
        (if d.isSuppressed then 1 else 0) = 1 := by
      obtain ⟨line, column, severity, text, code⟩ := d
      cases severity <;> rfl
    simp only [total, ofList, List.countP_cons, List.length_cons] at ih ⊢
    omega

theorem total_eq_length {ds : List Diagnostic} (h : ∀ d ∈ ds, d.isSuppressed = false) :
    (ofList ds).total = ds.length := by
  have hnone : ds.countP Diagnostic.isSuppressed = 0 := by simpa [List.countP_eq_zero] using h
  have htotal := total_add_suppressed ds
  omega

/-- Suppressed diagnostics count for nothing. -/
theorem ofList_filter_not_suppressed (ds : List Diagnostic) :
    ofList (ds.filter (!·.isSuppressed)) = ofList ds := by
  have hkept (d : Diagnostic) : (d.isError && !d.isSuppressed) = d.isError ∧
      (d.isWarning && !d.isSuppressed) = d.isWarning := by
    simp only [Diagnostic.isError, Diagnostic.isWarning, Diagnostic.isSuppressed]
    cases d.severity <;> exact ⟨rfl, rfl⟩
  simp only [ofList, List.countP_filter, hkept]

/-- The status line shows both counts, each with a noun in the right number. -/
theorem status_eq (s : Summary) : s.status =
    Text.ofNat s.errors ++ (if s.errors = 1 then " error, " else " errors, ").toList ++
      Text.ofNat s.warnings ++ (if s.warnings = 1 then " warning" else " warnings").toList := by
  have hnumber (n : Nat) (noun : String) : counted n noun.toList =
      Text.ofNat n ++ (if n = 1 then " " ++ noun else " " ++ noun ++ "s").toList := by
    unfold counted
    split <;> simp
  rw [status, hnumber, hnumber]
  split <;> split <;> simp

theorem errors_pos_iff (ds : List Diagnostic) :
    0 < (ofList ds).errors ↔ ∃ d ∈ ds, d.severity = .error := by
  simp [ofList, List.countP_pos_iff, Diagnostic.isError]

end Summary

theorem Diagnostic.IsWellFormed.isSuppressed_eq_false {output : Text} {ignore : IgnoreSet}
    {d : Diagnostic} (h : d.IsWellFormed output ignore) : d.isSuppressed = false := by
  rcases h.severity with hseverity | hseverity <;> simp [isSuppressed, hseverity]

namespace Report

variable {output file : Text} {ignore : IgnoreSet} {d : Diagnostic}

/-- A code holds digits only. -/
theorem not_mem_code (hd : d.IsWellFormed output ignore) {c : Char}
    (h : Text.isDecimalDigit c = false) : c ∉ d.code := by
  intro hmem
  rcases hd.severity with herror | hwarning
  · rw [hd.code_of_error herror] at hmem
    cases hmem
  · rw [(hd.code_of_warning hwarning).2.1 c hmem] at h
    cases h

/-! ### The parts of a line -/

/-- What stands before the first of a character, and what stands after it. -/
def cutAt (c : Char) (text : Text) : Text × Text :=
  (text.takeWhile (· != c), (text.dropWhile (· != c)).drop 1)

theorem cutAt_append {c : Char} {a : Text} (h : c ∉ a) (b : Text) :
    cutAt c (a ++ c :: b) = (a, b) := by
  have ha : ∀ d ∈ a, (d != c) = true := fun d hd => bne_iff_ne.mpr fun heq => h (heq ▸ hd)
  have hb : ∀ d ∈ (c :: b).head?, (d != c) = false := by simp
  rw [cutAt, Text.takeWhile_append_of_head ha hb, Text.dropWhile_append_of_head ha hb]
  rfl

theorem cutAt_of_not_mem {c : Char} {a : Text} (h : c ∉ a) : cutAt c a = (a, []) := by
  have ha : ∀ d ∈ a, (d != c) = true := fun d hd => bne_iff_ne.mpr fun heq => h (heq ▸ hd)
  rw [cutAt, List.takeWhile_eq_self_iff.mpr ha, List.dropWhile_eq_nil_iff.mpr ha]
  rfl

/-- The parts of a line with a file name: line, column, severity, code and text. In a coloured line
an escape character begins the sequences that end the location and the label. -/
def cells (file : Text) (color : Bool) (line : Text) : List Text :=
  if color then
    let (number, rest) := cutAt ':' (line.drop (4 + file.length + 1))
    let (column, rest) := cutAt '\x1b' rest
    let (label, rest) := cutAt '\x1b' (cutAt 'm' (rest.drop 5)).2
    parts number column label (rest.drop 5)
  else
    let (number, rest) := cutAt ':' (line.drop (file.length + 1))
    let (column, rest) := cutAt ':' rest
    let (label, rest) := cutAt ':' (rest.drop 1)
    parts number column label (rest.drop 1)
where
  parts (number column label text : Text) : List Text :=
    let (severity, code) := cutAt '[' label
    [number, column, severity, code.dropLast, text]

/-- Severity and code are read off a label. -/
theorem cutAt_label (hd : d.IsWellFormed output ignore) :
    (cutAt '[' (label d)).1 = d.severity.name ∧ (cutAt '[' (label d)).2.dropLast = d.code := by
  rcases hd.severity with herror | hwarning
  · rw [label_of_error herror, cutAt_of_not_mem (by decide), herror, hd.code_of_error herror]
    exact ⟨rfl, rfl⟩
  · rw [label_of_warning hwarning (hd.code_of_warning hwarning).1, List.append_assoc,
      List.cons_append, cutAt_append (by decide), hwarning]
    exact ⟨rfl, List.dropLast_concat⟩

/-- A coloured line, cut where its parts begin and end. -/
theorem line_coloured (file : Text) (d : Diagnostic) :
    line file true d = "\x1b[4m".toList ++ file ++ ':' :: (Text.ofNat d.line ++ ':' ::
      (Text.ofNat (d.column + 1) ++ '\x1b' :: ("[0m: ".toList ++ ('\x1b' :: '[' ::
        (Style.ofSeverity d.severity).parameters ++ 'm' :: (label d ++ '\x1b' ::
          ("[0m: ".toList ++ d.text)))))) := by
  simp [line, location, Style.paint, Style.sequence, Style.underlined]

/-- **The parts of a diagnostic are read off its line.** -/
theorem cells_line (hd : d.IsWellFormed output ignore) (file : Text) (color : Bool) :
    cells file color (line file color d) =
      [Text.ofNat d.line, Text.ofNat (d.column + 1), d.severity.name, d.code, d.text] := by
  have hdigits (n : Nat) {c : Char} (hc : c.isDigit = false) : c ∉ Text.ofNat n :=
    Text.not_mem_ofNat hc
  obtain ⟨hseverity, hcode⟩ := cutAt_label hd
  cases color with
  | false =>
    have hlabel : ':' ∉ label d := not_mem_label hd (by decide) (by decide)
    have hdrop (rest : Text) : (file ++ ':' :: rest).drop (file.length + 1) = rest := by simp
    simp only [cells, cells.parts, Bool.false_eq_true, if_false, line_plain, hdrop,
      cutAt_append (hdigits _ (c := ':') rfl), List.cons_append, List.drop_one, List.tail_cons,
      cutAt_append hlabel, hseverity, hcode]
  | true =>
    have hlabel : '\x1b' ∉ label d := not_mem_label hd (by decide) (by decide)
    have hdrop (rest : Text) :
        ("\x1b[4m".toList ++ file ++ ':' :: rest).drop (4 + file.length + 1) = rest := by
      rw [List.append_assoc, Nat.add_assoc, ← List.drop_drop]
      show (file ++ ':' :: rest).drop (file.length + 1) = rest
      simp
    have hreset (rest : Text) : ("[0m: ".toList ++ rest).drop 5 = rest := rfl
    have hparameters : 'm' ∉ '\x1b' :: '[' :: (Style.ofSeverity d.severity).parameters := by
      cases d.severity <;> decide
    simp only [cells, cells.parts, if_true, line_coloured, hdrop, hreset,
      cutAt_append (hdigits _ (c := ':') rfl), cutAt_append (hdigits _ (c := '\x1b') rfl),
      cutAt_append hparameters, cutAt_append hlabel, hseverity, hcode]

/-- The file name stands in a line as it is. -/
theorem exists_line_eq (color : Bool) (d : Diagnostic) :
    ∃ before after, ∀ file, line file color d = before ++ file ++ after := by
  have hlocation (file : Text) : location file d = file ++ location [] d := by simp [location]
  cases color with
  | false =>
    refine ⟨[], location [] d ++ ": ".toList ++ label d ++ ": ".toList ++ d.text, fun file => ?_⟩
    simp [line, hlocation file]
  | true =>
    refine ⟨Style.sequence Style.underlined.parameters, location [] d ++ Style.sequence ['0'] ++
      ": ".toList ++ (Style.ofSeverity d.severity).paint (label d) ++ ": ".toList ++ d.text,
      fun file => ?_⟩
    simp [line, Style.paint, hlocation file]

/-- A line has as many line feeds as the file name. -/
theorem length_lines_line (hd : d.IsWellFormed output ignore) (file : Text) (color : Bool) :
    (Text.lines (line file color d)).length = file.countP (· == '\n') + 1 := by
  obtain ⟨before, after, hline⟩ := exists_line_eq color d
  have hnone : '\n' ∉ before ++ [] ++ after := by
    rw [← hline]
    exact newline_not_mem_line List.not_mem_nil hd color
  rw [List.append_nil, List.mem_append, not_or] at hnone
  have hcount {text : Text} (h : '\n' ∉ text) : text.countP (· == '\n') = 0 := by
    rw [List.countP_eq_zero]
    intro c hc heq
    exact h (beq_iff_eq.mp heq ▸ hc)
  rw [Text.lines, Text.length_pieces, hline, List.countP_append, List.countP_append,
    hcount hnone.1, hcount hnone.2]
  omega

/-- The row of a diagnostic in the table. Each of its cells is one line. -/
theorem tableRow_eq (hd : d.IsWellFormed output ignore) :
    tableRow d = [[Text.ofNat d.line], [Text.ofNat (d.column + 1)], [d.severity.name], [d.code],
      [d.text]] := by
  have hcode : Text.lines d.code = [d.code] :=
    Text.lines_of_not_mem (not_mem_code hd (by decide))
  have htext : Text.lines d.text = [d.text] := Text.lines_of_not_mem hd.newline_not_mem
  rw [tableRow, hcode, htext]

/-- What is shown of a diagnostic in its row. -/
theorem shownRow_tableRow (hd : d.IsWellFormed output ignore) :
    Table.shownRow (tableRow d) = [[Text.ofNat d.line], [Text.ofNat (d.column + 1)],
      [d.severity.name], [d.code], [Table.dropBlanks d.text]] := by
  have hnumber (n : Nat) : Table.dropBlanks (Text.ofNat n) = Text.ofNat n :=
    Table.dropBlanks_of_not_mem (Text.not_mem_ofNat rfl)
  have hname : Table.dropBlanks d.severity.name = d.severity.name := by
    cases d.severity <;> rfl
  have hdigits : Table.dropBlanks d.code = d.code :=
    Table.dropBlanks_of_not_mem (not_mem_code hd (by decide))
  simp [Table.shownRow, Table.shownCell, Table.rowHeight, tableRow_eq hd, hnumber, hname, hdigits]

/-! ### Agreement -/

/-- The counts and the reports of diagnostics agree. -/
structure Agree (ds : List Diagnostic) : Prop where
  /-- Every diagnostic is counted, as what it is. -/
  total_eq : (Summary.ofList ds).total = ds.length
  errors_eq : (Summary.ofList ds).errors = ds.countP (·.severity = .error)
  warnings_eq : (Summary.ofList ds).warnings = ds.countP (·.severity = .warning)
  /-- The status line shows the counts. -/
  status_eq :
    let errors := (Summary.ofList ds).errors
    let warnings := (Summary.ofList ds).warnings
    (Summary.ofList ds).status =
      Text.ofNat errors ++ (if errors = 1 then " error, " else " errors, ").toList ++
        Text.ofNat warnings ++ (if warnings = 1 then " warning" else " warnings").toList
  /-- The text report has the line of each diagnostic and the status line. A file name with line
  feeds has the lines of each begin that many lines lower. -/
  lines_text_eq : ∀ file color,
    Text.lines (text file color ds) =
        ds.flatMap (fun d => Text.lines (line file color d)) ++ [(Summary.ofList ds).status, []] ∧
      ∀ d ∈ ds, (Text.lines (line file color d)).length = file.countP (· == '\n') + 1
  /-- What the line of a diagnostic shows, plain or coloured. -/
  cells_eq : ∀ file color, (ds.map (line file color)).map (cells file color) = ds.map fun d =>
    [Text.ofNat d.line, Text.ofNat (d.column + 1), d.severity.name, d.code, d.text]
  /-- The JSON report has a value for each diagnostic, with the column counted from zero, and the same
  counts. -/
  read?_json_eq : Json.read? (json ds) = some (.object [
    ("diagnostics".toList, .array (ds.map fun d => .object [
      ("line".toList, .number d.line), ("column".toList, .number d.column),
      ("severity".toList, .string d.severity.name), ("text".toList, .string d.text),
      ("code".toList, .string d.code)])),
    ("summary".toList, .object [("errors".toList, .number (Summary.ofList ds).errors),
      ("warnings".toList, .number (Summary.ofList ds).warnings)])])
  /-- The table has a row for each diagnostic, and the same status line below. -/
  read_table_eq : ∃ drawn,
    Text.lines (table Table.unwrapped ds) = drawn ++ [(Summary.ofList ds).status, []] ∧
      Table.read drawn = tableHeader :: ds.map fun d => [[Text.ofNat d.line],
        [Text.ofNat (d.column + 1)], [d.severity.name], [d.code], [Table.dropBlanks d.text]]
  /-- So it has where lines are broken to fit a terminal, and blanks may be lost with that. -/
  table_shows : ∀ arrange : Table.Arranger,
    let rows : List (List Cell) := ds.map fun d => [[Text.ofNat d.line],
      [Text.ofNat (d.column + 1)], [d.severity.name], [d.code], [d.text]]
    let a := arrange tableHeader rows
    a.Keeps tableHeader rows →
      ∃ drawn, Text.lines (table arrange ds) = drawn ++ [(Summary.ofList ds).status, []] ∧
        List.Forall₂ (Table.Shows a.widths) (tableHeader :: rows) (Table.filledRows drawn.tail) ∧
        ((∀ row ∈ a.header :: a.rows, Table.Fits a.widths row) →
          List.Forall₂ (List.Forall₂ Table.SameInk) (tableHeader :: rows) (Table.read drawn))

theorem agree_of_wellFormed {ds : List Diagnostic} (h : ∀ d ∈ ds, d.IsWellFormed output ignore) :
    Agree ds where
  total_eq := Summary.total_eq_length fun d hd => (h d hd).isSuppressed_eq_false
  errors_eq := rfl
  warnings_eq := rfl
  status_eq := Summary.status_eq _
  lines_text_eq := fun file color => by
    refine ⟨?_, fun d hd => length_lines_line (h d hd) file color⟩
    have hstatus : Text.lines (Summary.ofList ds).status = [(Summary.ofList ds).status] :=
      Text.lines_of_not_mem (newline_not_mem_status _)
    have hlines := Text.lines_unlines (ds.map (line file color) ++ [(Summary.ofList ds).status]) []
    rw [List.append_nil, List.flatMap_append, List.flatMap_map, List.flatMap_singleton, hstatus]
      at hlines
    rw [text, hlines, List.append_assoc]
    rfl
  cells_eq := fun file color => by
    rw [List.map_map]
    exact List.map_congr_left fun d hd => cells_line (h d hd) file color
  read?_json_eq := Json.read?_write (document ds)
  read_table_eq := by
    refine ⟨_, lines_table rfl (newline_not_mem_rows ds), ?_⟩
    rw [read_draw_tableRow]
    congr 1
    exact List.map_congr_left fun d hd => shownRow_tableRow (h d hd)
  table_shows := fun arrange => by
    have hrows := List.map_congr_left fun d hd => tableRow_eq (h d hd)
    rw [← hrows]
    exact table_shows

/-! ### The exit code -/

theorem exitCode_reportOutput_eq_one_iff (arrange : Table.Arranger) (i : Invocation)
    (ignore : IgnoreSet) (bytes : List UInt8) :
    (reportOutput arrange i ignore bytes).exitCode = 1 ↔
      0 < (Summary.ofList (extract (Utf8.decodeLossy bytes) ignore)).errors := by
  rw [exitCode_reportOutput, Summary.errors_pos_iff]
  split <;> simp_all

/-- Only a run that reports ends with code 1. -/
theorem exists_reports_of_exitCode_eq_one {host : Host Id} {i : Invocation}
    (h : (run host i).exitCode = 1) : ∃ s bytes, i.Reports host s bytes := by
  cases hversion : i.version with
  | true =>
    have hrun : run host i = ⟨0, versionText, [], none⟩ := by
      simp only [run, hversion]
      rfl
    rw [hrun] at h
    cases h
  | false =>
    have hends := ends_run host hversion
    have hcode : (run host i).exitCode ≠ 2 := by rw [h]; decide
    cases hcommand : i.printCommand with
    | none =>
      obtain ⟨s, bytes, hreports, -⟩ := hends.exists_reports hcode hcommand
      exact ⟨s, bytes, hreports⟩
    | some source =>
      rw [hends.exitCode_eq_zero hcode hcommand] at h
      cases h

/-- **Counts, reports and exit code agree.** The counts and the three reports of what is extracted
agree, whatever is muted. A run that reports writes one of them, and ends with code 1 exactly if it
counts an error; no other run does. Counts add up over lists of diagnostics, and suppressed
diagnostics have no part in them. -/
theorem reports_agree :
    (∀ output ignore, Agree (extract output ignore)) ∧
    (∀ (host : Host Id) (i : Invocation) (s : Settings) (bytes : List UInt8),
      i.Reports host s bytes →
        let ds := extract (Utf8.decodeLossy bytes) (s.addAll i.ignore i.options).ignoreSet
        i.Renders host ds (run host i).output ∧
          ((run host i).exitCode = 1 ↔ 0 < (Summary.ofList ds).errors)) ∧
    (∀ (host : Host Id) (i : Invocation), (run host i).exitCode = 1 →
      ∃ s bytes, i.Reports host s bytes) ∧
    (∀ a b : List Diagnostic,
      (Summary.ofList (a ++ b)).errors = (Summary.ofList a).errors + (Summary.ofList b).errors ∧
      (Summary.ofList (a ++ b)).warnings =
        (Summary.ofList a).warnings + (Summary.ofList b).warnings) ∧
    ∀ ds : List Diagnostic, Summary.ofList (ds.filter (!·.isSuppressed)) = Summary.ofList ds := by
  refine ⟨fun _ _ => agree_of_wellFormed fun _ => wellFormed_of_mem_extract,
    fun host i s bytes h => ?_, fun _ _ => exists_reports_of_exitCode_eq_one, fun a b => ?_,
    Summary.ofList_filter_not_suppressed⟩
  · refine ⟨h.renders_output, ?_⟩
    obtain ⟨noted, hrun⟩ := h.run_eq
    rw [hrun]
    exact exitCode_reportOutput_eq_one_iff host.arranger i _ bytes
  · rw [Summary.ofList_append]
    exact ⟨rfl, rfl⟩

/-- A warning that is muted on the command line, another one, and an error with blanks at the end of
its text, reported as a table: on a machine without a terminal, and on one with a terminal of 43 columns,
on which the text of the warning is broken at its blank. -/
theorem reports_agree_two_tables :
    let input := Utf8.encode
      "2 57 Warning: b\n\n^\n2 58 Warning: b\n\n^\n3 9 c  \n\n ^\n".toList
    let narrow : Table.Arranger := fun header rows => ⟨header,
      rows.map fun row => row.map fun cell => cell.flatMap fun line =>
        if line.length ≤ 8 then [line] else Text.pieces (· == ' ') line, [4, 3, 8, 4, 8]⟩
    let host := Host.ofTree (.folder []) [] [] input
    let terminal : Host Id := { host with arranger := narrow }
    let i := { Invocation.default with ignore := ["58".toList], format := .table }
    let ds := [⟨2, 0, .warning, "Warning: b".toList, "57".toList⟩, ⟨3, 1, .error, "c  ".toList, []⟩]
    let rows : List (List Cell) :=
      [[["2".toList], ["1".toList], ["warning".toList], ["57".toList], ["Warning: b".toList]],
        [["3".toList], ["2".toList], ["error".toList], [[]], ["c  ".toList]]]
    extract (Utf8.decodeLossy input) (.ofList i.ignore) = ds ∧ (Summary.ofList ds).total = 2 ∧
      (Summary.ofList ds).status = "1 error, 1 warning".toList ∧
      (run host i).output = Report.table Table.unwrapped ds ∧ (run host i).exitCode = 1 ∧
      (∃ s bytes, i.Reports host s bytes) ∧
      (run terminal i).output = Report.table narrow ds ∧ (run terminal i).exitCode = 1 ∧
      (narrow tableHeader rows).Keeps tableHeader rows ∧
      ∃ drawn, Text.lines (Report.table narrow ds) = drawn ++ ["1 error, 1 warning".toList, []] ∧
        List.Forall₂ (List.Forall₂ Table.SameInk) (tableHeader :: rows) (Table.read drawn) := by
  intro input narrow host terminal i ds rows
  have hds : extract (Utf8.decodeLossy input) (.ofList i.ignore) = ds := by decide +kernel
  have hsettings : ((Settings.default.addAll i.ignore i.options).ignoreSet) = .ofList i.ignore :=
    rfl
  obtain ⟨hagree, hrun, honly, -⟩ := reports_agree
  have hagree := hagree (Utf8.decodeLossy input) (.ofList i.ignore)
  rw [hds] at hagree
  have hstatus : (Summary.ofList ds).status = "1 error, 1 warning".toList := by
    rw [hagree.status_eq]
    decide
  obtain ⟨hhost, hcode⟩ := hrun host i .default input ⟨rfl, rfl, rfl, rfl⟩
  obtain ⟨hterminal, hcode'⟩ := hrun terminal i .default input ⟨rfl, rfl, rfl, rfl⟩
  rw [hsettings, hds] at hhost hcode hterminal hcode'
  have hone : (run host i).exitCode = 1 := hcode.mpr (by decide)
  have hkeeps : (narrow tableHeader rows).Keeps tableHeader rows :=
    ⟨rfl, by decide, by decide⟩
  have hfits : ∀ row ∈ (narrow tableHeader rows).header :: (narrow tableHeader rows).rows,
      Table.Fits (narrow tableHeader rows).widths row := by
    unfold Table.Fits
    decide
  obtain ⟨drawn, hlines, -, hread⟩ := hagree.table_shows narrow hkeeps
  rw [hstatus] at hlines
  exact ⟨hds, hagree.total_eq, hstatus, Invocation.renders_iff.mp hhost, hone, honly host i hone,
    Invocation.renders_iff.mp hterminal, hcode'.mpr (by decide), hkeeps, drawn, hlines,
    hread hfits⟩

end Report

end PascalLint
