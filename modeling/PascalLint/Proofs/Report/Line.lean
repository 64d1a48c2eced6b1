import PascalLint.Proofs.Extraction.WellFormed
import PascalLint.Proofs.Text.Numeral
import PascalLint.Report.Line

/-! The text report loses nothing.

Nothing is escaped in the report, and a file name or a message may hold colons and brackets. It can
be told apart all the same: the file name is known, the two numbers hold digits only, and so does the
code of a warning, so that the colons that end them are the first ones to come (`line_inj`). No part
of a line holds a line feed (`newline_not_mem_line`), so the report falls into lines in one way only,
one for each diagnostic and one for the status (`text_report_loses_nothing`). -/
namespace PascalLint.Report

variable {output output' file : Text} {ignore ignore' : IgnoreSet} {d e : Diagnostic} {c : Char}

/-! ### Labels -/

theorem label_of_error (h : d.severity = .error) : label d = "error".toList := by
  unfold label Diagnostic.isWarning
  rw [h]
  rfl

theorem label_of_warning (h : d.severity = .warning) (hcode : d.code ≠ []) :
    label d = "warning".toList ++ '[' :: d.code ++ [']'] := by
  have hempty : d.code.isEmpty = false := by simpa using hcode
  unfold label Diagnostic.isWarning
  rw [h, hempty]
  rfl

/-- But for the names of the severities and the brackets, a label holds digits only. -/
theorem mem_label (hd : d.IsWellFormed output ignore) (h : c ∈ label d) :
    c ∈ "error warning[]".toList ∨ Text.isDecimalDigit c = true := by
  rcases hd.severity with herror | hwarning
  · rw [label_of_error herror] at h
    exact .inl ((by decide : "error".toList ⊆ "error warning[]".toList) h)
  · obtain ⟨hne, hdigits, -⟩ := hd.code_of_warning hwarning
    rw [label_of_warning hwarning hne, List.append_assoc, List.cons_append, List.mem_append,
      List.mem_cons, List.mem_append, List.mem_singleton] at h
    rcases h with h | rfl | h | rfl
    · exact .inl ((by decide : "warning".toList ⊆ "error warning[]".toList) h)
    · exact .inl (by decide)
    · exact .inr (hdigits c h)
    · exact .inl (by decide)

theorem not_mem_label (hd : d.IsWellFormed output ignore) (hname : c ∉ "error warning[]".toList)
    (hdigit : Text.isDecimalDigit c = false) : c ∉ label d := by
  intro h
  rcases mem_label hd h with h | h
  · exact hname h
  · rw [hdigit] at h
    cases h

/-- Severity and code can be told from a label. -/
theorem label_inj (hd : d.IsWellFormed output ignore) (he : e.IsWellFormed output' ignore')
    (h : label d = label e) : d.severity = e.severity ∧ d.code = e.code := by
  have hfirst (code : Text) : "error".toList ≠ "warning".toList ++ '[' :: code ++ [']'] := by
    intro heq
    have hhead : some 'e' = some 'w' := congrArg List.head? heq
    exact absurd hhead (by decide)
  rcases hd.severity with hdsev | hdsev <;> rcases he.severity with hesev | hesev
  · rw [hdsev, hesev, hd.code_of_error hdsev, he.code_of_error hesev]
    exact ⟨rfl, rfl⟩
  · rw [label_of_error hdsev, label_of_warning hesev (he.code_of_warning hesev).1] at h
    exact absurd h (hfirst _)
  · rw [label_of_warning hdsev (hd.code_of_warning hdsev).1, label_of_error hesev] at h
    exact absurd h.symm (hfirst _)
  · rw [label_of_warning hdsev (hd.code_of_warning hdsev).1,
      label_of_warning hesev (he.code_of_warning hesev).1] at h
    have hcode : d.code = e.code := by simpa using h
    exact ⟨hdsev.trans hesev.symm, hcode⟩

/-! ### Lines -/

/-- A plain line, cut at the colons that separate its parts. -/
theorem line_plain (file : Text) (d : Diagnostic) :
    line file false d = file ++ ':' :: (Text.ofNat d.line ++ ':' ::
      (Text.ofNat (d.column + 1) ++ ':' :: (' ' :: label d ++ ':' :: ' ' :: d.text))) := by
  simp [line, location]

/-- A diagnostic can be told from its line. -/
theorem line_inj (hd : d.IsWellFormed output ignore) (he : e.IsWellFormed output' ignore')
    (h : line file false d = line file false e) : d = e := by
  have hcolon (n : Nat) : ':' ∉ Text.ofNat n := Text.not_mem_ofNat rfl
  have hlabel : ':' ∉ ' ' :: label d := by simpa using not_mem_label hd (by decide) (by decide)
  have hlabel' : ':' ∉ ' ' :: label e := by simpa using not_mem_label he (by decide) (by decide)
  rw [line_plain, line_plain, List.append_cancel_left_eq, List.cons.injEq] at h
  obtain ⟨hline, h⟩ := Text.append_stop_inj (hcolon _) (hcolon _) h.2
  obtain ⟨hcolumn, h⟩ := Text.append_stop_inj (hcolon _) (hcolon _) h
  obtain ⟨hname, htext⟩ := Text.append_stop_inj hlabel hlabel' h
  obtain ⟨hseverity, hcode⟩ := label_inj hd he (List.cons.inj hname).2
  have hline : d.line = e.line := Text.ofNat_inj hline
  have hcolumn : d.column = e.column := Nat.succ.inj (Text.ofNat_inj hcolumn)
  have htext : d.text = e.text := (List.cons.inj htext).2
  cases d
  cases e
  simp_all

theorem newline_not_mem_location (hfile : '\n' ∉ file) (d : Diagnostic) :
    '\n' ∉ location file d := by
  have hnumber (n : Nat) : '\n' ∉ Text.ofNat n := Text.not_mem_ofNat rfl
  simp [location, hfile, hnumber]

/-- Drawing a text puts no line feed into it. -/
theorem Style.newline_not_mem_paint {text : Text} (h : '\n' ∉ text) (severity : Severity) :
    '\n' ∉ underlined.paint text ∧ '\n' ∉ (ofSeverity severity).paint text := by
  constructor
  · simp [paint, sequence, underlined, h]
  · cases severity <;> simp [paint, sequence, ofSeverity, boldRed, boldYellow, grey, h]

theorem newline_not_mem_line (hfile : '\n' ∉ file) (hd : d.IsWellFormed output ignore)
    (color : Bool) : '\n' ∉ line file color d := by
  have hlocation := newline_not_mem_location hfile d
  have hlabel : '\n' ∉ label d := not_mem_label hd (by decide) (by decide)
  have hpaintLocation := (Style.newline_not_mem_paint hlocation .error).1
  have hpaintLabel := (Style.newline_not_mem_paint hlabel d.severity).2
  cases color with
  | false => simp [line, hlocation, hlabel, hd.newline_not_mem]
  | true => simp [line, hpaintLocation, hpaintLabel, hd.newline_not_mem]

theorem newline_not_mem_status (s : Summary) : '\n' ∉ s.status := by
  have hnumber (n : Nat) : '\n' ∉ Text.ofNat n := Text.not_mem_ofNat rfl
  have hcounted (n : Nat) {noun : Text} (hnoun : '\n' ∉ noun) : '\n' ∉ Summary.counted n noun := by
    unfold Summary.counted
    split <;> simp [hnumber, hnoun]
  simp [Summary.status, hcounted]

/-! ### The report -/

/-- Cut at its line feeds, the report gives the line of each diagnostic and the status, and nothing
after the last line feed. -/
theorem lines_text (hfile : '\n' ∉ file) (color : Bool) {ds : List Diagnostic}
    (hds : ∀ d ∈ ds, d.IsWellFormed output ignore) :
    Text.lines (text file color ds) =
      ds.map (line file color) ++ [(Summary.ofList ds).status] ++ [[]] := by
  have hlines : ∀ l ∈ ds.map (line file color) ++ [(Summary.ofList ds).status], '\n' ∉ l := by
    intro l hl
    rcases List.mem_append.mp hl with hl | hl
    · obtain ⟨d, hd, rfl⟩ := List.mem_map.mp hl
      exact newline_not_mem_line hfile (hds d hd) color
    · obtain rfl := List.mem_singleton.mp hl
      exact newline_not_mem_status _
  have hcut := Text.lines_unlines_append hlines []
  rwa [List.append_nil] at hcut

theorem eq_of_map_line_eq {ds es : List Diagnostic} (hds : ∀ d ∈ ds, d.IsWellFormed output ignore)
    (hes : ∀ e ∈ es, e.IsWellFormed output' ignore')
    (h : ds.map (line file false) = es.map (line file false)) : ds = es := by
  induction ds generalizing es with
  | nil => exact (List.map_eq_nil_iff.mp h.symm).symm
  | cons d ds ih =>
    cases es with
    | nil => cases h
    | cons e es =>
      rw [List.forall_mem_cons] at hds hes
      obtain ⟨hline, hrest⟩ := List.cons.inj h
      rw [line_inj hds.1 hes.1 hline, ih hds.2 hes.2 hrest]

theorem text_inj (hfile : '\n' ∉ file) {ds es : List Diagnostic}
    (hds : ∀ d ∈ ds, d.IsWellFormed output ignore)
    (hes : ∀ e ∈ es, e.IsWellFormed output' ignore')
    (h : text file false ds = text file false es) : ds = es := by
  have hlines := congrArg Text.lines h
  rw [lines_text hfile false hds, lines_text hfile false hes, List.append_cancel_right_eq] at hlines
  exact eq_of_map_line_eq hds hes (List.append_inj_left' hlines rfl)

/-- **The text report loses nothing**: whatever output they come from, two lists of diagnostics with
the same plain report are the same. Plain or coloured, a report consists of the line of each
diagnostic and the status line, each ended by the only line feed that there is. -/
theorem text_report_loses_nothing (hfile : '\n' ∉ file) :
    (∀ output ignore output' ignore',
      text file false (extract output ignore) = text file false (extract output' ignore') →
        extract output ignore = extract output' ignore') ∧
    ∀ output ignore color,
      let ds := extract output ignore
      let written := ds.map (line file color) ++ [(Summary.ofList ds).status]
      written.length = ds.length + 1 ∧ text file color ds = Text.unlines written ∧
        Text.lines (text file color ds) = written ++ [[]] := by
  have hwell (output ignore) : ∀ d ∈ extract output ignore, d.IsWellFormed output ignore :=
    fun _ => wellFormed_of_mem_extract
  constructor
  · intro output ignore output' ignore' h
    exact text_inj hfile (hwell output ignore) (hwell output' ignore') h
  · intro output ignore color
    refine ⟨?_, rfl, lines_text hfile color (hwell output ignore)⟩
    rw [List.length_append, List.length_map]
    rfl

/-- A file name that looks like a location, and two outputs with different line ends, of which the
second has one more warning, which is muted. -/
theorem text_report_loses_nothing_colons :
    let file := "C:1:2: error: a".toList
    let output := "3 57 Warning: b: 4\n\n ^\n5 9 c\nx\n ^\n".toList
    let output' := ("3 57 Warning: b: 4\r\n\r\n ^\r\n4 8 Warning: d\r\n\r\n^\r\n" ++
      "5 9 c\r\nx\r\n ^\r\n").toList
    let ignore' := IgnoreSet.ofList ["8".toList]
    '\n' ∉ file ∧
      text file false (extract output .empty) = text file false (extract output' ignore') ∧
      extract output .empty = extract output' ignore' ∧
      Text.lines (text file true (extract output .empty)) =
        (extract output .empty).map (line file true) ++ ["1 error, 1 warning".toList, []] := by
  refine ⟨?hfile, ?hsame, (text_report_loses_nothing ?hfile).1 _ _ _ _ ?hsame, ?_⟩
  case hfile => decide
  case hsame => decide +kernel
  exact ((text_report_loses_nothing (by decide)).2 _ _ true).2.2.trans (by decide +kernel)

end PascalLint.Report
