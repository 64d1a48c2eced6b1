import PascalLint.Proofs.Report.Table

/-! The lines of a table are aligned.

If every line of a cell fits its column, every line of the drawn table takes as many terminal columns as
the top edge (`Arrangement.IsFitting.width_of_mem_draw`), though cells hold characters of any width, and
bars too. A line of a row stands in the columns that the edge shows (`inColumns_drawLine`): a bar comes
before each and after the last, and a blank after the bar. Without a limit to the width of the table every
line fits. So whatever the diagnostics, their table is a rectangle then, and cut at the columns of its edge
it gives their cells (`table_keeps_cells`). -/
namespace PascalLint.Report.Table

/-! ### Lines in columns -/

section Columns
variable {widths : List Nat} {line : Text} {lines : List Text}

/-- A line in columns of some widths: a bar stands before every column and after the last, and what
stands in a column begins with a blank. -/
inductive InColumns : List Nat → Text → Prop where
  | last : InColumns [] ['|']
  | column {piece rest : Text} {widths : List Nat} : InColumns widths rest →
      InColumns (Text.width (' ' :: piece) :: widths) ('|' :: (' ' :: piece ++ rest))

/-- The width of a line in columns: that of the columns and of the bars. -/
def lineWidth : List Nat → Nat
  | [] => 1
  | width :: widths => width + 1 + lineWidth widths

theorem InColumns.width_eq (h : InColumns widths line) : Text.width line = lineWidth widths := by
  have hbar : Text.charWidth '|' = 1 := by decide
  induction h with
  | last => exact hbar
  | column _ ih =>
    rw [Text.width_cons, Text.width_append, hbar, ih, lineWidth]
    omega

/-- **A line of a row stands in the columns.** -/
theorem inColumns_drawLine (hne : widths ≠ [])
    (h : List.Forall₂ (fun width line => Text.width line ≤ width) widths lines) :
    InColumns (widths.map (· + 2)) (drawLine widths lines) := by
  induction h with
  | nil => exact absurd rfl hne
  | cons hwidth hmore ih =>
    rw [List.map_cons, ← width_piece hwidth]
    cases hmore with
    | nil =>
      rw [drawLine_singleton]
      exact .column .last
    | cons =>
      rw [drawLine_cons_cons]
      exact .column (ih (List.cons_ne_nil _ _))

/-- The strokes of a rule with its crossings; the two ends are still missing. -/
theorem width_strokes {line cross : Char} (hne : widths ≠ []) (hline : Text.charWidth line = 1)
    (hcross : Text.charWidth cross = 1) :
    Text.width (Text.join [cross] (widths.map fun width => List.replicate (width + 2) line)) + 2 =
      lineWidth (widths.map (· + 2)) := by
  induction widths with
  | nil => exact absurd rfl hne
  | cons width more ih =>
    cases more with
    | nil => simp [Text.join, lineWidth, Text.width_replicate hline]
    | cons next more =>
      have hmore := ih (List.cons_ne_nil _ _)
      simp only [List.map_cons] at hmore
      simp only [List.map_cons, Text.join_cons_cons, Text.width_append, Text.width_cons,
        Text.width_nil, Text.width_replicate hline, hcross]
      rw [lineWidth, ← hmore]
      omega

/-- A rule is as wide as a line in the columns. -/
theorem width_rule {left line cross right : Char} (hne : widths ≠ [])
    (h : ∀ c ∈ [left, line, cross, right], Text.charWidth c = 1) :
    Text.width (rule left line cross right widths) = lineWidth (widths.map (· + 2)) := by
  simp only [List.forall_mem_cons, List.not_mem_nil, IsEmpty.forall_iff, implies_true, and_true] at h
  obtain ⟨hleft, hline, hcross, hright⟩ := h
  rw [← width_strokes hne hline hcross]
  simp only [rule, Text.width_cons, Text.width_append, Text.width_nil, hleft, hright]
  omega

end Columns

/-! ### The table -/

namespace Arrangement
variable {a : Arrangement} {line : Text}

theorem IsFitting.inColumns_of_mem_drawRow (h : a.IsFitting) {row : List Cell}
    (hrow : row ∈ a.header :: a.rows) (hline : line ∈ drawRow a.widths row) :
    InColumns (a.widths.map (· + 2)) line := by
  obtain ⟨i, -, rfl⟩ := List.mem_map.mp hline
  exact inColumns_drawLine h.widths_ne_nil ((h.fits row hrow).lines i)

/-- **Every line of a fitting table has the same width.** -/
theorem IsFitting.width_of_mem_draw (h : a.IsFitting) (hline : line ∈ a.draw) :
    Text.width line = lineWidth (a.widths.map (· + 2)) := by
  rcases mem_draw hline with rfl | rfl | rfl | ⟨row, hrow, hline⟩
  · exact width_rule h.widths_ne_nil (by decide)
  · exact width_rule h.widths_ne_nil (by decide)
  · exact width_rule h.widths_ne_nil (by decide)
  · exact (h.inColumns_of_mem_drawRow hrow hline).width_eq

/-- Every line of a fitting table that is no rule stands in its columns. -/
theorem IsFitting.inColumns_of_mem_draw (h : a.IsFitting) (hline : line ∈ a.draw)
    (hrow : isRule line = false) : InColumns (a.widths.map (· + 2)) line := by
  have hrule {left across cross right : Char} (hne : across ≠ ' ' ∧ right ≠ ' ')
      (heq : line = rule left across cross right a.widths) : False := by
    rw [heq, isRule_rule hne.1 hne.2] at hrow
    cases hrow
  rcases mem_draw hline with hedge | hunder | hbetween | ⟨row, hmem, hline⟩
  · exact (hrule (by decide) hedge).elim
  · exact (hrule (by decide) hunder).elim
  · exact (hrule (by decide) hbetween).elim
  · exact h.inColumns_of_mem_drawRow hmem hline

end Arrangement

end PascalLint.Report.Table

namespace PascalLint.Report
open Table

/-- The row of a diagnostic is as high as its code or its text. -/
theorem rowHeight_tableRow (d : Diagnostic) :
    rowHeight (tableRow d) = max (Text.lines d.code).length (Text.lines d.text).length := by
  have hcode : 0 < (Text.lines d.code).length :=
    List.length_pos_iff.mpr (Text.pieces_ne_nil _ d.code)
  simp only [rowHeight, tableRow, List.map_cons, List.map_nil, List.foldl_cons, List.foldl_nil,
    List.length_cons, List.length_nil]
  omega

/-- **The table keeps the cells of every diagnostic**, where no line has to be broken. All its lines are as wide as its top edge, and
those that are no rules stand in the columns that the edge shows. What is read in these columns is the
header and then, diagnostic by diagnostic, its line, its column counted from one, its severity, its
code and its text. A cell with several lines is spread over the lines of its row, one with fewer lines
than its row is filled up with blank ones, and no line shows the blanks at its end. -/
theorem table_keeps_cells (ds : List Diagnostic) :
    ∃ top below, Text.lines (table unwrapped ds) = top :: below ++ [(Summary.ofList ds).status, []] ∧
      (∀ line ∈ below, Text.width line = Text.width top) ∧
      (∀ line ∈ below, isRule line = false → InColumns (edgeWidths top) line) ∧
      Table.read (top :: below) = tableHeader :: ds.map fun d =>
        let height := max (Text.lines d.code).length (Text.lines d.text).length
        [[Text.ofNat d.line], [Text.ofNat (d.column + 1)], [d.severity.name], Text.lines d.code,
          Text.lines d.text].map (shownCell height) := by
  have hread := read_draw_tableRow ds
  have hfitting := isFitting_table ds
  have hlines := @lines_table unwrapped ds _ rfl (newline_not_mem_rows ds)
  generalize unwrapped tableHeader (ds.map tableRow) = a at hread hfitting hlines
  obtain ⟨below, hdraw⟩ : ∃ below, a.draw = edge a.widths :: below := ⟨_, rfl⟩
  have hmem : ∀ line ∈ below, line ∈ a.draw :=
    fun line hline => hdraw ▸ List.mem_cons_of_mem _ hline
  refine ⟨edge a.widths, below, ?_, fun line hline => ?_, fun line hline hrow => ?_, ?_⟩
  · rw [hlines, hdraw]
  · rw [hfitting.width_of_mem_draw (hmem line hline)]
    exact (hfitting.width_of_mem_draw (hdraw ▸ List.mem_cons_self)).symm
  · rw [edgeWidths_edge hfitting.widths_ne_nil]
    exact hfitting.inColumns_of_mem_draw (hmem line hline) hrow
  · rw [← hdraw, hread]
    congr 1
    apply List.map_congr_left
    intro d _
    rw [shownRow, rowHeight_tableRow]
    rfl

/-- A text of two lines, with a bar in it, a wide character, a combining mark and blanks at the end. -/
example :
    let d : Diagnostic := ⟨4, 2, .warning, "Warning: a|b\n漢e\u0301  ".toList, "57".toList⟩
    (Table.read (unwrapped tableHeader [tableRow d]).draw).drop 1 = [[["4".toList, []], ["3".toList, []],
      ["warning".toList, []], ["57".toList, []], ["Warning: a|b".toList, "漢e\u0301".toList]]] := by
  decide +kernel

end PascalLint.Report
