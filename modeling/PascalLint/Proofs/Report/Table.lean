import Mathlib.Data.List.DropRight
import Mathlib.Data.List.Forall2
import PascalLint.Proofs.Report.Line
import PascalLint.Report.TableReader

/-! A drawn table is read back.

Rows are told apart by the rules between them, which no line of a row looks like
(`Arrangement.filledRows_draw`). If every line of a cell fits the width of its column, a drawn line can
be cut at the column boundaries that the edge shows: the piece of a column is as wide as the column, and
a bar follows it (`cutLine_drawLine`). What is read then is what was drawn, but for two things that
filling up hides (`Arrangement.read_draw`): blanks at the end of a line, and that a cell had fewer lines
than its row. Without a limit to the width of the table every line fits (`isFitting_unwrapped`). -/
namespace PascalLint.Report.Table

/-! ### Widths -/

section Widths
variable {line : Text} {cell : Cell} {row : List Cell} {rows : List (List Cell)} {n : Nat}

theorem le_foldl_max {ns : List Nat} {least : Nat} (h : n ≤ least ∨ n ∈ ns) :
    n ≤ ns.foldl max least := by
  induction ns generalizing least with
  | nil => simpa using h
  | cons m ns ih =>
    apply ih
    rcases h with h | h
    · exact .inl (Nat.le_trans h (Nat.le_max_left _ _))
    · rcases List.mem_cons.mp h with rfl | h
      · exact .inl (Nat.le_max_right _ _)
      · exact .inr h

theorem width_le_cellWidth (h : line ∈ cell) : Text.width line ≤ cellWidth cell :=
  le_foldl_max (.inr (List.mem_map_of_mem h))

/-- The columns are as wide as the cells of the row. -/
def Fits (widths : List Nat) (row : List Cell) : Prop :=
  List.Forall₂ (fun width cell => cellWidth cell ≤ width) widths row

theorem fits_map_cellWidth (row : List Cell) : Fits (row.map cellWidth) row := by
  rw [Fits, List.forall₂_map_left_iff]
  exact List.forall₂_same.mpr fun cell _ => Nat.le_refl _

/-- Columns that are widened stay wide enough. -/
theorem Fits.widen {a b : List Nat} (hlength : a.length = b.length) {first other : List Cell}
    (ha : Fits a first) (hb : Fits b other) :
    Fits (columnWidths.widen a b) first ∧ Fits (columnWidths.widen a b) other := by
  induction a generalizing b first other with
  | nil =>
    obtain rfl := List.length_eq_zero_iff.mp hlength.symm
    exact ⟨ha, hb⟩
  | cons v a ih =>
    cases b with
    | nil => cases hlength
    | cons w b =>
      cases ha with
      | cons hv ha =>
        cases hb with
        | cons hw hb =>
          obtain ⟨hfirst, hother⟩ := ih (Nat.succ.inj hlength) ha hb
          exact ⟨.cons (Nat.le_trans hv (Nat.le_max_left _ _)) hfirst,
            .cons (Nat.le_trans hw (Nat.le_max_right _ _)) hother⟩

theorem length_widen {a b : List Nat} (hlength : a.length = b.length) :
    (columnWidths.widen a b).length = a.length := by
  induction a generalizing b with
  | nil => rw [columnWidths.widen, hlength]
  | cons v a ih =>
    cases b with
    | nil => cases hlength
    | cons w b => simp [columnWidths.widen, ih (Nat.succ.inj hlength)]

theorem columnWidths_singleton (row : List Cell) : columnWidths [row] = row.map cellWidth := by
  rw [columnWidths, columnWidths]
  cases row.map cellWidth <;> rfl

/-- **The columns of rows with the same number of cells fit all of them.** -/
theorem fits_columnWidths (hne : rows ≠ []) (h : ∀ row ∈ rows, row.length = n) :
    (columnWidths rows).length = n ∧ ∀ row ∈ rows, Fits (columnWidths rows) row := by
  induction rows with
  | nil => exact absurd rfl hne
  | cons first rest ih =>
    rw [List.forall_mem_cons] at h
    have hfirst : (first.map cellWidth).length = n := by rw [List.length_map, h.1]
    cases rest with
    | nil =>
      rw [columnWidths_singleton, List.forall_mem_singleton]
      exact ⟨hfirst, fits_map_cellWidth first⟩
    | cons second more =>
      obtain ⟨hlength, hfits⟩ := ih (List.cons_ne_nil _ _) h.2
      have hsame : (first.map cellWidth).length = (columnWidths (second :: more)).length := by
        rw [hfirst, hlength]
      rw [columnWidths]
      refine ⟨(length_widen hsame).trans hfirst, fun row hrow => ?_⟩
      rcases List.mem_cons.mp hrow with rfl | hrow
      · exact ((fits_map_cellWidth row).widen hsame (hfits second List.mem_cons_self)).1
      · exact ((fits_map_cellWidth first).widen hsame (hfits row hrow)).2

/-- The lines of a row next to each other fit, blank ones that fill up a cell included. -/
theorem Fits.lines {widths : List Nat} (h : Fits widths row) (i : Nat) :
    List.Forall₂ (fun width line => Text.width line ≤ width) widths (row.map (·.getD i [])) := by
  rw [List.forall₂_map_right_iff]
  refine h.imp fun width cell hcell => ?_
  rw [List.getD_eq_getElem?_getD]
  cases hline : cell[i]? with
  | none => exact Nat.zero_le _
  | some line => exact (width_le_cellWidth (List.mem_of_getElem? hline)).trans hcell

end Widths

/-! ### A line -/

section Line
variable {widths : List Nat} {lines : List Text}

/-- A line without the blanks at its end, which cannot be told from those that fill it up. -/
def dropBlanks (line : Text) : Text := line.rdropWhile (· == ' ')

theorem dropBlanks_of_not_mem {line : Text} (h : ' ' ∉ line) : dropBlanks line = line := by
  rw [dropBlanks, List.rdropWhile_eq_self_iff]
  intro hne hblank
  exact h (beq_iff_eq.mp hblank ▸ List.getLast_mem hne)

theorem width_fill {width : Nat} {line : Text} (h : Text.width line ≤ width) :
    Text.width (fill width line) = width := by
  rw [fill, Text.width_append, Text.width_replicate (by decide)]
  omega

theorem unfill_fill (width : Nat) (line : Text) :
    unfill (' ' :: (fill width line ++ [' '])) = dropBlanks line := by
  have hblank : ∀ c ∈ [' '] ++ (List.replicate (width - Text.width line) ' ').reverse,
      (c == ' ') = true := by
    intro c hc
    rw [List.reverse_replicate, List.singleton_append, ← List.replicate_succ] at hc
    rw [List.eq_of_mem_replicate hc]
    rfl
  have hreverse : (fill width line ++ [' ']).reverse =
      [' '] ++ (List.replicate (width - Text.width line) ' ').reverse ++ line.reverse := by
    simp [fill]
  show ((fill width line ++ [' ']).reverse.dropWhile (· == ' ')).reverse = _
  rw [hreverse, List.dropWhile_append_of_pos hblank]
  rfl

/-- A text is taken by its width up to a character that takes a column. -/
theorem takeWidth_append (text : Text) {rest : Text}
    (h : ∀ c ∈ rest.head?, 0 < Text.charWidth c) :
    takeWidth (Text.width text) (text ++ rest) = (text, rest) := by
  induction text with
  | nil =>
    cases rest with
    | nil => rfl
    | cons c rest => exact if_neg (Nat.not_le.mpr (h c rfl))
  | cons c text ih =>
    rw [List.cons_append, takeWidth, Text.width_cons, if_pos (Nat.le_add_right _ _),
      Nat.add_sub_cancel_left, ih]

/-- What stands between two bars of a line is as wide as its column with the blanks on either side. -/
theorem width_piece {width : Nat} {line : Text} (h : Text.width line ≤ width) :
    Text.width (' ' :: (fill width line ++ [' '])) = width + 2 := by
  have hblank : Text.charWidth ' ' = 1 := by decide
  simp only [Text.width_cons, Text.width_append, Text.width_nil, width_fill h, hblank]
  omega

theorem drawLine_singleton (width : Nat) (line : Text) :
    drawLine [width] [line] = '|' :: (' ' :: (fill width line ++ [' ']) ++ ['|']) := by
  simp [drawLine, Text.join]

theorem drawLine_cons_cons (width next : Nat) (line second : Text) (widths : List Nat)
    (lines : List Text) : drawLine (width :: next :: widths) (line :: second :: lines) =
      '|' :: (' ' :: (fill width line ++ [' ']) ++ drawLine (next :: widths) (second :: lines)) := by
  simp [drawLine, Text.join_cons_cons]

/-- The first piece of a line ends where another bar stands. -/
theorem cutLine_piece {width : Nat} {line rest : Text} (hwidth : Text.width line ≤ width)
    (hbar : rest.head? = some '|') :
    cutLine ((width :: widths).map (· + 2)) ('|' :: (' ' :: (fill width line ++ [' ']) ++ rest)) =
      dropBlanks line :: cutLine (widths.map (· + 2)) rest := by
  have hwide : ∀ c ∈ rest.head?, 0 < Text.charWidth c := by
    intro c hc
    obtain rfl : '|' = c := Option.some.inj (hbar.symm.trans hc)
    decide
  have htake := takeWidth_append (' ' :: (fill width line ++ [' '])) hwide
  rw [List.map_cons, cutLine, List.drop_one, List.tail_cons, ← width_piece hwidth, htake]
  exact congrArg (· :: cutLine (widths.map (· + 2)) rest) (unfill_fill width line)

/-- **A drawn line is cut at the column boundaries.** -/
theorem cutLine_drawLine
    (h : List.Forall₂ (fun width line => Text.width line ≤ width) widths lines) :
    cutLine (widths.map (· + 2)) (drawLine widths lines) = lines.map dropBlanks := by
  induction h with
  | nil => rfl
  | cons hwidth hmore ih =>
    cases hmore with
    | nil =>
      rw [drawLine_singleton, cutLine_piece hwidth rfl]
      rfl
    | cons =>
      rw [drawLine_cons_cons, cutLine_piece hwidth rfl, ih]
      rfl

end Line

/-! ### A row -/

section Row
variable {widths : List Nat} {row : List Cell} {cell : Cell}

/-- The number of lines of a row, which is that of its highest cell. -/
def rowHeight (row : List Cell) : Nat := (row.map List.length).foldl max 0

/-- What is shown of a cell in a row with so many lines. -/
def shownCell (height : Nat) (cell : Cell) : Cell :=
  cell.map dropBlanks ++ List.replicate (height - cell.length) []

def shownRow (row : List Cell) : List Cell := row.map (shownCell (rowHeight row))

theorem length_le_rowHeight (h : cell ∈ row) : cell.length ≤ rowHeight row :=
  le_foldl_max (.inr (List.mem_map_of_mem h))

theorem map_range_getD {height : Nat} (h : cell.length ≤ height) :
    (List.range height).map (fun i => dropBlanks (cell.getD i [])) = shownCell height cell := by
  have hnil : dropBlanks [] = [] := rfl
  apply List.ext_getElem
  · simp [shownCell, h]
  · intro i hi hi'
    rcases Nat.lt_or_ge i cell.length with hlt | hge
    · simp [shownCell, hlt]
    · simp [shownCell, hge, hnil]

theorem drawRow_ne_nil (h : ∃ cell ∈ row, cell ≠ []) : drawRow widths row ≠ [] := by
  obtain ⟨cell, hcell, hne⟩ := h
  have hheight := length_le_rowHeight hcell
  have hpos : 0 < cell.length := List.length_pos_iff.mpr hne
  intro hnil
  have hlength : (drawRow widths row).length = rowHeight row := by simp [drawRow, rowHeight]
  rw [hnil, List.length_nil] at hlength
  omega

/-- **The cells of a row are read back from its lines.** -/
theorem rowCells_drawRow (h : Fits widths row) :
    rowCells (widths.map (· + 2)) (drawRow widths row) = shownRow row := by
  have hlength : widths.length = row.length := h.length_eq
  have hcut (i : Nat) : cutLine (widths.map (· + 2)) (drawLine widths (row.map (·.getD i []))) =
      row.map fun cell => dropBlanks (cell.getD i []) := by
    rw [cutLine_drawLine (h.lines i), List.map_map]
    rfl
  apply List.ext_getElem
  · simp [rowCells, shownRow, hlength]
  · intro j hj hj'
    have hjrow : j < row.length := by simpa [shownRow] using hj'
    simp only [rowCells, drawRow, shownRow, List.getElem_map, List.getElem_range, List.map_map]
    rw [← map_range_getD (length_le_rowHeight (List.getElem_mem hjrow))]
    apply List.map_congr_left
    intro i _
    show (cutLine _ (drawLine widths (row.map (·.getD i [])))).getD j [] = _
    rw [hcut]
    simp [hjrow]

end Row

/-! ### Rules -/

section Rules
variable {widths : List Nat} {row : List Cell} {rows : List (List Cell)} {left line cross right : Char}
  {lines rest : List Text} {border : Text}

theorem isRule_rule (hline : line ≠ ' ') (hright : right ≠ ' ') :
    isRule (rule left line cross right widths) = true := by
  match widths with
  | [] => simp [rule, isRule, Text.join, hright]
  | [width] => simp [rule, isRule, Text.join, List.replicate_succ, hline]
  | width :: next :: more => simp [rule, isRule, Text.join, List.replicate_succ, hline]

theorem isRule_of_mem_drawRow {l : Text} (h : l ∈ drawRow widths row) : isRule l = false := by
  obtain ⟨i, -, rfl⟩ := List.mem_map.mp h
  rfl

/-- The rows that have lines. -/
def filledRows (lines : List Text) : List (List Text) := (rowLines lines).filter (· ≠ [])

/-- The lines before a rule are a row of their own. -/
theorem rowLines_append_rule (hlines : ∀ l ∈ lines, isRule l = false)
    (hborder : isRule border = true) :
    rowLines (lines ++ border :: rest) = lines :: rowLines rest := by
  induction lines with
  | nil => exact if_pos hborder
  | cons l lines ih =>
    rw [List.forall_mem_cons] at hlines
    rw [List.cons_append, rowLines, hlines.1, ih hlines.2]
    rfl

theorem filledRows_append_rule (hne : drawRow widths row ≠ []) (hborder : isRule border = true) :
    filledRows (drawRow widths row ++ border :: rest) = drawRow widths row :: filledRows rest := by
  rw [filledRows, rowLines_append_rule (fun l => isRule_of_mem_drawRow) hborder]
  exact List.filter_cons_of_pos (decide_eq_true hne)

/-- **Rows with rules between them and a rule at the end are told apart.** -/
theorem filledRows_drawRows (hborder : isRule border = true)
    (hne : ∀ row ∈ rows, drawRow widths row ≠ []) :
    filledRows (drawRows widths rows ++ [border]) = rows.map (drawRow widths) := by
  have hend : filledRows [] = [] := rfl
  induction rows with
  | nil =>
    have hlines : rowLines [border] = [[], []] := if_pos hborder
    show filledRows [border] = []
    rw [filledRows, hlines]
    rfl
  | cons row rest ih =>
    rw [List.forall_mem_cons] at hne
    cases rest with
    | nil => rw [drawRows, filledRows_append_rule hne.1 hborder, hend, List.map_singleton]
    | cons next more =>
      have hbetween : isRule (rowRule widths) = true := isRule_rule (by decide) (by decide)
      have hrows : drawRows widths (row :: next :: more) =
          drawRow widths row ++ rowRule widths :: drawRows widths (next :: more) := rfl
      rw [hrows, List.append_assoc, List.cons_append, filledRows_append_rule hne.1 hbetween,
        ih hne.2]
      rfl

/-- The texts between separators are the pieces. -/
theorem pieces_join {c : Char} {texts : List Text} (hne : texts ≠ [])
    (h : ∀ text ∈ texts, c ∉ text) : Text.pieces (· == c) (Text.join [c] texts) = texts := by
  have hpiece {text : Text} (hc : c ∉ text) : Text.pieces (· == c) text = [text] :=
    Text.pieces_of_forall fun d hd => beq_eq_false_iff_ne.mpr fun heq => hc (heq ▸ hd)
  induction texts with
  | nil => exact absurd rfl hne
  | cons text more ih =>
    rw [List.forall_mem_cons] at h
    cases more with
    | nil => exact hpiece h.1
    | cons next more =>
      rw [Text.join_cons_cons, List.append_assoc, List.singleton_append,
        Text.pieces_append_separator (by simp), hpiece h.1, ih (List.cons_ne_nil _ _) h.2]
      rfl

/-- **The edge shows the widths of the columns.** -/
theorem edgeWidths_edge (hne : widths ≠ []) : edgeWidths (edge widths) = widths.map (· + 2) := by
  have hdashes : ∀ text ∈ widths.map fun width => List.replicate (width + 2) '-', '+' ∉ text := by
    intro text htext hmem
    obtain ⟨width, -, rfl⟩ := List.mem_map.mp htext
    exact absurd (List.eq_of_mem_replicate hmem) (by decide)
  have hpieces := pieces_join (by simpa using hne) hdashes
  rw [edgeWidths, edge, rule, List.cons_append, Text.pieces_cons_separator rfl,
    Text.pieces_append_separator rfl, hpieces]
  simp [Text.pieces]

end Rules

/-! ### The table -/

namespace Arrangement
variable {a : Arrangement}

/-- Every row has a cell with a line, so none of them vanishes when it is drawn. -/
def IsFilled (a : Arrangement) : Prop := ∀ row ∈ a.header :: a.rows, ∃ cell ∈ row, cell ≠ []

/-- There are columns, and in every row each cell fits its own. -/
structure IsFitting (a : Arrangement) : Prop where
  widths_ne_nil : a.widths ≠ []
  fits : ∀ row ∈ a.header :: a.rows, Fits a.widths row

theorem draw_eq (a : Arrangement) : a.draw = edge a.widths :: (drawRow a.widths a.header ++
    headerRule a.widths :: (drawRows a.widths a.rows ++ [edge a.widths])) := by simp [draw]

/-- **The rows of a drawn table are told apart**, the header first and the others in their order. -/
theorem filledRows_draw (h : a.IsFilled) :
    filledRows a.draw.tail = (a.header :: a.rows).map (drawRow a.widths) := by
  have hfilled : ∀ row ∈ a.header :: a.rows, drawRow a.widths row ≠ [] :=
    fun row hrow => drawRow_ne_nil (h row hrow)
  rw [List.forall_mem_cons] at hfilled
  have hedge : isRule (edge a.widths) = true := isRule_rule (by decide) (by decide)
  have hunder : isRule (headerRule a.widths) = true := isRule_rule (by decide) (by decide)
  rw [draw_eq, List.tail_cons, filledRows_append_rule hfilled.1 hunder,
    filledRows_drawRows hedge hfilled.2, List.map_cons]

/-- **A drawn table is read back.** -/
theorem read_draw (hfilled : a.IsFilled) (hfitting : a.IsFitting) :
    read a.draw = (a.header :: a.rows).map shownRow := by
  have hread : read a.draw =
      (filledRows a.draw.tail).map (rowCells (a.widths.map (· + 2))) := by
    rw [draw_eq, read, edgeWidths_edge hfitting.widths_ne_nil]
    rfl
  rw [hread, filledRows_draw hfilled, List.map_map]
  exact List.map_congr_left fun row hrow => rowCells_drawRow (hfitting.fits row hrow)

end Arrangement

/-- Without a limit to its width, a table with a cell of every row in every column is fitting. -/
theorem isFitting_unwrapped {header : List Cell} {rows : List (List Cell)} (hne : header ≠ [])
    (hlength : ∀ row ∈ header :: rows, row.length = header.length) :
    (unwrapped header rows).IsFitting := by
  obtain ⟨hcount, hfits⟩ := fits_columnWidths (List.cons_ne_nil _ _) hlength
  refine ⟨?_, hfits⟩
  show columnWidths (header :: rows) ≠ []
  rw [← List.length_pos_iff, hcount]
  exact List.length_pos_iff.mpr hne

/-! ### The lines of a table -/

theorem mem_join {c : Char} {separator : Text} {texts : List Text}
    (h : c ∈ Text.join separator texts) : c ∈ separator ∨ ∃ text ∈ texts, c ∈ text := by
  induction texts with
  | nil => cases h
  | cons text more ih =>
    cases more with
    | nil => exact .inr ⟨text, List.mem_cons_self, h⟩
    | cons next more =>
      rw [Text.join_cons_cons, List.append_assoc, List.mem_append, List.mem_append] at h
      rcases h with h | h | h
      · exact .inr ⟨text, List.mem_cons_self, h⟩
      · exact .inl h
      · exact (ih h).imp_right fun ⟨t, ht, hc⟩ => ⟨t, List.mem_cons_of_mem _ ht, hc⟩

theorem newline_not_mem_rule {left line cross right : Char} (widths : List Nat)
    (h : '\n' ∉ [left, line, cross, right]) : '\n' ∉ rule left line cross right widths := by
  simp only [List.mem_cons, List.not_mem_nil, or_false, not_or] at h
  obtain ⟨hleft, hline, hcross, hright⟩ := h
  have hjoin : '\n' ∉ Text.join [cross] (widths.map fun width => List.replicate (width + 2) line) := by
    intro hmem
    rcases mem_join hmem with hmem | ⟨text, htext, hmem⟩
    · exact hcross (List.mem_singleton.mp hmem)
    · obtain ⟨width, -, rfl⟩ := List.mem_map.mp htext
      exact hline (List.eq_of_mem_replicate hmem)
  simp [rule, hleft, hright, hjoin]

theorem newline_not_mem_drawLine (widths : List Nat) {lines : List Text}
    (h : ∀ line ∈ lines, '\n' ∉ line) : '\n' ∉ drawLine widths lines := by
  have hjoin : '\n' ∉ Text.join " | ".toList (List.zipWith fill widths lines) := by
    intro hmem
    rcases mem_join hmem with hmem | ⟨text, htext, hmem⟩
    · exact absurd hmem (by decide)
    · rw [← List.map_uncurry_zip_eq_zipWith] at htext
      obtain ⟨⟨width, line⟩, hpair, rfl⟩ := List.mem_map.mp htext
      rcases List.mem_append.mp hmem with hmem | hmem
      · exact h line (List.of_mem_zip hpair).2 hmem
      · exact absurd (List.eq_of_mem_replicate hmem) (by decide)
  rw [drawLine, List.mem_append, List.mem_append, not_or, not_or]
  exact ⟨⟨by decide, hjoin⟩, by decide⟩

theorem newline_not_mem_drawRow (widths : List Nat) {row : List Cell}
    (h : ∀ cell ∈ row, ∀ line ∈ cell, '\n' ∉ line) : ∀ line ∈ drawRow widths row, '\n' ∉ line := by
  intro line hline
  obtain ⟨i, -, rfl⟩ := List.mem_map.mp hline
  apply newline_not_mem_drawLine
  intro line hline
  obtain ⟨cell, hcell, rfl⟩ := List.mem_map.mp hline
  rw [List.getD_eq_getElem?_getD]
  cases hline : cell[i]? with
  | none => exact List.not_mem_nil
  | some line => exact h cell hcell line (List.mem_of_getElem? hline)

theorem mem_drawRows {widths : List Nat} {rows : List (List Cell)} {line : Text}
    (h : line ∈ drawRows widths rows) :
    line = rowRule widths ∨ ∃ row ∈ rows, line ∈ drawRow widths row := by
  induction rows with
  | nil => cases h
  | cons row rest ih =>
    cases rest with
    | nil => exact .inr ⟨row, List.mem_cons_self, h⟩
    | cons next more =>
      rcases List.mem_append.mp h with h | h
      · exact .inr ⟨row, List.mem_cons_self, h⟩
      · rcases List.mem_cons.mp h with h | h
        · exact .inl h
        · exact (ih h).imp_right fun ⟨r, hr, hline⟩ => ⟨r, List.mem_cons_of_mem _ hr, hline⟩

/-- A table consists of rules and of the lines of its rows, the header's among them. -/
theorem Arrangement.mem_draw {a : Arrangement} {line : Text} (h : line ∈ a.draw) :
    line = edge a.widths ∨ line = headerRule a.widths ∨ line = rowRule a.widths ∨
      ∃ row ∈ a.header :: a.rows, line ∈ drawRow a.widths row := by
  simp only [draw, List.mem_append, List.mem_cons, List.not_mem_nil, or_false] at h
  rcases h with ((hedge | hline) | (hunder | hline)) | hedge
  · exact .inl hedge
  · exact .inr (.inr (.inr ⟨a.header, List.mem_cons_self, hline⟩))
  · exact .inr (.inl hunder)
  · rcases mem_drawRows hline with hbetween | ⟨row, hrow, hline⟩
    · exact .inr (.inr (.inl hbetween))
    · exact .inr (.inr (.inr ⟨row, List.mem_cons_of_mem _ hrow, hline⟩))
  · exact .inl hedge

/-- Without line feeds in its cells a table has none in its lines. -/
theorem Arrangement.newline_not_mem_draw {a : Arrangement}
    (h : ∀ row ∈ a.header :: a.rows, ∀ cell ∈ row, ∀ line ∈ cell, '\n' ∉ line) :
    ∀ line ∈ a.draw, '\n' ∉ line := by
  intro line hline
  rcases mem_draw hline with rfl | rfl | rfl | ⟨row, hrow, hline⟩
  · exact newline_not_mem_rule _ (by decide)
  · exact newline_not_mem_rule _ (by decide)
  · exact newline_not_mem_rule _ (by decide)
  · exact newline_not_mem_drawRow _ (h row hrow) line hline

end PascalLint.Report.Table

namespace PascalLint.Report
open Table

/-! ### The table report -/

/-- Cut at its line feeds, the report gives the drawn table and the status. -/
theorem lines_table {arrange : Arranger} {ds : List Diagnostic} {a : Arrangement}
    (ha : arrange tableHeader (ds.map tableRow) = a)
    (h : ∀ row ∈ a.header :: a.rows, ∀ cell ∈ row, ∀ line ∈ cell, '\n' ∉ line) :
    Text.lines (table arrange ds) = a.draw ++ [(Summary.ofList ds).status, []] := by
  subst ha
  have hlines : ∀ line ∈ (arrange tableHeader (ds.map tableRow)).draw ++
      [(Summary.ofList ds).status], '\n' ∉ line := by
    rw [List.forall_mem_append, List.forall_mem_singleton]
    exact ⟨Arrangement.newline_not_mem_draw h, newline_not_mem_status _⟩
  have hcut := Text.lines_unlines_append hlines []
  rwa [List.append_nil, List.append_assoc] at hcut

theorem newline_not_mem_tableRow (d : Diagnostic) :
    ∀ cell ∈ tableRow d, ∀ line ∈ cell, '\n' ∉ line := by
  have hnumber (n : Nat) : '\n' ∉ Text.ofNat n := Text.not_mem_ofNat rfl
  have hname : '\n' ∉ d.severity.name := by cases d.severity <;> decide
  have hlines (text : Text) : ∀ line ∈ Text.lines text, '\n' ∉ line :=
    fun _ => Text.newline_not_mem_of_mem_lines
  simp only [tableRow, List.forall_mem_cons, List.not_mem_nil, IsEmpty.forall_iff, implies_true,
    and_true]
  exact ⟨hnumber _, hnumber _, hname, hlines _, hlines _⟩

theorem newline_not_mem_rows (ds : List Diagnostic) :
    ∀ row ∈ tableHeader :: ds.map tableRow, ∀ cell ∈ row, ∀ line ∈ cell, '\n' ∉ line := by
  rw [List.forall_mem_cons, List.forall_mem_map]
  exact ⟨by decide, fun d _ => newline_not_mem_tableRow d⟩

theorem isFilled_table (ds : List Diagnostic) :
    (unwrapped tableHeader (ds.map tableRow)).IsFilled := by
  show ∀ row ∈ tableHeader :: ds.map tableRow, ∃ cell ∈ row, cell ≠ []
  rw [List.forall_mem_cons, List.forall_mem_map]
  exact ⟨by decide, fun d _ => ⟨_, List.mem_cons_self, List.cons_ne_nil _ _⟩⟩

theorem isFitting_table (ds : List Diagnostic) :
    (unwrapped tableHeader (ds.map tableRow)).IsFitting := by
  apply isFitting_unwrapped (List.cons_ne_nil _ _)
  rw [List.forall_mem_cons, List.forall_mem_map]
  exact ⟨rfl, fun _ _ => rfl⟩

/-- What is read of the drawn table is the header and what is shown of each diagnostic. -/
theorem read_draw_tableRow (ds : List Diagnostic) :
    Table.read (unwrapped tableHeader (ds.map tableRow)).draw =
      tableHeader :: ds.map fun d => shownRow (tableRow d) := by
  have hheader : shownRow tableHeader = tableHeader := by decide
  rw [Arrangement.read_draw (isFilled_table ds) (isFitting_table ds)]
  show (tableHeader :: ds.map tableRow).map shownRow = _
  rw [List.map_cons, List.map_map, hheader]
  rfl

end PascalLint.Report
