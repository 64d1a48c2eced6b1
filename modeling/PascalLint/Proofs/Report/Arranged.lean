import PascalLint.Proofs.Report.Table

/-! A table that is arranged for a terminal.

A terminal may be too narrow for a table. Then lines of cells are broken, and where that is done is up
to the `Arranger`. It owes that every cell stays in its place and loses nothing but blanks
(`Arrangement.Keeps`); without a limit to the width of the table, all is kept as it is
(`keeps_unwrapped`). From this alone it follows that the table has the rows of the diagnostics, in their
order (`table_shows`). A line that is wider than its column is not ruled out, for a column may be
narrower than a character. If there is none, the cells are read in the columns of the edge, with their
blanks left open. -/
namespace PascalLint.Report.Table

/-! ### Cells that differ in their blanks -/

section Ink
variable {cell other : Cell}

/-- The characters of a cell that are no blanks, from its first line to its last. -/
def ink (cell : Cell) : Text := cell.flatten.filter (· != ' ')

/-- The cells differ at most in their blanks and in where their lines end. -/
def SameInk (cell other : Cell) : Prop := ink cell = ink other

instance (cell other : Cell) : Decidable (SameInk cell other) :=
  inferInstanceAs (Decidable (ink cell = ink other))

theorem mem_ink {c : Char} : c ∈ ink cell ↔ c ≠ ' ' ∧ ∃ line ∈ cell, c ∈ line := by
  rw [ink, List.mem_filter, List.mem_flatten, and_comm, bne_iff_ne]

/-- A character that is no blank stands in both of them or in neither. -/
theorem SameInk.mem_iff (h : SameInk cell other) {c : Char} (hc : c ≠ ' ') :
    (∃ line ∈ other, c ∈ line) ↔ ∃ line ∈ cell, c ∈ line := by
  have hink : c ∈ ink other ↔ c ∈ ink cell := by rw [h]
  rwa [mem_ink, mem_ink, and_iff_right hc, and_iff_right hc] at hink

theorem filter_dropBlanks (line : Text) :
    (dropBlanks line).filter (· != ' ') = line.filter (· != ' ') := by
  have hblanks : (line.rtakeWhile (· == ' ')).filter (· != ' ') = [] := by
    rw [List.filter_eq_nil_iff]
    intro c hc
    simpa using List.mem_rtakeWhile_imp hc
  have hline : dropBlanks line ++ line.rtakeWhile (· == ' ') = line :=
    List.rdropWhile_append_rtakeWhile
  calc (dropBlanks line).filter (· != ' ')
      = (dropBlanks line ++ line.rtakeWhile (· == ' ')).filter (· != ' ') := by
        rw [List.filter_append, hblanks, List.append_nil]
    _ = line.filter (· != ' ') := by rw [hline]

theorem ink_cons (line : Text) (cell : Cell) :
    ink (line :: cell) = line.filter (· != ' ') ++ ink cell := by
  rw [ink, List.flatten_cons, List.filter_append, ink]

theorem ink_map_dropBlanks (cell : Cell) : ink (cell.map dropBlanks) = ink cell := by
  induction cell with
  | nil => rfl
  | cons line cell ih => rw [List.map_cons, ink_cons, ink_cons, filter_dropBlanks, ih]

/-- What is shown of a cell differs from it in blanks at most. -/
theorem sameInk_shownCell (height : Nat) (cell : Cell) : SameInk cell (shownCell height cell) := by
  have hfill : (List.replicate (height - cell.length) ([] : Text)).flatten = [] := by simp
  calc ink cell = ink (cell.map dropBlanks) := (ink_map_dropBlanks cell).symm
    _ = ink (shownCell height cell) := by
        rw [shownCell, ink, ink, List.flatten_append, hfill, List.append_nil]

end Ink

/-! ### What is kept -/

/-- What an arrangement owes the table it is of: a column for each of its columns, and its cells in
their places, which may have other blanks and line ends. -/
structure Arrangement.Keeps (header : List Cell) (rows : List (List Cell)) (a : Arrangement) :
    Prop where
  length_widths : a.widths.length = header.length
  header : List.Forall₂ SameInk header a.header
  rows : List.Forall₂ (List.Forall₂ SameInk) rows a.rows

theorem keeps_unwrapped {header : List Cell} {rows : List (List Cell)}
    (hlength : ∀ row ∈ header :: rows, row.length = header.length) :
    (unwrapped header rows).Keeps header rows where
  length_widths := (fits_columnWidths (List.cons_ne_nil _ _) hlength).1
  header := List.forall₂_same.mpr fun _ _ => rfl
  rows := List.forall₂_same.mpr fun _ _ => List.forall₂_same.mpr fun _ _ => rfl

/-- The lines are those of a drawn row: its cells, as they were arranged, stand next to each other, one
in each column. -/
def Shows (widths : List Nat) (row : List Cell) (lines : List Text) : Prop :=
  ∃ arranged, List.Forall₂ SameInk row arranged ∧ arranged.length = widths.length ∧
    lines = drawRow widths arranged

/-- What holds of everything that is related to a member holds of the members of a related list. -/
theorem forall_mem_of_forall₂ {α β : Type} {R : α → β → Prop} {P : β → Prop} {xs : List α} {ys : List β}
    (h : List.Forall₂ R xs ys) (hP : ∀ x ∈ xs, ∀ y, R x y → P y) : ∀ y ∈ ys, P y := by
  induction h with
  | nil => exact List.forall_mem_nil _
  | cons hxy _ ih =>
    rw [List.forall_mem_cons] at hP ⊢
    exact ⟨hP.1 _ hxy, ih hP.2⟩

section Keeps
variable {header row arranged : List Cell} {rows : List (List Cell)} {a : Arrangement}

/-- A row that is not blank does not vanish. -/
theorem exists_cell_ne_nil (h : List.Forall₂ SameInk row arranged)
    (hink : ∃ cell ∈ row, ink cell ≠ []) : ∃ cell ∈ arranged, cell ≠ [] := by
  by_contra hnone
  have hflip : List.Forall₂ (fun other cell => SameInk cell other) arranged row := h.flip
  have hblank : ∀ cell ∈ row, ink cell = [] := by
    refine forall_mem_of_forall₂ hflip fun other hother cell hsame => ?_
    obtain rfl : other = [] := by_contra fun hne => hnone ⟨other, hother, hne⟩
    exact hsame
  obtain ⟨cell, hcell, hne⟩ := hink
  exact hne (hblank cell hcell)

theorem newline_not_mem_of_sameInk (h : List.Forall₂ SameInk row arranged)
    (hrow : ∀ cell ∈ row, ∀ line ∈ cell, '\n' ∉ line) :
    ∀ cell ∈ arranged, ∀ line ∈ cell, '\n' ∉ line := by
  refine forall_mem_of_forall₂ h fun cell hcell other hsame line hline hmem => ?_
  obtain ⟨line, hline, hmem⟩ := (hsame.mem_iff (by decide)).mp ⟨line, hline, hmem⟩
  exact hrow cell hcell line hline hmem

namespace Arrangement.Keeps

theorem all (h : a.Keeps header rows) :
    List.Forall₂ (List.Forall₂ SameInk) (header :: rows) (a.header :: a.rows) :=
  .cons h.header h.rows

theorem isFilled (h : a.Keeps header rows)
    (hink : ∀ row ∈ header :: rows, ∃ cell ∈ row, ink cell ≠ []) : a.IsFilled :=
  forall_mem_of_forall₂ h.all fun row hrow _ hsame => exists_cell_ne_nil hsame (hink row hrow)

theorem newline_not_mem (h : a.Keeps header rows)
    (hrows : ∀ row ∈ header :: rows, ∀ cell ∈ row, ∀ line ∈ cell, '\n' ∉ line) :
    ∀ row ∈ a.header :: a.rows, ∀ cell ∈ row, ∀ line ∈ cell, '\n' ∉ line :=
  forall_mem_of_forall₂ h.all fun row hrow _ hsame =>
    newline_not_mem_of_sameInk hsame (hrows row hrow)

/-- **The rows of a table are shown**, whatever lines were broken: the header and the others, in their
order. -/
theorem shows_draw (h : a.Keeps header rows) (hfilled : a.IsFilled)
    (hlength : ∀ row ∈ header :: rows, row.length = header.length) :
    List.Forall₂ (Shows a.widths) (header :: rows) (filledRows a.draw.tail) := by
  rw [filledRows_draw hfilled, List.forall₂_map_right_iff]
  refine ((List.forall₂_and_left _ _).mpr ⟨hlength, h.all⟩).imp fun row arranged hrow => ?_
  obtain ⟨hcount, hsame⟩ := hrow
  refine ⟨arranged, hsame, ?_, rfl⟩
  rw [← hsame.length_eq, hcount, h.length_widths]

/-- **The cells of a fitting table are read**, with other blanks at most. -/
theorem sameInk_read_draw (h : a.Keeps header rows) (hfilled : a.IsFilled) (hfitting : a.IsFitting) :
    List.Forall₂ (List.Forall₂ SameInk) (header :: rows) (read a.draw) := by
  rw [read_draw hfilled hfitting, List.forall₂_map_right_iff]
  refine h.all.imp fun row arranged hsame => ?_
  rw [shownRow, List.forall₂_map_right_iff]
  exact hsame.imp fun cell other hcell => hcell.trans (sameInk_shownCell _ other)

end Arrangement.Keeps

end Keeps

end PascalLint.Report.Table

namespace PascalLint.Report
open Table

/-! ### The table report -/

theorem ink_ofNat_ne_nil (n : Nat) : ink [Text.ofNat n] ≠ [] := by
  obtain ⟨c, hc⟩ := List.exists_mem_of_ne_nil _ (Text.ofNat_ne_nil n)
  have hblank : c ≠ ' ' := by
    rintro rfl
    exact Text.not_mem_ofNat rfl hc
  exact List.ne_nil_of_mem (mem_ink.mpr ⟨hblank, _, List.mem_singleton_self _, hc⟩)

/-- **An arranged table shows every diagnostic.** If the table is kept, the report is a drawn table and
the status line. The lines between the rules of the drawn table are those of the header and of the
diagnostics, in their order; and if every cell fits its column, this is what is read in the columns. -/
theorem table_shows {arrange : Arranger} {ds : List Diagnostic}
    (h : (arrange tableHeader (ds.map tableRow)).Keeps tableHeader (ds.map tableRow)) :
    let a := arrange tableHeader (ds.map tableRow)
    ∃ drawn, Text.lines (table arrange ds) = drawn ++ [(Summary.ofList ds).status, []] ∧
      List.Forall₂ (Shows a.widths) (tableHeader :: ds.map tableRow) (filledRows drawn.tail) ∧
      ((∀ row ∈ a.header :: a.rows, Fits a.widths row) →
        List.Forall₂ (List.Forall₂ SameInk) (tableHeader :: ds.map tableRow) (Table.read drawn)) := by
  intro a
  have hink : ∀ row ∈ tableHeader :: ds.map tableRow, ∃ cell ∈ row, ink cell ≠ [] := by
    rw [List.forall_mem_cons, List.forall_mem_map]
    exact ⟨by decide, fun d _ => ⟨_, List.mem_cons_self, ink_ofNat_ne_nil d.line⟩⟩
  have hlength : ∀ row ∈ tableHeader :: ds.map tableRow, row.length = tableHeader.length := by
    rw [List.forall_mem_cons, List.forall_mem_map]
    exact ⟨rfl, fun _ _ => rfl⟩
  have hfilled := h.isFilled hink
  have hlines := lines_table rfl (h.newline_not_mem (newline_not_mem_rows ds))
  refine ⟨a.draw, hlines, h.shows_draw hfilled hlength, fun hfits => ?_⟩
  have hne : a.widths ≠ [] := by
    rw [← List.length_pos_iff, h.length_widths]
    decide
  exact h.sameInk_read_draw hfilled ⟨hne, hfits⟩

end PascalLint.Report
