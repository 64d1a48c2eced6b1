import Mathlib.Data.List.TakeWhile
import PascalLint.Text.Basic

/-! Lines and runs.

Cutting a text that was put together from lines gives the lines back (`lines_unlines_append`). A
run of characters of a class never passes a character that is not of the class, so what is read on
a line does not depend on the lines after it (`takeWhile_append_stop`, `dropWhile_append_stop`). -/
namespace PascalLint.Text

/-! ### Runs -/

section Runs
variable {p : Char → Bool} {c : Char}

/-- A run ends before a character that is not of its class. -/
theorem takeWhile_append_stop (h : p c = false) (a b : Text) :
    (a ++ c :: b).takeWhile p = a.takeWhile p := by
  induction a with
  | nil => simp [h]
  | cons d a ih => simp only [List.cons_append, List.takeWhile_cons, ih]

theorem dropWhile_append_stop (h : p c = false) (a b : Text) :
    (a ++ c :: b).dropWhile p = a.dropWhile p ++ c :: b := by
  induction a with
  | nil => simp [h]
  | cons d a ih =>
    simp only [List.cons_append, List.dropWhile_cons, ih]
    split <;> rfl

/-- A run of members is taken whole if it does not go on after them. -/
theorem takeWhile_append_of_head {a b : Text} (ha : ∀ d ∈ a, p d = true)
    (hb : ∀ d ∈ b.head?, p d = false) : (a ++ b).takeWhile p = a := by
  rw [List.takeWhile_append_of_pos ha]
  cases b with
  | nil => simp
  | cons d b => simp [hb d rfl]

theorem dropWhile_append_of_head {a b : Text} (ha : ∀ d ∈ a, p d = true)
    (hb : ∀ d ∈ b.head?, p d = false) : (a ++ b).dropWhile p = b := by
  rw [List.dropWhile_append_of_pos ha]
  cases b with
  | nil => rfl
  | cons d b => simp [hb d rfl]

/-- The first character of what begins with a run of members. -/
theorem forall_head?_append {p : Char → Prop} {a b : Text} (hne : a ≠ []) (h : ∀ c ∈ a, p c) :
    ∀ c ∈ (a ++ b).head?, p c := by
  obtain ⟨d, a, rfl⟩ := List.exists_cons_of_ne_nil hne
  intro c hc
  obtain rfl : d = c := by simpa using hc
  exact h d List.mem_cons_self

/-- A word without a character ends before that character if it begins a text. -/
theorem prefix_of_prefix_append_stop {word a b : Text} (h : word <+: a ++ c :: b)
    (hc : c ∉ word) : word <+: a := by
  rcases List.prefix_or_prefix_of_prefix h (List.prefix_append a (c :: b)) with ha | ⟨more, rfl⟩
  · exact ha
  · rw [List.prefix_append_right_inj] at h
    cases more with
    | nil => simp
    | cons d more =>
      obtain rfl : d = c := (List.cons_prefix_cons.mp h).1
      simp at hc

/-- A text is cut at the first place of a character in one way only. -/
theorem append_stop_inj {a b x y : Text} (ha : c ∉ a) (hb : c ∉ b)
    (h : a ++ c :: x = b ++ c :: y) : a = b ∧ x = y := by
  induction a generalizing b with
  | nil =>
    cases b with
    | nil => exact ⟨rfl, (List.cons.inj h).2⟩
    | cons d b =>
      obtain ⟨rfl, -⟩ := List.cons.inj h
      exact absurd List.mem_cons_self hb
  | cons d a ih =>
    cases b with
    | nil =>
      obtain ⟨rfl, -⟩ := List.cons.inj h
      exact absurd List.mem_cons_self ha
    | cons e b =>
      rw [List.mem_cons, not_or] at ha hb
      obtain ⟨rfl, hrest⟩ := List.cons.inj h
      obtain ⟨rfl, hxy⟩ := ih ha.2 hb.2 hrest
      exact ⟨rfl, hxy⟩

/-- What follows a run does not begin with a member. -/
theorem eq_false_of_mem_head?_dropWhile {text : Text} {d : Char}
    (h : d ∈ (text.dropWhile p).head?) : p d = false := by
  have hnot := List.head?_dropWhile_not p text
  rw [Option.mem_def.mp h] at hnot
  simpa using hnot

end Runs

/-! ### Lines -/

theorem join_cons_cons (separator first second : Text) (more : List Text) :
    join separator (first :: second :: more) =
      first ++ separator ++ join separator (second :: more) := rfl

/-- What begins the first line begins the whole. -/
theorem join_append_cons (separator a b : Text) (more : List Text) :
    join separator ((a ++ b) :: more) = a ++ join separator (b :: more) := by
  cases more with
  | nil => rfl
  | cons next more =>
    rw [join_cons_cons, join_cons_cons]
    simp only [List.append_assoc]

theorem lines_of_not_mem {line : Text} (h : '\n' ∉ line) : lines line = [line] := by
  apply pieces_of_forall
  intro c hc
  rw [beq_eq_false_iff_ne]
  intro hnewline
  exact h (hnewline ▸ hc)

theorem lines_append_newline {line : Text} (h : '\n' ∉ line) (rest : Text) :
    lines (line ++ '\n' :: rest) = line :: lines rest := by
  have hline : pieces (· == '\n') line = [line] := lines_of_not_mem h
  rw [lines, pieces_append_separator (by rfl), hline]
  rfl

/-- Texts that are ended by a line feed each give their lines. -/
theorem lines_unlines (texts : List Text) (rest : Text) :
    lines (unlines texts ++ rest) = texts.flatMap lines ++ lines rest := by
  induction texts with
  | nil => rfl
  | cons text texts ih =>
    have hcut : unlines (text :: texts) ++ rest = text ++ '\n' :: (unlines texts ++ rest) := by
      simp [unlines]
    rw [hcut, lines, pieces_append_separator (by rfl), List.flatMap_cons, List.append_assoc, ← ih]
    rfl

/-- Lines that end in a line feed are lines of the text, and so is what follows them. -/
theorem lines_unlines_append {ls : List Text} (h : ∀ line ∈ ls, '\n' ∉ line) (rest : Text) :
    lines (unlines ls ++ rest) = ls ++ lines rest := by
  have hlines : ls.flatMap lines = ls := by
    rw [List.flatMap_def, List.map_congr_left fun line hline => lines_of_not_mem (h line hline),
      ← List.flatMap_def, List.flatMap_singleton']
  rw [lines_unlines, hlines]

/-- What stands in front of a text without a line feed belongs to its first line. -/
theorem exists_lines_append {a : Text} (h : '\n' ∉ a) (b : Text) :
    ∃ line more, lines b = line :: more ∧ lines (a ++ b) = (a ++ line) :: more := by
  induction a with
  | nil =>
    obtain ⟨line, more, hb⟩ := List.exists_cons_of_ne_nil (pieces_ne_nil (· == '\n') b)
    exact ⟨line, more, hb, hb⟩
  | cons c a ih =>
    rw [List.mem_cons, not_or] at h
    obtain ⟨line, more, hb, hab⟩ := ih h.2
    have hc : ¬(c == '\n') = true := by simpa using Ne.symm h.1
    refine ⟨line, more, hb, ?_⟩
    rw [lines] at hab
    rw [lines, List.cons_append, pieces, if_neg hc, hab]
    rfl

/-- The first line begins the text. -/
theorem prefix_of_mem_lines_zero {text line : Text} (h : line ∈ (lines text)[0]?) :
    line <+: text := by
  have hjoin := join_lines text
  cases hlines : lines text with
  | nil => simp [hlines] at h
  | cons first more =>
    rw [hlines] at h hjoin
    obtain rfl : first = line := by simpa using h
    cases more with
    | nil => exact ⟨[], by rw [← hjoin, List.append_nil]; rfl⟩
    | cons second more => exact ⟨_, by rw [← hjoin, join_cons_cons, List.append_assoc]⟩

/-- No line holds a line feed. -/
theorem newline_not_mem_of_mem_lines {text line : Text} (h : line ∈ lines text) :
    '\n' ∉ line := by
  unfold lines at h
  induction text generalizing line with
  | nil => simp_all [pieces]
  | cons c rest ih =>
    rw [pieces] at h
    split at h
    · rcases List.mem_cons.mp h with rfl | h
      · exact List.not_mem_nil
      · exact ih h
    · rename_i hc
      cases hp : pieces (· == '\n') rest with
      | nil => exact absurd hp (pieces_ne_nil _ _)
      | cons piece more =>
        rw [hp] at h ih
        rcases List.mem_cons.mp h with rfl | h
        · have hpiece : '\n' ∉ piece := ih List.mem_cons_self
          rw [List.mem_cons]
          intro hmem
          rcases hmem with rfl | hmem
          · exact hc rfl
          · exact hpiece hmem
        · exact ih (List.mem_cons_of_mem _ h)

theorem newline_not_mem_of_lines_eq {text last : Text} {ls : List Text}
    (h : lines text = ls ++ [last]) : (∀ line ∈ ls, '\n' ∉ line) ∧ '\n' ∉ last := by
  have hmem : ∀ line ∈ ls ++ [last], '\n' ∉ line :=
    fun line hline => newline_not_mem_of_mem_lines (h ▸ hline)
  rwa [List.forall_mem_append, List.forall_mem_singleton] at hmem

theorem join_append {separator : Text} {more : List Text} (hmore : more ≠ []) (texts : List Text) :
    join separator (texts ++ more) = texts.flatMap (· ++ separator) ++ join separator more := by
  induction texts with
  | nil => rfl
  | cons text texts ih =>
    have hne : texts ++ more ≠ [] := List.append_ne_nil_of_right_ne_nil texts hmore
    rw [List.cons_append, join_cons_of_ne_nil _ _ hne, ih, List.flatMap_cons]
    simp only [List.append_assoc]

theorem join_append_singleton (separator last : Text) (texts : List Text) :
    join separator (texts ++ [last]) = texts.flatMap (· ++ separator) ++ last :=
  join_append (List.cons_ne_nil last []) texts

/-- A text is lines that end in a line feed, and a last line. -/
theorem exists_eq_unlines_append (text : Text) :
    ∃ ls last, lines text = ls ++ [last] ∧ text = unlines ls ++ last := by
  have hlines : lines text = (lines text).dropLast ++ [(lines text).getLast (pieces_ne_nil _ _)] :=
    (List.dropLast_concat_getLast _).symm
  have htext := join_lines text
  rw [hlines, join_append_singleton] at htext
  exact ⟨_, _, hlines, htext.symm⟩

/-- A text that ends in a line feed has an empty last line, as the empty text has. -/
theorem exists_eq_unlines {text : Text} (h : text = [] ∨ text.getLast? = some '\n') :
    ∃ ls, lines text = ls ++ [[]] ∧ text = unlines ls := by
  obtain ⟨ls, last, hlines, htext⟩ := exists_eq_unlines_append text
  cases last with
  | nil => exact ⟨ls, hlines, by rw [htext, List.append_nil]⟩
  | cons c last =>
    have hlast : '\n' ∉ c :: last := (newline_not_mem_of_lines_eq hlines).2
    rcases h with hnil | hnewline
    · rw [hnil] at htext
      exact absurd htext.symm (by simp)
    · have hend : (c :: last).getLast? = some '\n' := by
        simpa [htext, List.getLast?_append] using hnewline
      exact absurd (List.mem_of_getLast? hend) hlast

/-- A line stands in the text. -/
theorem infix_of_mem_lines {text line : Text} (h : line ∈ lines text) : line <:+: text := by
  obtain ⟨ls, last, hlines, htext⟩ := exists_eq_unlines_append text
  rw [hlines, List.mem_append, List.mem_singleton] at h
  rcases h with h | rfl
  · obtain ⟨a, b, rfl⟩ := List.append_of_mem h
    exact ⟨unlines a, '\n' :: unlines b ++ last, by simp [htext, unlines]⟩
  · exact ⟨unlines ls, [], by rw [htext, List.append_nil]⟩

/-! ### Deciding -/

section Deciding
variable {p : Char → Prop} [DecidablePred p]

/-- A text is gone through, not all characters that there are. -/
instance decidableForallMem (text : Text) : Decidable (∀ c ∈ text, p c) :=
  List.decidableBAll p text

instance decidableForallMemOption (c? : Option Char) : Decidable (∀ c ∈ c?, p c) :=
  Option.decidableForallMem c?

end Deciding

end PascalLint.Text
