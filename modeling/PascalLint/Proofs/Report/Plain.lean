import PascalLint.Proofs.Text.Lines
import PascalLint.Proofs.Text.Numeral
import PascalLint.Report.Plain

/-! Colours only add drawing sequences.

What is left of a text without its drawing sequences is what `Strips` says (`strips_iff`). It is made of
what is left of the parts of the text where a part is closed, that is, where no sequence that begins in it
is completed by what follows (`Closed`). A text is closed behind a character that stands in no sequence
(`closed_append_outside`), and a text without an escape character is closed everywhere.

The location of a diagnostic ends in a number, with a colon before it, and a label in a letter or a
bracket. So both are closed, whatever the file name and the code are, and painting them adds sequences
and nothing else (`plain_paint`). The text of a diagnostic comes last and is never painted. -/
namespace PascalLint.Report

/-- The text begins with a drawing sequence. -/
def BeginsSequence (text : Text) : Prop :=
  ∃ parameters rest, (∀ c ∈ parameters, isParameter c = true) ∧
    text = Style.sequence parameters ++ rest

/-- The first text with all drawing sequences deleted is the second. Sequences do not overlap, and an
escape character that begins none stays. -/
inductive Strips : Text → Text → Prop where
  | nil : Strips [] []
  | sequence {parameters rest plain : Text} : (∀ c ∈ parameters, isParameter c = true) →
      Strips rest plain → Strips (Style.sequence parameters ++ rest) plain
  | char {c : Char} {rest plain : Text} :
      ¬BeginsSequence (c :: rest) → Strips rest plain → Strips (c :: rest) (c :: plain)

section Plain
variable {a b text shown parameters rest : Text} {c : Char}

/-! ### Sequences -/

theorem sequenceLength_sequence (h : ∀ c ∈ parameters, isParameter c = true) (rest : Text) :
    sequenceLength (Style.sequence parameters ++ rest) = parameters.length + 3 := by
  have htake : (parameters ++ 'm' :: rest).takeWhile isParameter = parameters :=
    Text.takeWhile_append_of_head h (by simp [isParameter])
  have hdrop : (parameters ++ 'm' :: rest).dropWhile isParameter = 'm' :: rest :=
    Text.dropWhile_append_of_head h (by simp [isParameter])
  simp [Style.sequence, sequenceLength, htake, hdrop]

theorem sequenceLength_eq_zero_iff : sequenceLength text = 0 ↔ ¬BeginsSequence text := by
  refine ⟨?_, fun h => by_contra fun hlength => h ?_⟩
  · rintro hlength ⟨parameters, rest, hparameters, rfl⟩
    rw [sequenceLength_sequence hparameters] at hlength
    cases hlength
  · unfold sequenceLength at hlength
    split at hlength
    · rename_i rest
      split at hlength
      · rename_i hm
        obtain ⟨after, hafter⟩ := List.head?_eq_some_iff.mp hm
        have hsplit := List.takeWhile_append_dropWhile (p := isParameter) (l := rest)
        rw [hafter] at hsplit
        exact ⟨rest.takeWhile isParameter, after, fun c hc => List.mem_takeWhile_imp hc,
          by simp [Style.sequence, hsplit]⟩
      · exact absurd rfl hlength
    · exact absurd rfl hlength

theorem not_beginsSequence_of_ne (hc : c ≠ '\x1b') (rest : Text) : ¬BeginsSequence (c :: rest) := by
  rintro ⟨parameters, more, -, h⟩
  exact hc (List.cons.inj h).1

/-! ### What is left -/

theorem plainFrom_append (passed rest : Text) :
    plainFrom passed.length (passed ++ rest) = plain rest := by
  induction passed with
  | nil => rfl
  | cons c passed ih => exact ih

@[simp] theorem plain_nil : plain [] = [] := rfl

theorem plain_sequence (h : ∀ c ∈ parameters, isParameter c = true) (rest : Text) :
    plain (Style.sequence parameters ++ rest) = plain rest := by
  have hlength := sequenceLength_sequence h rest
  have htext : Style.sequence parameters ++ rest = '\x1b' :: ('[' :: parameters ++ ['m'] ++ rest) := by
    simp [Style.sequence]
  have hpassed : ('[' :: parameters ++ ['m']).length = parameters.length + 2 := by simp
  rw [htext] at hlength ⊢
  rw [plain, plainFrom, hlength, ← plainFrom_append ('[' :: parameters ++ ['m']) rest, hpassed]

theorem plain_cons (h : ¬BeginsSequence (c :: rest)) : plain (c :: rest) = c :: plain rest := by
  rw [plain, plainFrom, sequenceLength_eq_zero_iff.mpr h]
  rfl

theorem Strips.plain_eq (h : Strips text shown) : plain text = shown := by
  induction h with
  | nil => rfl
  | sequence hparameters _ ih => rw [plain_sequence hparameters, ih]
  | char hbegins _ ih => rw [plain_cons hbegins, ih]

theorem strips_plain (text : Text) : Strips text (plain text) := by
  induction hn : text.length using Nat.strongRecOn generalizing text with
  | ind n ih =>
    by_cases hbegins : BeginsSequence text
    · obtain ⟨parameters, rest, hparameters, rfl⟩ := hbegins
      rw [plain_sequence hparameters]
      refine .sequence hparameters (ih rest.length ?_ rest rfl)
      simp [← hn, Style.sequence]
      omega
    · cases text with
      | nil => exact .nil
      | cons c rest =>
        rw [plain_cons hbegins]
        exact .char hbegins (ih rest.length (by simp [← hn]) rest rfl)

/-- **Taking sequences out** in one go from the left deletes all that there are. -/
theorem strips_iff : Strips text shown ↔ plain text = shown :=
  ⟨Strips.plain_eq, fun h => h ▸ strips_plain text⟩

/-! ### Closed texts -/

/-- A character that stands in no sequence. -/
def IsOutside (c : Char) : Prop :=
  c ≠ '\x1b' ∧ c ≠ '[' ∧ c ≠ 'm' ∧ isParameter c = false

instance (c : Char) : Decidable (IsOutside c) := inferInstanceAs (Decidable (_ ∧ _))

theorem IsOutside.not_mem_sequence (hc : IsOutside c)
    (h : ∀ c ∈ parameters, isParameter c = true) : c ∉ Style.sequence parameters := by
  obtain ⟨hescape, hbracket, hm, hparameter⟩ := hc
  have hmem : c ∉ parameters := fun hmem => by simp [h c hmem] at hparameter
  simp [Style.sequence, hescape, hbracket, hm, hmem]

/-- A sequence that begins before such a character ends before it. -/
theorem BeginsSequence.of_append_outside (h : BeginsSequence (a ++ c :: rest)) (hc : IsOutside c) :
    BeginsSequence a := by
  obtain ⟨parameters, more, hparameters, htext⟩ := h
  have hbegins : Style.sequence parameters <+: a ++ c :: rest := ⟨more, htext.symm⟩
  obtain ⟨after, rfl⟩ :=
    Text.prefix_of_prefix_append_stop hbegins (hc.not_mem_sequence hparameters)
  exact ⟨parameters, after, hparameters, rfl⟩

/-- **A character that stands in no sequence stays**, and what stands before it and what stands after
it do not depend on each other. -/
theorem plain_append_outside (hc : IsOutside c) (a rest : Text) :
    plain (a ++ c :: rest) = plain a ++ c :: plain rest := by
  have hstrips := strips_plain a
  generalize plain a = shown at hstrips ⊢
  induction hstrips with
  | nil => exact plain_cons (not_beginsSequence_of_ne hc.1 rest)
  | sequence hparameters _ ih => rw [List.append_assoc, plain_sequence hparameters, ih]
  | @char d a _ hbegins _ ih =>
    have hwhole : ¬BeginsSequence (d :: a ++ c :: rest) := fun h => hbegins (h.of_append_outside hc)
    rw [List.cons_append] at hwhole ⊢
    rw [plain_cons hwhole, ih, List.cons_append]

/-- No sequence that begins in the text is completed by what follows it. -/
def Closed (text : Text) : Prop := ∀ rest, plain (text ++ rest) = plain text ++ plain rest

theorem Closed.append (ha : Closed a) (hb : Closed b) : Closed (a ++ b) := by
  intro rest
  rw [List.append_assoc, ha, ha, hb, List.append_assoc]

theorem closed_append_outside (hc : IsOutside c) (a : Text) : Closed (a ++ [c]) := by
  intro rest
  rw [List.append_assoc, List.singleton_append, plain_append_outside hc, plain_append_outside hc]
  simp

theorem closed_of_not_mem (h : '\x1b' ∉ text) : Closed text := by
  intro rest
  induction text with
  | nil => rfl
  | cons c text ih =>
    rw [List.mem_cons, not_or] at h
    have hbegins (more : Text) : ¬BeginsSequence (c :: more) :=
      not_beginsSequence_of_ne (Ne.symm h.1) more
    rw [List.cons_append, plain_cons (hbegins _), plain_cons (hbegins _), ih h.2, List.cons_append]

/-- Lines are stripped one by one. -/
theorem plain_unlines (texts : List Text) :
    plain (Text.unlines texts) = Text.unlines (texts.map plain) := by
  induction texts with
  | nil => rfl
  | cons text texts ih =>
    have hnewline : IsOutside '\n' := by decide
    have hcut (text : Text) (texts : List Text) :
        Text.unlines (text :: texts) = text ++ '\n' :: Text.unlines texts := by
      simp [Text.unlines]
    rw [List.map_cons, hcut, hcut, plain_append_outside hnewline, ih]

/-! ### Painted texts -/

theorem plain_paint_append {s : Style} (hs : ∀ c ∈ s.parameters, isParameter c = true)
    (h : Closed text) (rest : Text) : plain (s.paint text ++ rest) = plain text ++ plain rest := by
  have hoff : ∀ c ∈ ['0'], isParameter c = true := by decide
  rw [Style.paint, List.append_assoc, List.append_assoc, plain_sequence hs, h, plain_sequence hoff]

/-- Whether a closed text is painted or not, the same is left of it. -/
theorem plain_paint {s : Style} (hs : ∀ c ∈ s.parameters, isParameter c = true)
    (h : Closed text) (color : Bool) (rest : Text) :
    plain ((if color then s.paint text else text) ++ rest) = plain text ++ plain rest := by
  cases color with
  | false => exact h rest
  | true => exact plain_paint_append hs h rest

end Plain

/-! ### Lines -/

section Lines
variable (file : Text) (d : Diagnostic)

theorem closed_location : Closed (location file d) := by
  have hnumber (n : Nat) : Closed (Text.ofNat n) := closed_of_not_mem (Text.not_mem_ofNat rfl)
  have hcolon (a : Text) : Closed (a ++ [':']) := closed_append_outside (by decide) a
  have hparts : location file d =
      (file ++ [':']) ++ (Text.ofNat d.line ++ [':']) ++ Text.ofNat (d.column + 1) := by
    simp [location]
  rw [hparts]
  exact ((hcolon file).append (hcolon _)).append (hnumber _)

theorem closed_label : Closed (label d) := by
  rw [label]
  split
  · exact closed_append_outside (by decide) _
  · exact closed_of_not_mem (by cases d.severity <;> decide)

/-- What is left of a line is what is left of its parts, in colours or not. -/
theorem plain_line (color : Bool) : plain (line file color d) =
    plain (location file d) ++ ": ".toList ++ plain (label d) ++ ": ".toList ++ plain d.text := by
  have hunderlined : ∀ c ∈ Style.underlined.parameters, isParameter c = true := by decide
  have hseverity : ∀ c ∈ (Style.ofSeverity d.severity).parameters, isParameter c = true := by
    cases d.severity <;> decide
  have hcolon (rest : Text) : plain (": ".toList ++ rest) = ": ".toList ++ plain rest :=
    closed_of_not_mem (by decide) rest
  simp only [line, List.append_assoc]
  rw [plain_paint hunderlined (closed_location file d), hcolon,
    plain_paint hseverity (closed_label d), hcolon]

end Lines

/-- **Colours only add drawing sequences.** With these deleted, the line of a diagnostic is the same in
colours and without, and so is a whole report, whatever characters the file name, the texts and the
codes hold. -/
theorem color_only_adds_sequences (file : Text) :
    (∀ d, plain (line file true d) = plain (line file false d)) ∧
    (∀ ds, plain (text file true ds) = plain (text file false ds)) ∧
    ∀ drawn shown, plain drawn = shown ↔ Strips drawn shown := by
  have hline (d : Diagnostic) : plain (line file true d) = plain (line file false d) := by
    rw [plain_line, plain_line]
  refine ⟨hline, fun ds => ?_, fun _ _ => strips_iff.symm⟩
  rw [text, text, plain_unlines, plain_unlines]
  simp only [List.map_append, List.map_map, Function.comp_def, hline]

/-- An escape character at the end of the file name and the beginning of a sequence in a code. -/
example :
    let d : Diagnostic := ⟨3, 6, .warning, "m\x1b[1mx".toList, "5\x1b[".toList⟩
    plain (line "a\x1b".toList true d) = "a\x1b:3:7: warning[5\x1b[]: mx".toList := by
  decide +kernel

end PascalLint.Report
