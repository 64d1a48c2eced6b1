import PascalLint.Extraction.Basic
import PascalLint.Proofs.Block.Scanned

/-! Output in parts.

A block ends in a caret line, at most three lines after its header line. A block that is broken off
at the end of a part of the output could only be completed by a caret line among the first three
lines after that part. If there is none, what is found in the part does not depend on what follows
(`scan_append`), and the scan begins anew where the part ends.

Three lines that are neither header lines nor caret lines therefore separate what stands before
them from what stands after them (`extract_separated`), whatever was broken off. -/
namespace PascalLint

namespace Candidate

variable {header : Header} {first : Text} {rest more separator : List Text} {c : Candidate}

/-- No block that is opened before these lines is completed by them. -/
def CompletesNothing (more : List Text) : Prop := ∀ k < 3, ∀ line ∈ more[k]?, ¬IsCaretLine line

/-! ### One candidate -/

/-- A candidate uses up lines that are there. -/
theorem lineCount_le_length (h : opened? first rest = some c) : c.lineCount ≤ rest.length := by
  obtain ⟨header, -, hwith | ⟨-, hwithout⟩⟩ := opened?_eq_some_iff.mp h
  · obtain ⟨context, source, caret, more, near, caretPrefix, rfl, -, -, rfl⟩ :=
      withNear?_eq_some_iff.mp hwith
    simp [lineCount]
  · obtain ⟨source, caret, more, caretPrefix, rfl, -, rfl⟩ := withoutNear?_eq_some_iff.mp hwithout
    simp [lineCount]

theorem withNear?_append (hmore : CompletesNothing more) (header : Header) (first : Text)
    (rest : List Text) : withNear? header first (rest ++ more) = withNear? header first rest := by
  match rest with
  | context :: source :: caret :: _ => rfl
  | [] => exact withNear?_eq_none_iff.mpr fun _ => hmore 2 (by decide)
  | [_] => exact withNear?_eq_none_iff.mpr fun _ => hmore 1 (by decide)
  | [_, _] => exact withNear?_eq_none_iff.mpr fun _ => hmore 0 (by decide)

theorem withoutNear?_append (hmore : CompletesNothing more) (header : Header) (first : Text)
    (rest : List Text) :
    withoutNear? header first (rest ++ more) = withoutNear? header first rest := by
  match rest with
  | source :: caret :: _ => rfl
  | [] => exact withoutNear?_eq_none_iff.mpr (hmore 1 (by decide))
  | [_] => exact withoutNear?_eq_none_iff.mpr (hmore 0 (by decide))

/-- What a line opens is settled before lines that complete nothing. -/
theorem opened?_append (hmore : CompletesNothing more) (first : Text) (rest : List Text) :
    opened? first (rest ++ more) = opened? first rest := by
  simp only [opened?, withNear?_append hmore, withoutNear?_append hmore]

/-! ### The scan -/

/-- Lines that complete nothing are scanned on their own. -/
theorem scan_append (hmore : CompletesNothing more) (lines : List Text) {usedUp : Nat}
    (h : usedUp ≤ lines.length) :
    scan usedUp (lines ++ more) = scan usedUp lines ++ scan 0 more := by
  induction lines generalizing usedUp with
  | nil =>
    obtain rfl : usedUp = 0 := Nat.le_zero.mp h
    rfl
  | cons first rest ih =>
    cases usedUp with
    | succ usedUp => exact ih (Nat.le_of_succ_le_succ h)
    | zero =>
      rw [List.cons_append, scan, scan, opened?_append hmore]
      cases hopen : opened? first rest with
      | none => exact ih (Nat.zero_le _)
      | some c => exact congrArg (c :: ·) (ih (lineCount_le_length hopen))

/-- Lines that are no header lines are passed over. -/
theorem scan_append_of_not_headerLine (h : ∀ line ∈ separator, ¬IsHeaderLine line)
    (lines : List Text) : scan 0 (separator ++ lines) = scan 0 lines := by
  induction separator with
  | nil => rfl
  | cons line separator ih =>
    rw [List.forall_mem_cons] at h
    rw [List.cons_append, scan_of_not_headerLine h.1, ih h.2]

/-- An empty line, as there is one at the end of the output, completes nothing. -/
theorem completesNothing_nil_line : CompletesNothing [[]] := by
  have hempty : ¬IsCaretLine [] := by decide
  intro k _ line hline
  cases k with
  | zero =>
    obtain rfl : [] = line := by simpa using hline
    exact hempty
  | succ k => simp at hline

theorem completesNothing_append (hlength : 3 ≤ separator.length)
    (hcaret : ∀ line ∈ separator, ¬IsCaretLine line) (lines : List Text) :
    CompletesNothing (separator ++ lines) := by
  intro k hk line hline
  rw [List.getElem?_append_left (by omega)] at hline
  exact hcaret line (List.mem_of_getElem? hline)

/-! ### Texts -/

section Texts
variable {a : Text} (ha : a = [] ∨ a.getLast? = some '\n') (hlength : 3 ≤ separator.length)
  (hline : ∀ line ∈ separator, '\n' ∉ line) (hheader : ∀ line ∈ separator, ¬IsHeaderLine line)
  (hcaret : ∀ line ∈ separator, ¬IsCaretLine line)
include ha hlength hline hheader hcaret

/-- Every candidate of the whole is one of its two parts. -/
theorem all_separated (b : Text) :
    all (a ++ Text.unlines separator ++ b) = all a ++ all b := by
  obtain ⟨ls, hlines, rfl⟩ := Text.exists_eq_unlines ha
  have hls : ∀ line ∈ ls, '\n' ∉ line := (Text.newline_not_mem_of_lines_eq hlines).1
  have hparts : Text.lines (Text.unlines ls ++ Text.unlines separator ++ b) =
      ls ++ (separator ++ Text.lines b) := by
    rw [List.append_assoc, Text.lines_unlines_append hls, Text.lines_unlines_append hline]
  have hleft : all (Text.unlines ls) = scan 0 ls := by
    rw [all, hlines, scan_append completesNothing_nil_line ls (Nat.zero_le _)]
    exact List.append_nil _
  rw [hleft, all, hparts,
    scan_append (completesNothing_append hlength hcaret _) ls (Nat.zero_le _),
    scan_append_of_not_headerLine hheader, all]

end Texts

end Candidate

section Separated
variable {a : Text} {separator : List Text}

/-- **Three lines that are neither header lines nor caret lines separate output.** What is found in
the whole is what is found before them, then what is found after them: the candidates, dropped ones
included, the blocks, and with any ignore set the diagnostics and the entries in the log. -/
theorem extract_separated (ha : a = [] ∨ a.getLast? = some '\n') (hlength : 3 ≤ separator.length)
    (hline : ∀ line ∈ separator, '\n' ∉ line) (hheader : ∀ line ∈ separator, ¬IsHeaderLine line)
    (hcaret : ∀ line ∈ separator, ¬IsCaretLine line) (b : Text) :
    Candidate.all (a ++ Text.unlines separator ++ b) = Candidate.all a ++ Candidate.all b ∧
      blocks (a ++ Text.unlines separator ++ b) = blocks a ++ blocks b ∧
      ∀ ignore, extract (a ++ Text.unlines separator ++ b) ignore =
          extract a ignore ++ extract b ignore ∧
        extractLog (a ++ Text.unlines separator ++ b) ignore =
          extractLog a ignore ++ extractLog b ignore := by
  have hall := Candidate.all_separated ha hlength hline hheader hcaret b
  refine ⟨hall, ?_, fun ignore => ⟨?_, ?_⟩⟩
  · rw [blocks, hall, List.filterMap_append]
    rfl
  · rw [extract, verdicts, hall, List.map_append, List.filterMap_append]
    rfl
  · rw [extractLog, verdicts, hall, List.map_append, List.flatMap_append]
    rfl

/-- A header line with context and no more, three lines of other text, the last of them almost a
header line, and a block. -/
theorem extract_separated_broken_off :
    let brokenOff := Text.unlines ["3 104 Bad".toList, List.replicate 25 ' ']
    let separator := ["Fatal error".toList, [], "12 104".toList]
    let rest := "4 57 Warning: unused\n  x\n  ^\n".toList
    extract (brokenOff ++ Text.unlines separator ++ rest) .empty =
      extract brokenOff .empty ++ extract rest .empty ∧
    extract rest .empty = [⟨4, 2, .warning, "Warning: unused".toList, "57".toList⟩] :=
  ⟨((extract_separated (.inr (by decide)) (by decide) (by decide) (by decide) (by decide) _).2.2
      .empty).1, by decide⟩

end Separated

end PascalLint
