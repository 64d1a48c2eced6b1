import Mathlib.Data.List.DropRight
import PascalLint.IgnoreSet
import PascalLint.Proofs.Text.Lines

/-! Codes written in lists.

A list of codes is written with separators, commas and white space, between the codes and perhaps
around them (`Lists`). Cutting a list at a separator cuts off the codes before it
(`listed_append_separator`), and from this alone the codes are read back as they were written
(`Lists.listed_eq`). Since every text is such a list, what is read from a text is what it lists
(`lists_iff`), and nothing else than codes. A code on its own, with white space around it (`Pads`), is
read back by trimming (`Pads.trim_eq`). -/
namespace PascalLint

namespace IgnoreSet

def isSeparator (c : Char) : Bool := c == ',' || Text.isWhiteSpace c

/-- A code that can be written in a list. -/
def IsCode (code : Text) : Prop := code ≠ [] ∧ ∀ c ∈ code, isSeparator c = false

/-- The text lists the codes, in order and with repetitions. -/
inductive Lists : Text → List Text → Prop where
  | none {gap : Text} : (∀ c ∈ gap, isSeparator c = true) → Lists gap []
  | code {gap code rest : Text} {codes : List Text} : (∀ c ∈ gap, isSeparator c = true) →
      IsCode code → (∀ c ∈ rest.head?, isSeparator c = true) → Lists rest codes →
      Lists (gap ++ code ++ rest) (code :: codes)

/-- The text is the code with white space around it. -/
def Pads (text code : Text) : Prop :=
  IsCode code ∧ ∃ before after, text = before ++ code ++ after ∧
    (∀ c ∈ before, Text.isWhiteSpace c = true) ∧ ∀ c ∈ after, Text.isWhiteSpace c = true

/-! ### Cutting lists -/

section Cut
variable {c : Char} {gap code text : Text} {codes : List Text}

theorem listed_eq_pieces (list : Text) :
    listed list = (Text.pieces isSeparator list).filter (!·.isEmpty) := rfl

theorem listed_nil : listed [] = [] := rfl

/-- **A separator cuts a list in two.** -/
theorem listed_append_separator (hc : isSeparator c = true) (a b : Text) :
    listed (a ++ c :: b) = listed a ++ listed b := by
  simp only [listed_eq_pieces, Text.pieces_append_separator hc, List.filter_append]

theorem listed_cons_separator (hc : isSeparator c = true) (b : Text) : listed (c :: b) = listed b := by
  rw [listed_eq_pieces, Text.pieces_cons_separator hc]
  rfl

theorem listed_append_of_separators (hgap : ∀ c ∈ gap, isSeparator c = true) (b : Text) :
    listed (gap ++ b) = listed b := by
  induction gap with
  | nil => rfl
  | cons c gap ih =>
    rw [List.forall_mem_cons] at hgap
    rw [List.cons_append, listed_cons_separator hgap.1, ih hgap.2]

theorem listed_of_isCode (h : IsCode code) : listed code = [code] := by
  rw [listed_eq_pieces, Text.pieces_of_forall h.2]
  simp [h.1]

/-- **The codes of a list are read back as they are written.** -/
theorem Lists.listed_eq (h : Lists text codes) : listed text = codes := by
  induction h with
  | @none gap hgap =>
    rw [← List.append_nil gap, listed_append_of_separators hgap]
    rfl
  | @code gap code rest codes hgap hcode hrest _ ih =>
    rw [List.append_assoc, listed_append_of_separators hgap]
    cases rest with
    | nil => rw [← ih, List.append_nil, listed_of_isCode hcode, listed_nil]
    | cons c rest =>
      have hc : isSeparator c = true := hrest c rfl
      rw [listed_append_separator hc, listed_of_isCode hcode, ← ih, listed_cons_separator hc]
      rfl

/-- Every text is a list of codes. -/
theorem exists_lists (text : Text) : ∃ codes, Lists text codes := by
  induction text with
  | nil => exact ⟨[], .none (by simp)⟩
  | cons c text ih =>
    obtain ⟨codes, hlists⟩ := ih
    cases hc : isSeparator c with
    | true =>
      cases hlists with
      | none hgap => exact ⟨[], .none (List.forall_mem_cons.mpr ⟨hc, hgap⟩)⟩
      | @code gap code rest _ hgap hcode hrest hlists =>
        have hgap : ∀ d ∈ c :: gap, isSeparator d = true := List.forall_mem_cons.mpr ⟨hc, hgap⟩
        exact ⟨_, .code hgap hcode hrest hlists⟩
    | false =>
      -- The character begins the first code if that follows at once, else it is a code of its own.
      have hone : IsCode [c] := ⟨by simp, by simp [hc]⟩
      cases hlists with
      | none hgap =>
        have hend : ∀ d ∈ text.head?, isSeparator d = true := fun d hd => hgap d (List.mem_of_head? hd)
        exact ⟨_, .code (List.forall_mem_nil _) hone hend (.none hgap)⟩
      | @code gap code rest _ hgap hcode hrest hlists =>
        cases gap with
        | nil =>
          have hlonger : IsCode (c :: code) :=
            ⟨List.cons_ne_nil c code, List.forall_mem_cons.mpr ⟨hc, hcode.2⟩⟩
          exact ⟨_, .code (List.forall_mem_nil _) hlonger hrest hlists⟩
        | cons d gap =>
          have hend : ∀ e ∈ (d :: gap ++ code ++ rest).head?, isSeparator e = true := by
            simpa using hgap d List.mem_cons_self
          exact ⟨_, .code (List.forall_mem_nil _) hone hend (.code hgap hcode hrest hlists)⟩

/-- The codes that are read from a text are those that it lists. -/
theorem lists_iff : Lists text codes ↔ listed text = codes := by
  refine ⟨Lists.listed_eq, fun h => ?_⟩
  obtain ⟨written, hlists⟩ := exists_lists text
  rwa [← h, hlists.listed_eq]

theorem Lists.isCode (h : Lists text codes) : ∀ code ∈ codes, IsCode code := by
  induction h with
  | none => intro code hcode; cases hcode
  | code _ hcode _ _ ih => exact List.forall_mem_cons.mpr ⟨hcode, ih⟩

theorem isCode_of_mem_parse {code list : Text} (h : code ∈ parse list) : IsCode code := by
  have hlists : Lists list (listed list) := lists_iff.mpr rfl
  rw [parse, mem_ofList] at h
  exact hlists.isCode code h

theorem Lists.mem_parse_iff (h : Lists text codes) {code : Text} :
    code ∈ parse text ↔ code ∈ codes := by
  rw [parse, mem_ofList, h.listed_eq]

end Cut

/-! ### Codes on their own -/

section Trim
variable {code text : Text}

theorem IsCode.isWhiteSpace_eq_false (h : IsCode code) : ∀ c ∈ code, Text.isWhiteSpace c = false := by
  intro c hc
  have hseparator := h.2 c hc
  rw [isSeparator, Bool.or_eq_false_iff] at hseparator
  exact hseparator.2

/-- White space is trimmed off up to a code. -/
theorem dropWhile_isWhiteSpace_append (h : IsCode code) {gap : Text}
    (hgap : ∀ c ∈ gap, Text.isWhiteSpace c = true) (rest : Text) :
    (gap ++ (code ++ rest)).dropWhile Text.isWhiteSpace = code ++ rest := by
  refine Text.dropWhile_append_of_head hgap fun c hc => ?_
  obtain ⟨first, more, hcode⟩ := List.exists_cons_of_ne_nil h.1
  obtain rfl : first = c := by simpa [hcode] using hc
  exact h.isWhiteSpace_eq_false first (by simp [hcode])

theorem IsCode.reverse (h : IsCode code) : IsCode code.reverse :=
  ⟨by simpa using h.1, fun c hc => h.2 c (List.mem_reverse.mp hc)⟩

/-- **Trimming takes off the white space around a code and nothing else.** -/
theorem Pads.trim_eq (h : Pads text code) : Text.trim text = code := by
  obtain ⟨hcode, before, after, rfl, hbefore, hafter⟩ := h
  have hafter : ∀ c ∈ after.reverse, Text.isWhiteSpace c = true :=
    fun c hc => hafter c (List.mem_reverse.mp hc)
  have hreverse := dropWhile_isWhiteSpace_append hcode.reverse hafter []
  rw [List.append_nil] at hreverse
  rw [Text.trim, List.append_assoc, dropWhile_isWhiteSpace_append hcode hbefore,
    List.reverse_append, hreverse, List.reverse_reverse]

/-- Trimming a second time changes nothing. -/
theorem trim_trim (text : Text) : Text.trim (Text.trim text) = Text.trim text := by
  obtain ⟨rest, hrest⟩ : Text.trim text <+: text.dropWhile Text.isWhiteSpace :=
    List.rdropWhile_prefix Text.isWhiteSpace _
  have hstart : (Text.trim text).dropWhile Text.isWhiteSpace = Text.trim text := by
    cases htrim : Text.trim text with
    | nil => rfl
    | cons c more =>
      have hhead : c ∈ (text.dropWhile Text.isWhiteSpace).head? := by simp [← hrest, htrim]
      have hc : Text.isWhiteSpace c = false := Text.eq_false_of_mem_head?_dropWhile hhead
      rw [List.dropWhile_cons_of_neg (by simp [hc])]
  have hend := List.rdropWhile_idempotent Text.isWhiteSpace (text.dropWhile Text.isWhiteSpace)
  show ((Text.trim text).dropWhile Text.isWhiteSpace).rdropWhile Text.isWhiteSpace = _
  rw [hstart]
  exact hend

theorem IsCode.trim_eq (h : IsCode code) : Text.trim code = code :=
  Pads.trim_eq ⟨h, [], [], by simp, by simp, by simp⟩

end Trim

end IgnoreSet

end PascalLint
