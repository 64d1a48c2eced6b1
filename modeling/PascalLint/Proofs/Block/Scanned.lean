import PascalLint.Proofs.Block.Grammar

/-! The rules of the scan.

Three lines after a header line complete a block with context, if the first is a line of context
and the last a caret line; otherwise two lines complete a block without context, if the last is a
caret line; otherwise the header line is a line like any other. `Scanned` says so in the terms of
the grammar, and what the scan computes is the one thing it allows (`scanned_iff`). -/
namespace PascalLint

open Candidate

/-! ### What a header line opens -/

section Opened
variable {source caretPrefix : Text}

theorem opened?_withContext (l : HeaderLine) {near : Text} (hnear : near ≠ []) (source : Text)
    (hblank : ∀ c ∈ caretPrefix, c = ' ') (after : Text) (more : List Text) :
    opened? l.text ((List.replicate nearIndent ' ' ++ near) :: source ::
        (caretPrefix ++ '^' :: after) :: more) =
      some ⟨l.header, some near, source, caretPrefix,
        Text.unlines [l.text, List.replicate nearIndent ' ' ++ near, source] ++
          caretPrefix ++ ['^']⟩ :=
  opened?_eq_some_iff.mpr ⟨l.header, Header.read?_text l, .inl (withNear?_eq_some_iff.mpr
    ⟨_, source, _, more, near, caretPrefix, rfl, near?_eq_some_iff.mpr ⟨hnear, rfl⟩,
      caretPrefix?_eq_some_iff.mpr ⟨hblank, after, rfl⟩, rfl⟩)⟩

/-- A source line is taken for one unless it could be context for the lines after it. -/
theorem opened?_withoutContext (l : HeaderLine) (hblank : ∀ c ∈ caretPrefix, c = ' ')
    (after : Text) {more : List Text}
    (h : IsContextLine source → ∀ line ∈ more[0]?, ¬IsCaretLine line) :
    opened? l.text (source :: (caretPrefix ++ '^' :: after) :: more) =
      some ⟨l.header, none, source, caretPrefix,
        Text.unlines [l.text, source] ++ caretPrefix ++ ['^']⟩ := by
  have hnone : withNear? l.header l.text (source :: (caretPrefix ++ '^' :: after) :: more) = none :=
    withNear?_eq_none_iff.mpr (by simpa using h)
  exact opened?_eq_some_iff.mpr ⟨l.header, Header.read?_text l, .inr ⟨hnone,
    withoutNear?_eq_some_iff.mpr ⟨source, _, more, caretPrefix, rfl,
      caretPrefix?_eq_some_iff.mpr ⟨hblank, after, rfl⟩, rfl⟩⟩⟩

/-- What a line opens is the first of what the scan finds there. -/
theorem filterMap_block?_scan {first : Text} {rest : List Text} {c : Candidate} {b : Block}
    (hopen : opened? first rest = some c) (hb : c.block? = some b) :
    (scan 0 (first :: rest)).filterMap block? =
      b :: (scan 0 (rest.drop c.lineCount)).filterMap block? := by
  rw [scan, hopen, ← scan_eq_drop]
  exact List.filterMap_cons_some hb

/-- A line that is no header line is passed over. -/
theorem scan_of_not_headerLine {line : Text} (h : ¬IsHeaderLine line) (rest : List Text) :
    scan 0 (line :: rest) = scan 0 rest := by
  have hnone : opened? line rest = none :=
    opened?_eq_none_iff.mpr fun header hread =>
      absurd (Header.isHeaderLine_iff.mpr (by simp [hread])) h
  rw [scan, hnone]

end Opened

/-! ### The rules -/

/-- A header line and the lines after it complete no block. -/
def OpensNothing (rest : List Text) : Prop :=
  (∀ line ∈ rest[1]?, ¬IsCaretLine line) ∧
    ((∃ line ∈ rest[0]?, IsContextLine line) → ∀ line ∈ rest[2]?, ¬IsCaretLine line)

/-- The candidates that lines hold, by the rules for blocks. -/
inductive Scanned : List Text → List Candidate → Prop where
  | nil : Scanned [] []
  | withContext {l : HeaderLine} {near source caretPrefix after : Text} {more : List Text}
      {cs : List Candidate} :
      near ≠ [] → (∀ c ∈ caretPrefix, c = ' ') → Scanned more cs →
      Scanned (l.text :: (List.replicate nearIndent ' ' ++ near) :: source ::
          (caretPrefix ++ '^' :: after) :: more)
        (⟨l.header, some near, source, caretPrefix,
          Text.unlines [l.text, List.replicate nearIndent ' ' ++ near, source] ++
            caretPrefix ++ ['^']⟩ :: cs)
  | withoutContext {l : HeaderLine} {source caretPrefix after : Text} {more : List Text}
      {cs : List Candidate} :
      (IsContextLine source → ∀ line ∈ more[0]?, ¬IsCaretLine line) →
      (∀ c ∈ caretPrefix, c = ' ') → Scanned more cs →
      Scanned (l.text :: source :: (caretPrefix ++ '^' :: after) :: more)
        (⟨l.header, none, source, caretPrefix,
          Text.unlines [l.text, source] ++ caretPrefix ++ ['^']⟩ :: cs)
  | other {first : Text} {rest : List Text} {cs : List Candidate} :
      (∀ l : HeaderLine, l.text = first → OpensNothing rest) → Scanned rest cs →
      Scanned (first :: rest) cs

theorem opened?_eq_none_iff_opensNothing {first : Text} {rest : List Text} :
    opened? first rest = none ↔ ∀ l : HeaderLine, l.text = first → OpensNothing rest := by
  rw [opened?_eq_none_iff]
  constructor
  · intro h l hl
    subst hl
    obtain ⟨hwith, hwithout⟩ := h l.header (Header.read?_text l)
    exact ⟨withoutNear?_eq_none_iff.mp hwithout, withNear?_eq_none_iff.mp hwith⟩
  · intro h header hread
    obtain ⟨l, hl, -⟩ := Header.read?_eq_some_iff.mp hread
    obtain ⟨hwithout, hwith⟩ := h l hl
    exact ⟨withNear?_eq_none_iff.mpr hwith, withoutNear?_eq_none_iff.mpr hwithout⟩

/-- What the scan computes obeys the rules. -/
theorem scanned_scan (lines : List Text) : Scanned lines (scan 0 lines) := by
  induction hn : lines.length using Nat.strongRecOn generalizing lines with
  | ind n ih =>
    cases lines with
    | nil => exact .nil
    | cons first rest =>
      have hshort (k : Nat) : (rest.drop k).length < n := by
        rw [← hn, List.length_drop, List.length_cons]
        omega
      rw [scan]
      cases hopen : opened? first rest with
      | none => exact .other (opened?_eq_none_iff_opensNothing.mp hopen) (ih _ (hshort 0) rest rfl)
      | some c =>
        simp only [scan_eq_drop c.lineCount]
        obtain ⟨header, hread, hkind⟩ := opened?_eq_some_iff.mp hopen
        obtain ⟨l, rfl, rfl⟩ := Header.read?_eq_some_iff.mp hread
        rcases hkind with hwith | ⟨hnone, hwithout⟩
        · obtain ⟨_, source, _, more, near, caretPrefix, rfl, hnear, hcaret, rfl⟩ :=
            withNear?_eq_some_iff.mp hwith
          obtain ⟨hne, rfl⟩ := near?_eq_some_iff.mp hnear
          obtain ⟨hblank, after, rfl⟩ := caretPrefix?_eq_some_iff.mp hcaret
          exact .withContext hne hblank (ih _ (hshort 3) more rfl)
        · obtain ⟨source, _, more, caretPrefix, rfl, hcaret, rfl⟩ :=
            withoutNear?_eq_some_iff.mp hwithout
          obtain ⟨hblank, after, rfl⟩ := caretPrefix?_eq_some_iff.mp hcaret
          have hsource := withNear?_eq_none_iff.mp hnone
          exact .withoutContext (by simpa using hsource) hblank (ih _ (hshort 2) more rfl)

/-- **The rules allow what the scan computes and nothing else.** -/
theorem scanned_iff {lines : List Text} {cs : List Candidate} :
    Scanned lines cs ↔ cs = scan 0 lines := by
  constructor
  · intro h
    induction h with
    | nil => rfl
    | withContext hne hblank _ ih =>
      rw [scan, opened?_withContext _ hne _ hblank, ih]
      simp only [scan_eq_drop (lineCount _)]
      rfl
    | withoutContext hsource hblank _ ih =>
      rw [scan, opened?_withoutContext _ hblank _ hsource, ih]
      simp only [scan_eq_drop (lineCount _)]
      rfl
    | other hnothing _ ih =>
      rw [scan, opened?_eq_none_iff_opensNothing.mpr hnothing, ih]
  · intro h
    subst h
    exact scanned_scan lines

end PascalLint
