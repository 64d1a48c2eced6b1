import PascalLint.Proofs.IgnoreSet.Listed

/-! What is read from a list of codes.

A code stands in a list between separators or the ends of the list (`IsSegment`), and what is read from
any text is what stands in it so (`mem_parse_iff`). Two lists with a separator between them are read as
the two together (`parse_append_separator`). A set whose members are codes can be written as a list, with
any separators (`lists_separated`), and is read back from it (`parse_of_lists`). -/
namespace PascalLint.IgnoreSet

/-- The code stands in the text, with a separator or an end of the text on either side. -/
def IsSegment (text code : Text) : Prop :=
  IsCode code ∧ ∃ before after, text = before ++ code ++ after ∧
    (∀ c ∈ before.getLast?, isSeparator c = true) ∧ ∀ c ∈ after.head?, isSeparator c = true

/-- The members of both sets. -/
def union (s t : IgnoreSet) : IgnoreSet := s.insertAll t.codes

@[simp] theorem mem_union {s t : IgnoreSet} {code : Text} :
    code ∈ s.union t ↔ code ∈ s ∨ code ∈ t := by
  rw [union, mem_insertAll, or_comm]
  rfl

/-- Codes one after the other, each with the separators behind it, after separators in front. -/
def separated (front : Text) (entries : List (Text × Text)) : Text :=
  front ++ entries.flatMap fun entry => entry.1 ++ entry.2

section Segments
variable {text code gap rest : Text} {codes : List Text} {c : Char}

/-! ### Segments -/

/-- A segment of what follows a code and is separated from it is one of the whole. -/
theorem IsSegment.append (h : IsSegment rest code) (gap other : Text)
    (hrest : ∀ c ∈ rest.head?, isSeparator c = true) : IsSegment (gap ++ other ++ rest) code := by
  obtain ⟨hcode, before, after, rfl, hbefore, hafter⟩ := h
  refine ⟨hcode, gap ++ other ++ before, after, by simp only [List.append_assoc], ?_, hafter⟩
  cases before with
  | nil =>
    -- what follows would begin with the code, but it begins with a separator
    obtain ⟨first, more, hfirst⟩ := List.exists_cons_of_ne_nil hcode.1
    have hseparator : isSeparator first = true := hrest first (by simp [hfirst])
    rw [hcode.2 first (by simp [hfirst])] at hseparator
    cases hseparator
  | cons d before =>
    rw [List.getLast?_append_of_ne_nil _ (List.cons_ne_nil d before)]
    exact hbefore

/-- What a text lists are its segments. -/
theorem Lists.isSegment (h : Lists text codes) : ∀ code ∈ codes, IsSegment text code := by
  induction h with
  | none => intro code hcode; cases hcode
  | @code gap first rest codes hgap hfirst hrest _ ih =>
    refine List.forall_mem_cons.mpr ⟨⟨hfirst, gap, rest, rfl, ?_, hrest⟩, fun code hcode => ?_⟩
    · exact fun c hc => hgap c (List.mem_of_getLast? hc)
    · exact (ih code hcode).append gap first hrest

theorem mem_listed_append_of_head? (hcode : IsCode code)
    (hrest : ∀ c ∈ rest.head?, isSeparator c = true) : code ∈ listed (code ++ rest) := by
  cases rest with
  | nil => simp [listed_of_isCode hcode]
  | cons c rest => simp [listed_append_separator (hrest c rfl), listed_of_isCode hcode]

/-- A segment is read. -/
theorem IsSegment.mem_listed (h : IsSegment text code) : code ∈ listed text := by
  obtain ⟨hcode, before, after, rfl, hbefore, hafter⟩ := h
  have hmem : code ∈ listed (code ++ after) := mem_listed_append_of_head? hcode hafter
  rw [List.append_assoc]
  rcases List.eq_nil_or_concat before with rfl | ⟨before, c, rfl⟩
  · exact hmem
  · have hc : isSeparator c = true := hbefore c (by simp)
    rw [List.concat_eq_append, List.append_assoc, List.singleton_append, listed_append_separator hc]
    exact List.mem_append_right _ hmem

theorem mem_parse_iff : code ∈ parse text ↔ IsSegment text code := by
  have hlists : Lists text (listed text) := lists_iff.mpr rfl
  rw [parse, mem_ofList]
  exact ⟨hlists.isSegment code, IsSegment.mem_listed⟩

/-! ### Lists in parts -/

theorem parse_append_separator (hc : isSeparator c = true) (a b : Text) :
    parse (a ++ c :: b) = (parse a).union (parse b) := by
  apply IgnoreSet.ext
  intro code
  simp only [mem_union, parse, mem_ofList, listed_append_separator hc, List.mem_append]

/-- Codes with separators between them are listed in their order. -/
theorem lists_separated {entries : List (Text × Text)} {front : Text}
    (hfront : ∀ c ∈ front, isSeparator c = true) (hcode : ∀ entry ∈ entries, IsCode entry.1)
    (hgap : ∀ entry ∈ entries, ∀ c ∈ entry.2, isSeparator c = true)
    (hbetween : ∀ entry ∈ entries.dropLast, entry.2 ≠ []) :
    Lists (separated front entries) (entries.map Prod.fst) := by
  induction entries generalizing front with
  | nil => exact .none (by simpa [separated] using hfront)
  | cons entry entries ih =>
    obtain ⟨code, gap⟩ := entry
    rw [List.forall_mem_cons] at hcode hgap
    have hcut : separated front ((code, gap) :: entries) = front ++ code ++ separated gap entries := by
      simp [separated]
    rw [hcut]
    cases entries with
    | nil =>
      have hend : ∀ c ∈ (separated gap []).head?, isSeparator c = true := fun c hc =>
        hgap.1 c (by simpa [separated] using List.mem_of_head? hc)
      exact .code hfront hcode.1 hend (ih hgap.1 hcode.2 hgap.2 (List.forall_mem_nil _))
    | cons next entries =>
      rw [List.dropLast_cons_cons, List.forall_mem_cons] at hbetween
      have hnext : ∀ c ∈ (separated gap (next :: entries)).head?, isSeparator c = true :=
        Text.forall_head?_append hbetween.1 hgap.1
      exact .code hfront hcode.1 hnext (ih hgap.1 hcode.2 hgap.2 hbetween.2)

/-- A set is read back from a list of its codes. -/
theorem parse_of_lists {s : IgnoreSet} (h : Lists text s.codes) : parse text = s := by
  apply IgnoreSet.ext
  intro code
  rw [h.mem_parse_iff, mem_def]

end Segments

/-! ### Reading and writing lists -/

/-- **What is read from a text is what stands in it between separators.** The codes of two texts with a
separator between them are the codes of both. A set of codes that is written as a list, with separators
between any two codes and perhaps around them all, is read back. -/
theorem parse_reads_segments :
    (∀ text code, code ∈ parse text ↔ IsSegment text code) ∧
    (∀ a b c, isSeparator c = true → parse (a ++ c :: b) = (parse a).union (parse b)) ∧
    ∀ (s : IgnoreSet) (front : Text) (entries : List (Text × Text)),
      (∀ code ∈ s, IsCode code) → entries.map Prod.fst = s.codes →
      (∀ c ∈ front, isSeparator c = true) →
      (∀ entry ∈ entries, ∀ c ∈ entry.2, isSeparator c = true) →
      (∀ entry ∈ entries.dropLast, entry.2 ≠ []) →
      parse (separated front entries) = s := by
  refine ⟨fun _ _ => mem_parse_iff, fun a b c hc => parse_append_separator hc a b, ?_⟩
  intro s front entries hs hentries hfront hgap hbetween
  have hcode : ∀ entry ∈ entries, IsCode entry.1 := fun entry hentry =>
    hs entry.1 (by rw [mem_def, ← hentries]; exact List.mem_map_of_mem hentry)
  apply parse_of_lists
  rw [← hentries]
  exact lists_separated hfront hcode hgap hbetween

/-- Two codes in the order of their set, with a tab before them and a comma and a no-break space
between them. -/
theorem parse_reads_segments_two_codes :
    let s := ofList ["57".toList, "282".toList]
    let entries := [("282".toList, [',', '\u00a0']), ("57".toList, [])]
    isSeparator '\u00a0' = true ∧ (∀ code ∈ s, IsCode code) ∧
      IsSegment (separated ['\t'] entries) "57".toList ∧ parse (separated ['\t'] entries) = s ∧
      parse "57\u00a0282,".toList = (parse "57".toList).union (parse "282,".toList) := by
  intro s entries
  obtain ⟨hsegments, hparts, hwritten⟩ := parse_reads_segments
  have hcode : ∀ code ∈ s, IsCode code := by
    intro code hmem
    have hmem : code ∈ ["57".toList, "282".toList] := mem_ofList.mp hmem
    simp only [List.mem_cons, List.not_mem_nil, or_false] at hmem
    rcases hmem with rfl | rfl <;> exact ⟨by decide, by decide⟩
  have hread : parse (separated ['\t'] entries) = s :=
    hwritten s ['\t'] entries hcode (by decide) (by decide) (by decide) (by decide)
  have hmem : "57".toList ∈ parse (separated ['\t'] entries) := by
    rw [hread]
    exact mem_ofList.mpr (by decide)
  exact ⟨by decide, hcode, (hsegments _ _).mp hmem, hread,
    hparts "57".toList "282,".toList '\u00a0' (by decide)⟩

end PascalLint.IgnoreSet
