import PascalLint.Text.Order
import PascalLint.Text.WhiteSpace

/-! Sets of warning codes to mute.

A set is kept as the strictly increasing list of its members, so that it has one form only: two
sets with the same members are equal (`ext`). -/
namespace PascalLint

structure IgnoreSet where
  codes : List Text
  /-- Strictly increasing, hence without repetition. -/
  increasing : codes.Pairwise (Text.precedes · · = true)

namespace IgnoreSet

/-- The entry that stands for the code of a possibly unclosed comment. -/
def possibleUnclosedComment : Text := "possible-unclosed-comment".toList

/-- The compiler's code for a possibly unclosed comment. -/
def unclosedCommentCode : Text := "282".toList

instance : DecidableEq IgnoreSet := fun a b =>
  decidable_of_iff (a.codes = b.codes)
    ⟨fun h => by cases a; cases b; simp_all, fun h => congrArg codes h⟩

instance : Membership Text IgnoreSet := ⟨fun s code => code ∈ s.codes⟩

theorem mem_def {code : Text} {s : IgnoreSet} : code ∈ s ↔ code ∈ s.codes := Iff.rfl

def empty : IgnoreSet := ⟨[], List.Pairwise.nil⟩

/-- A code at its place in an increasing list. -/
def insertCode (code : Text) : List Text → List Text
  | [] => [code]
  | first :: rest =>
    if Text.precedes code first then code :: first :: rest
    else if code = first then first :: rest
    else first :: insertCode code rest

theorem mem_insertCode {code other : Text} {codes : List Text} :
    other ∈ insertCode code codes ↔ other = code ∨ other ∈ codes := by
  induction codes with
  | nil => simp [insertCode]
  | cons first rest ih =>
    rw [insertCode]
    split
    · simp
    · split
      · simp_all
      · simp only [List.mem_cons, ih]
        grind

theorem pairwise_insertCode {code : Text} {codes : List Text}
    (h : codes.Pairwise (Text.precedes · · = true)) :
    (insertCode code codes).Pairwise (Text.precedes · · = true) := by
  induction codes with
  | nil => simp [insertCode]
  | cons first rest ih =>
    rw [insertCode]
    rw [List.pairwise_cons] at h
    split
    · rename_i hlt
      refine List.pairwise_cons.mpr ⟨fun other hmem => ?_, List.pairwise_cons.mpr h⟩
      rcases List.mem_cons.mp hmem with rfl | hmem
      · exact hlt
      · exact Text.precedes_trans hlt (h.1 other hmem)
    · split
      · exact List.pairwise_cons.mpr h
      · rename_i hnlt hne
        refine List.pairwise_cons.mpr ⟨fun other hmem => ?_, ih h.2⟩
        rcases mem_insertCode.mp hmem with rfl | hmem
        · rcases Text.eq_or_precedes other first with heq | hlt | hgt
          · exact absurd heq hne
          · exact absurd hlt hnlt
          · exact hgt
        · exact h.1 other hmem

def insert (s : IgnoreSet) (code : Text) : IgnoreSet :=
  ⟨insertCode code s.codes, pairwise_insertCode s.increasing⟩

def insertAll (s : IgnoreSet) (codes : List Text) : IgnoreSet := codes.foldl insert s

def ofList (codes : List Text) : IgnoreSet := empty.insertAll codes

/-- The codes of a list that is separated by commas or white space. -/
def listed (list : Text) : List Text :=
  (Text.pieces (fun c => c == ',' || Text.isWhiteSpace c) list).filter (!·.isEmpty)

/-- The set that a list such as `57, 282` stands for. -/
def parse (list : Text) : IgnoreSet := ofList (listed list)

def contains (s : IgnoreSet) (code : Text) : Bool := s.codes.contains code

def size (s : IgnoreSet) : Nat := s.codes.length

def isEmpty (s : IgnoreSet) : Bool := s.codes.isEmpty

/-- Whether a warning with a code is muted. An empty code is never muted. -/
def suppresses (s : IgnoreSet) (code : Text) : Bool :=
  !code.isEmpty &&
    (s.contains code || (code == unclosedCommentCode && s.contains possibleUnclosedComment))

@[simp] theorem not_mem_empty {code : Text} : code ∉ empty := List.not_mem_nil

@[simp] theorem mem_insert {s : IgnoreSet} {code other : Text} :
    other ∈ s.insert code ↔ other = code ∨ other ∈ s :=
  mem_insertCode

@[simp] theorem mem_insertAll {s : IgnoreSet} {codes : List Text} {other : Text} :
    other ∈ s.insertAll codes ↔ other ∈ codes ∨ other ∈ s := by
  induction codes generalizing s with
  | nil => simp [insertAll]
  | cons code rest ih =>
    have h : s.insertAll (code :: rest) = (s.insert code).insertAll rest := rfl
    rw [h, ih, mem_insert, List.mem_cons]
    grind

@[simp] theorem mem_ofList {codes : List Text} {code : Text} :
    code ∈ ofList codes ↔ code ∈ codes := by
  simp [ofList]

theorem contains_iff {s : IgnoreSet} {code : Text} : s.contains code = true ↔ code ∈ s := by
  simp [contains, mem_def]

/-- Two increasing lists with the same members are the same list. -/
theorem eq_of_mem_iff {a b : List Text} (ha : a.Pairwise (Text.precedes · · = true))
    (hb : b.Pairwise (Text.precedes · · = true)) (h : ∀ code, code ∈ a ↔ code ∈ b) : a = b := by
  induction a generalizing b with
  | nil =>
    cases b with
    | nil => rfl
    | cons y b => exact absurd ((h y).2 List.mem_cons_self) List.not_mem_nil
  | cons x a ih =>
    cases b with
    | nil => exact absurd ((h x).1 List.mem_cons_self) List.not_mem_nil
    | cons y b =>
      rw [List.pairwise_cons] at ha hb
      have hxy : x = y := by
        rcases List.mem_cons.mp ((h x).1 List.mem_cons_self) with hx | hx
        · exact hx
        · rcases List.mem_cons.mp ((h y).2 List.mem_cons_self) with hy | hy
          · exact hy.symm
          · exact absurd (hb.1 x hx) (by simp [Text.precedes_asymm (ha.1 y hy)])
      subst hxy
      congr 1
      refine ih ha.2 hb.2 fun code => ⟨fun hm => ?_, fun hm => ?_⟩
      · rcases List.mem_cons.mp ((h code).1 (List.mem_cons_of_mem _ hm)) with rfl | hm'
        · exact absurd (ha.1 _ hm) (by simp [Text.precedes_irrefl])
        · exact hm'
      · rcases List.mem_cons.mp ((h code).2 (List.mem_cons_of_mem _ hm)) with rfl | hm'
        · exact absurd (hb.1 _ hm) (by simp [Text.precedes_irrefl])
        · exact hm'

/-- **A set is its members**: two sets with the same members are equal. -/
theorem ext {a b : IgnoreSet} (h : ∀ code, code ∈ a ↔ code ∈ b) : a = b := by
  cases a with
  | mk a ha =>
    cases b with
    | mk b hb =>
      have : a = b := eq_of_mem_iff ha hb h
      subst this
      rfl

end IgnoreSet

end PascalLint
