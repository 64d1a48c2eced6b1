import PascalLint.Text.Basic

/-! Patterns of text.

A pattern can match in more than one way. The ways are listed in order of preference
(`matchesAt`): a run of characters is as long as possible before it is shorter, and an optional
part is present before it is left out. A search (`search`) goes through a text from the left,
takes the preferred match at the first place that has one, and goes on after that match. -/
namespace PascalLint

/-- A pattern whose named parts can be looked up in a match. -/
inductive Pattern (Name : Type) where
  /-- The start of the text, or the place after a line feed. -/
  | lineStart
  | char (c : Char)
  /-- A run of characters of a class, with at least so many of them. -/
  | run (least : Nat) (isMember : Char → Bool)
  | sequence (first second : Pattern Name)
  | optional (inner : Pattern Name)
  | named (name : Name) (inner : Pattern Name)

/-- One way in which a pattern matches. -/
structure Match (Name : Type) where
  matched : Text
  /-- What stands after the match. -/
  ahead : Text
  /-- The named parts, in the order in which they begin. -/
  parts : List (Name × Text)
deriving DecidableEq

namespace Pattern

variable {Name : Type}

def nothing : Pattern Name := run 0 fun _ => false

/-- Patterns one after the other. -/
def all (patterns : List (Pattern Name)) : Pattern Name := patterns.foldr sequence nothing

/-- The character in front of what follows a match. -/
def lastOf (before : Option Char) (matched : Text) : Option Char :=
  matched.getLast?.or before

/-- The ways in which a pattern matches at a place, given by the character before it and the text
after it, in order of preference. -/
def matchesAt : Pattern Name → Option Char → Text → List (Match Name)
  | lineStart, before, ahead =>
    if before = none ∨ before = some '\n' then [⟨[], ahead, []⟩] else []
  | char _, _, [] => []
  | char c, _, first :: rest => if first = c then [⟨[first], rest, []⟩] else []
  | run least isMember, _, ahead =>
    let longest := (ahead.takeWhile isMember).length
    (List.range (longest + 1 - least)).map fun i =>
      ⟨ahead.take (longest - i), ahead.drop (longest - i), []⟩
  | sequence first second, before, ahead =>
    (matchesAt first before ahead).flatMap fun m =>
      (matchesAt second (lastOf before m.matched) m.ahead).map fun n =>
        ⟨m.matched ++ n.matched, n.ahead, m.parts ++ n.parts⟩
  | optional inner, before, ahead => matchesAt inner before ahead ++ [⟨[], ahead, []⟩]
  | named name inner, before, ahead =>
    (matchesAt inner before ahead).map fun m => { m with parts := (name, m.matched) :: m.parts }

/-- The matches that a search finds, after passing over the first few characters. A match that is
empty is not looked for at the end of the text. -/
def searchFrom (p : Pattern Name) : (passed : Nat) → Option Char → Text → List (Match Name)
  | _, _, [] => []
  | passed + 1, _, c :: rest => searchFrom p passed (some c) rest
  | 0, before, c :: rest =>
    match (matchesAt p before (c :: rest)).head? with
    | some m => m :: searchFrom p (m.matched.length - 1) (some c) rest
    | none => searchFrom p 0 (some c) rest

def search (p : Pattern Name) (text : Text) : List (Match Name) := searchFrom p 0 none text

end Pattern

/-- The text of a named part, if the match has it. -/
def Match.part? {Name : Type} [DecidableEq Name] (m : Match Name) (name : Name) : Option Text :=
  (m.parts.find? (·.1 = name)).map (·.2)

end PascalLint
