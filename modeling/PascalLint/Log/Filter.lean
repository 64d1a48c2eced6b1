import PascalLint.Log.Basic
import PascalLint.Text.WhiteSpace

/-! Which entries of the log are written.

A filter is a list of directives separated by commas: a level for all sources, the beginning of a
source's name with a level, or such a beginning alone, which stands for the most detailed level.
For each entry the directive with the longest beginning that fits decides. -/
namespace PascalLint.Log

/-- What is written of the sources whose names begin in some way. -/
structure Directive where
  beginning : Text
  /-- The detail of the last level that is written; zero writes nothing. -/
  detail : Nat
deriving DecidableEq

abbrev Filter := List Directive

namespace Filter

def mostDetailed : Nat := Level.trace.detail

/-- The detail that a level's name stands for, in either case. -/
def detail? (name : Text) : Option Nat :=
  let name := name.map Char.toUpper
  if name = "OFF".toList then some 0
  else ([Level.error, .warn, .info, .debug, .trace].find? (·.name = name)).map Level.detail

/-- A directive. One that cannot be read is left out. -/
def directive? (written : Text) : Option Directive :=
  match Text.pieces (· == '=') (Text.trim written) with
  | [[]] => none
  | [one] => match detail? one with
    | some detail => some ⟨[], detail⟩
    | none => some ⟨one, mostDetailed⟩
  | [beginning, level] =>
    let level := Text.trim level
    if level.isEmpty then some ⟨beginning, mostDetailed⟩
    else (detail? level).map fun detail => ⟨beginning, detail⟩
  | _ => none

/-- The filter that a text stands for. Without directives, errors are written. -/
def parse (written : Text) : Filter :=
  let directives := (Text.pieces (· == ',') (written.takeWhile (· != '/'))).filterMap directive?
  if directives.isEmpty then [⟨[], Level.error.detail⟩] else directives

/-- The directive for a source: among those that fit, the last with the longest beginning. -/
def directiveFor (f : Filter) (source : Source) : Option Directive :=
  (f.filter (·.beginning.isPrefixOf source.name)).foldl (fun best d => match best with
    | none => some d
    | some b => if d.beginning.length < b.beginning.length then some b else some d) none

def admits (f : Filter) (e : Entry) : Bool :=
  match f.directiveFor e.source with
  | none => false
  | some d => e.level.detail ≤ d.detail

/-- The entries that a filter admits, each as it is written, on lines of their own. -/
def render (f : Filter) (entries : List Entry) : Text :=
  Text.unlines ((entries.filter f.admits).map Entry.render)

end Filter

end PascalLint.Log
