import PascalLint.Block.Scan
import PascalLint.Column
import PascalLint.Diagnostic
import PascalLint.IgnoreSet

/-! From blocks to diagnostics.

A block's text is its message, with the context after it. A text that begins with `Warning:` is a
warning's; every other is an error's. Warnings that the user mutes are left out, errors never. -/
namespace PascalLint

namespace Block

/-- What the compiler puts in front of every warning. -/
def warningMark : Text := "Warning:".toList

/-- The message and the context, both without a carriage return at their end. -/
def text (b : Block) : Text :=
  match b.near with
  | none => Text.dropReturn b.message
  | some near => Text.dropReturn b.message ++ ": ".toList ++ Text.dropReturn near

def severity (b : Block) (ignore : IgnoreSet) : Severity :=
  if warningMark.isPrefixOf b.text then
    if ignore.suppresses b.code then .suppressed else .warning
  else .error

/-- The diagnostic for a block. Its column is the start of the offending identifier. -/
def diagnostic (b : Block) (ignore : IgnoreSet) : Diagnostic where
  line := b.line
  column := identifierStart (Text.dropReturn b.source) b.caretColumn
  severity := b.severity ignore
  text := b.text
  code := if warningMark.isPrefixOf b.text then b.code else []

end Block

/-- What becomes of a candidate. -/
inductive Verdict where
  /-- The line numeral is no count. -/
  | skipped (candidate : Candidate)
  /-- The diagnostic is a warning that the user has muted. -/
  | muted (block : Block) (diagnostic : Diagnostic)
  | reported (block : Block) (diagnostic : Diagnostic)
deriving DecidableEq

namespace Verdict

def of (ignore : IgnoreSet) (candidate : Candidate) : Verdict :=
  match candidate.block? with
  | none => skipped candidate
  | some block =>
    let diagnostic := block.diagnostic ignore
    if diagnostic.isSuppressed then muted block diagnostic else reported block diagnostic

def diagnostic? : Verdict → Option Diagnostic
  | reported _ diagnostic => some diagnostic
  | _ => none

def blockEntry (block : Block) : Log.Entry :=
  ⟨.trace, .blocks, "Diagnostic block: ".toList ++ block.describe⟩

def mutedEntry (d : Diagnostic) : Log.Entry :=
  ⟨.debug, .blocks, "Suppressed warning ".toList ++ d.code ++ " on line ".toList ++
    Text.ofNat d.line ++ ": ".toList ++ d.text⟩

/-- What is noted in the log about a candidate. -/
def log : Verdict → List Log.Entry
  | skipped candidate => [candidate.skipEntry]
  | muted block diagnostic => [blockEntry block, mutedEntry diagnostic]
  | reported block _ => [blockEntry block]

end Verdict

/-- What becomes of the candidates in a text, in order. -/
def verdicts (text : Text) (ignore : IgnoreSet) : List Verdict :=
  (Candidate.all text).map (Verdict.of ignore)

/-- The diagnostics that compiler output leads to, muted warnings left out. -/
def extract (text : Text) (ignore : IgnoreSet) : List Diagnostic :=
  (verdicts text ignore).filterMap Verdict.diagnostic?

/-- What is noted in the log when all diagnostics of a text are taken. -/
def extractLog (text : Text) (ignore : IgnoreSet) : List Log.Entry :=
  (verdicts text ignore).flatMap Verdict.log

end PascalLint
