import PascalLint.Text.Quoted
import PascalLint.Text.Utf8

/-! Diagnostic blocks, the pieces in which the compiler prints its messages.

```
   12  104 Undeclared identifier
                        near "fooo"
  x := fooo + 1;
          ^
```

A header line holds the line number, the code and the message. A line of context may follow,
indented by exactly 24 blanks. Then come the source line and a caret under the end of the
offending token. -/
namespace PascalLint

/-- One block as the compiler printed it. Its lines may end in a carriage return. -/
structure Block where
  line : Nat
  code : Text
  message : Text
  near : Option Text
  source : Text
  /-- The blanks in front of the caret. -/
  caretPrefix : Text
deriving DecidableEq

namespace Block

/-- The column of the caret, which is the end of the offending token. -/
def caretColumn (b : Block) : Nat := Utf8.byteLength b.caretPrefix

/-- The block as it is shown in the log. -/
def describe (b : Block) : Text :=
  let near := match b.near with
    | none => "None".toList
    | some near => "Some(".toList ++ Text.quoted near ++ [')']
  "RawBlock \x7b line: ".toList ++ Text.ofNat b.line ++
    ", warning_code: ".toList ++ Text.quoted b.code ++
    ", message: ".toList ++ Text.quoted b.message ++
    ", near: ".toList ++ near ++
    ", error_line: ".toList ++ Text.quoted b.source ++
    ", caret_prefix: ".toList ++ Text.quoted b.caretPrefix ++ " \x7d".toList

end Block

end PascalLint
