import LogShipper.Yaml.Document
import LogShipper.Yaml.Token.Lexer

/-!
# Reading YAML

`Yaml.read` gives the one document in a text, or that of a single null if there is none.
-/

namespace LogShipper.Yaml

/-- Whether a code point may stand in a text at all. -/
def isPermitted (c : CodePoint) : Bool :=
  let n := c.value
  n == 0x09 || n == 0x0A || n == 0x0D || (0x20 ≤ n && n ≤ 0x7E) || n == 0x85 ||
    (0xA0 ≤ n && n ≤ 0xD7FF) || (0xE000 ≤ n && n ≤ 0xFFFD) || 0x10000 ≤ n

/-- The document in a text. -/
def read (t : Text) : Except Fault Document := do
  if !t.all isPermitted then throw .malformed
  match ← Graph.ofTokens? (.ofText t) with
  | none => return .null
  | some graph => Document.ofGraph graph

end LogShipper.Yaml
