import LogShipper.Json.Value

/-!
# Writing JSON

The compact form: no blanks, members in order.  In a text only the quote, the backslash and the
controls below U+0020 are escaped, five of them with a letter.  Numbers that are not finite have
words.  A value is written unless some integer in it has too many digits.
-/

namespace LogShipper.Json

/-- A code point inside the quotes of a JSON text. -/
def escape (c : CodePoint) : Text :=
  if c = '"' then "\\\""
  else if c = '\\' then "\\\\"
  else if c = '\n' then "\\n"
  else if c = '\r' then "\\r"
  else if c = '\t' then "\\t"
  else if c = '\x0c' then "\\f"
  else if c = '\x08' then "\\b"
  else if c.value < 0x20 then "\\u" ++ Text.hex false 4 c.value
  else [c]

def writeText (t : Text) : Text :=
  .char '"' :: t.flatMap escape ++ [.char '"']

def writeFloat : Binary64 → Text
  | .infinite negative => if negative then "-Infinity" else "Infinity"
  | .nan => "NaN"
  | x => x.toText

mutual

/-- The compact form of a value. -/
def toText : Json → Text
  | .null => "null"
  | .bool b => if b then "true" else "false"
  | .int n => Integer.toText n
  | .float x => writeFloat x
  | .text t => writeText t
  | .array items => "[" ++ Text.joinWith "," (itemTexts items) ++ "]"
  | .object members => "\x7b" ++ Text.joinWith "," (memberTexts members) ++ "\x7d"

def itemTexts : List Json → List Text
  | [] => []
  | item :: items => toText item :: itemTexts items

def memberTexts : List (Text × Json) → List Text
  | [] => []
  | (name, value) :: members => (writeText name ++ ":" ++ toText value) :: memberTexts members

end

mutual

/-- Whether some integer in the value has too many digits to be written. -/
def hasOversized : Json → Bool
  | .int n => Integer.isOversized n
  | .array items => anyOversized items
  | .object members => anyMemberOversized members
  | _ => false

def anyOversized : List Json → Bool
  | [] => false
  | item :: items => hasOversized item || anyOversized items

def anyMemberOversized : List (Text × Json) → Bool
  | [] => false
  | (_, value) :: members => hasOversized value || anyMemberOversized members

end

/-- Writes a value. -/
def write (value : Json) : Except Oversized Text :=
  if hasOversized value then .error .written else .ok (toText value)

end LogShipper.Json
