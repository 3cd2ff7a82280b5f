import LogShipper.Text.Utf8

/-!
# Percent encoding

A component of an URL keeps the characters that are safe in it; of any other code point the bytes
of its UTF-8 form are written as a percent sign and two upper-case hexadecimal digits.  The percent
sign is safe everywhere, so what is encoded already stays.
-/

namespace LogShipper.Url

/-- Letters, digits and the four marks that are never encoded. -/
def isUnreserved (c : Char) : Bool :=
  c.isAlphanum || c = '-' || c = '.' || c = '_' || c = '~'

/-- Printable ASCII without the given characters. -/
def isPrintableExcept (unsafeChars : String) (c : Char) : Bool :=
  0x20 ≤ c.toNat && c.toNat < 0x7F && !(unsafeChars.toList.contains c)

def isUserinfoSafe : Char → Bool :=
  isPrintableExcept " \"#<>?\x60\x7b\x7d/;=@[\\]^|"

def isPathSafe : Char → Bool :=
  isPrintableExcept " \"#<>?\x60\x7b\x7d"

def isQuerySafe : Char → Bool :=
  isPrintableExcept " \"#<>"

def isFragmentSafe : Char → Bool :=
  isPrintableExcept " \"<>\x60"

/-- What a host name may hold beside the unreserved characters. -/
def isHostSafe (c : Char) : Bool :=
  isUnreserved c || "!$&'()*+,;=\"\x60\x7b\x7d%|\\".toList.contains c

/-- A byte as a percent sign and two digits. -/
def percentByte (b : UInt8) : Text :=
  .char '%' :: Text.hex true 2 b.toNat

/-- Keeps a safe character and encodes any other. -/
def percentChar (isSafe : Char → Bool) (c : Char) : Text :=
  if isSafe c then [.char c] else (Utf8.encodeChar c).flatMap percentByte

/-- Encodes a component.  A surrogate cannot be encoded; each is a text of its own in the fault. -/
def percentEncode (isSafe : Char → Bool) : Text → Except Utf8.EncodeFault Text
  | [] => .ok []
  | .char c :: rest => (percentEncode isSafe rest).map (percentChar isSafe c ++ ·)
  | .surrogate s :: _ => .error ⟨0, s, 1⟩

end LogShipper.Url
