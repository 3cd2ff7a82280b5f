import LogShipper.Number.Integer
import LogShipper.Text.Hexadecimal

/-!
# Faults in encoded text

Bytes that are no text in an encoding are refused at a place: the position of the first bad byte,
the bad bytes, and why they are bad.
-/

namespace LogShipper

abbrev Bytes := List UInt8

/-- The encodings in which text arrives. -/
inductive Encoding where
  | utf8
  | utf16 (bigEndian : Bool)
  | utf32 (bigEndian : Bool)
  deriving DecidableEq, Repr

def Encoding.name : Encoding → Text
  | .utf8 => "utf-8"
  | .utf16 bigEndian => if bigEndian then "utf-16-be" else "utf-16-le"
  | .utf32 bigEndian => if bigEndian then "utf-32-be" else "utf-32-le"

inductive DecodeReason where
  | startByte
  | continuationByte
  | endOfData
  | truncated
  | range
  deriving DecidableEq, Repr

def DecodeReason.message : DecodeReason → Text
  | .startByte => "invalid start byte"
  | .continuationByte => "invalid continuation byte"
  | .endOfData => "unexpected end of data"
  | .truncated => "truncated data"
  | .range => "code point not in range(0x110000)"

/-- A place where bytes are no text. -/
structure DecodeFault where
  encoding : Encoding
  position : Nat
  bytes : Bytes
  reason : DecodeReason
  deriving DecidableEq, Repr

namespace DecodeFault

/-- One bad byte is shown with its value, more of them by their positions. -/
def place (fault : DecodeFault) : Text :=
  match fault.bytes with
  | [b] => "byte 0x" ++ Text.hex false 2 b.toNat ++ " in position " ++
      Integer.toText fault.position
  | bytes => "bytes in position " ++ Integer.toText fault.position ++ "-" ++
      Integer.toText (fault.position + bytes.length - 1)

def message (fault : DecodeFault) : Text :=
  "'" ++ fault.encoding.name ++ "' codec can't decode " ++ fault.place ++ ": " ++
    fault.reason.message

end DecodeFault

end LogShipper
