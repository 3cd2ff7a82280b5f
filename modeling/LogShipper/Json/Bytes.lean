import LogShipper.Json.Reader
import LogShipper.Text.Utf8
import LogShipper.Text.WideUnits

/-!
# JSON in bytes

A body arrives as bytes.  A byte order mark tells its encoding; without one the zero bytes among
the first four, or of two bytes, do, because a JSON text begins with ASCII.  Anything else is
UTF-8.  Encoded surrogates are let through.
-/

namespace LogShipper.Json

/-- The encoding of some bytes, and how many bytes its mark takes. -/
def detectEncoding : Bytes → Encoding × Nat
  | 0x00 :: 0x00 :: 0xFE :: 0xFF :: _ => (.utf32 true, 4)
  | 0xFF :: 0xFE :: 0x00 :: 0x00 :: _ => (.utf32 false, 4)
  | 0xFE :: 0xFF :: _ => (.utf16 true, 2)
  | 0xFF :: 0xFE :: _ => (.utf16 false, 2)
  | 0xEF :: 0xBB :: 0xBF :: _ => (.utf8, 3)
  | b₀ :: b₁ :: b₂ :: b₃ :: _ =>
    if b₀ = 0 then if b₁ = 0 then (.utf32 true, 0) else (.utf16 true, 0)
    else if b₁ = 0 then if b₂ = 0 ∧ b₃ = 0 then (.utf32 false, 0) else (.utf16 false, 0)
    else (.utf8, 0)
  | [b₀, b₁] =>
    if b₀ = 0 then (.utf16 true, 0) else if b₁ = 0 then (.utf16 false, 0) else (.utf8, 0)
  | _ => (.utf8, 0)

/-- The text of bytes in the encoding that they show.  In UTF-8 positions count from after the
mark. -/
def decodeBytes (bytes : Bytes) : Except DecodeFault Text :=
  match detectEncoding bytes with
  | (.utf8, mark) => Utf8.decodeLenient (bytes.drop mark)
  | (.utf16 bigEndian, mark) => Utf16.decode bigEndian mark (bytes.drop mark)
  | (.utf32 bigEndian, mark) => Utf32.decode bigEndian mark (bytes.drop mark)

/-- Why bytes are no JSON. -/
inductive BytesFault where
  | undecodable (fault : DecodeFault)
  | unreadable (fault : ReadFault)
  deriving DecidableEq, Repr

def BytesFault.message : BytesFault → Text
  | .undecodable fault => fault.message
  | .unreadable fault => fault.message

/-- Reads a JSON text in bytes. -/
def readBytes (bytes : Bytes) : Except BytesFault Json :=
  match decodeBytes bytes with
  | .error fault => .error (.undecodable fault)
  | .ok t =>
    match read t with
    | .error fault => .error (.unreadable fault)
    | .ok value => .ok value

end LogShipper.Json
