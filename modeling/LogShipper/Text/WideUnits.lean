import LogShipper.Text.DecodeFault

/-!
# UTF-16 and UTF-32

Surrogates that stand alone are read as such.  Bytes that do not fill the last unit are a fault,
and in UTF-32 so is a number past the last code point.
-/

namespace LogShipper

/-- The number that bytes stand for. -/
def numberOfBytes (bigEndian : Bool) (bytes : Bytes) : Nat :=
  (if bigEndian then bytes else bytes.reverse).foldl (fun n b => 0x100 * n + b.toNat) 0

namespace Utf16

/-- The units of the bytes, the first of which has the given position. -/
def units (bigEndian : Bool) (position : Nat) : Bytes → Except DecodeFault (List Nat)
  | [] => .ok []
  | [b] => .error ⟨.utf16 bigEndian, position, [b], .truncated⟩
  | b₀ :: b₁ :: rest => do
    return numberOfBytes bigEndian [b₀, b₁] :: (← units bigEndian (position + 2) rest)

/-- The text of units: a high surrogate joins with a low one after it. -/
def ofUnits : List Nat → Text
  | [] => []
  | high :: low :: rest =>
    if 0xD800 ≤ high ∧ high < 0xDC00 ∧ 0xDC00 ≤ low ∧ low < 0xE000 then
      .ofNat (0x10000 + (high - 0xD800) * 0x400 + (low - 0xDC00)) :: ofUnits rest
    else .ofNat high :: ofUnits (low :: rest)
  | [unit] => [.ofNat unit]

def decode (bigEndian : Bool) (position : Nat) (bytes : Bytes) : Except DecodeFault Text :=
  (units bigEndian position bytes).map ofUnits

end Utf16

namespace Utf32

/-- The text of the bytes, the first of which has the given position. -/
def decode (bigEndian : Bool) (position : Nat) : Bytes → Except DecodeFault Text
  | [] => .ok []
  | b₀ :: b₁ :: b₂ :: b₃ :: rest =>
    let n := numberOfBytes bigEndian [b₀, b₁, b₂, b₃]
    if 0x110000 ≤ n then .error ⟨.utf32 bigEndian, position, [b₀, b₁, b₂, b₃], .range⟩
    else do
      return .ofNat n :: (← decode bigEndian (position + 4) rest)
  | bytes => .error ⟨.utf32 bigEndian, position, bytes, .truncated⟩

end Utf32

end LogShipper
