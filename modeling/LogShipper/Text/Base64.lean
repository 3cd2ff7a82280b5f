import LogShipper.Text.Utf8

/-!
# Base64

Four digits of base 64 stand for three bytes.  A last group may be short, and then signs of padding
fill it up; everything else that is no digit is passed over, also padding where none belongs.
-/

namespace LogShipper.Base64

/-- The value of a digit of base 64. -/
def digit? : CodePoint → Option Nat
  | .char c =>
    if 'A' ≤ c ∧ c ≤ 'Z' then some (c.toNat - 'A'.toNat)
    else if 'a' ≤ c ∧ c ≤ 'z' then some (c.toNat - 'a'.toNat + 26)
    else if '0' ≤ c ∧ c ≤ '9' then some (c.toNat - '0'.toNat + 52)
    else if c = '+' then some 62
    else if c = '/' then some 63
    else none
  | .surrogate _ => none

/-- The bytes of what follows in a group: `place` digits of it have been read, whose bits that are
not yet in a byte are `left`, and behind the last digit `pads` signs of padding. -/
def decodeFrom (place pads left : Nat) : Text → Option Bytes
  | [] => if place = 0 then some [] else none
  | c :: rest =>
    if c = '=' then
      if place < 2 then decodeFrom place pads left rest
      else if 4 ≤ place + (pads + 1) then some []
      else decodeFrom place (pads + 1) left rest
    else
      match digit? c with
      | none => decodeFrom place pads left rest
      | some d =>
        if place = 0 then decodeFrom 1 0 d rest
        else if place = 1 then
          (decodeFrom 2 0 (d % 16) rest).map ((left * 4 + d / 16).toUInt8 :: ·)
        else if place = 2 then
          (decodeFrom 3 0 (d % 4) rest).map ((left * 16 + d / 4).toUInt8 :: ·)
        else (decodeFrom 0 0 0 rest).map ((left * 64 + d).toUInt8 :: ·)

/-- The bytes that a text stands for. -/
def decode? (t : Text) : Option Bytes :=
  decodeFrom 0 0 0 t

end LogShipper.Base64
