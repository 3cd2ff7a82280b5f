import LogShipper.Text.CodePoint

/-!
# Hexadecimal numbers of fixed width
-/

namespace LogShipper.Text

/-- The digit of a value below sixteen. -/
def hexDigit (upper : Bool) (value : Nat) : Char :=
  if value < 10 then Char.ofNat ('0'.toNat + value)
  else Char.ofNat ((if upper then 'A' else 'a').toNat + (value - 10))

/-- The last digits of a number, as many as `width` says. -/
def hex (upper : Bool) : (width : Nat) → Nat → Text
  | 0, _ => []
  | width + 1, n => hex upper width (n / 16) ++ [.char (hexDigit upper (n % 16))]

@[simp] theorem length_hex (upper : Bool) (width n : Nat) : (hex upper width n).length = width := by
  induction width generalizing n with
  | zero => rfl
  | succ width ih => simp [hex, ih]

end LogShipper.Text
