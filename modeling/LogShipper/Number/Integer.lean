import LogShipper.Text.CodePoint

/-!
# Integers as decimal text

Integers are of any size, but only those of at most 4300 digits are written or read.
-/

namespace LogShipper

/-- Why an integer cannot pass between value and text: it has too many digits to be written, or
its numeral has (with their number) to be read. -/
inductive Oversized where
  | written
  | read (digits : Nat)
  deriving DecidableEq, Repr

namespace Integer

def maxDigits : Nat := 4300

/-- The decimal text of an integer. -/
def toText (n : Int) : Text :=
  Text.ofChars ((if n < 0 then ['-'] else []) ++ Nat.toDigits 10 n.natAbs)

/-- Whether an integer has more digits than are written. -/
def isOversized (n : Int) : Bool :=
  Nat.pow 10 maxDigits ≤ n.natAbs

/-- The decimal text of an integer that is not too long for one. -/
def write (n : Int) : Except Oversized Text :=
  if isOversized n then .error .written else .ok (toText n)

end Integer

namespace Oversized

def message : Oversized → Text
  | .written => "Exceeds the limit (4300 digits) for integer string conversion; " ++
      "use sys.set_int_max_str_digits() to increase the limit"
  | .read digits => "Exceeds the limit (4300 digits) for integer string conversion: value has " ++
      Integer.toText digits ++
      " digits; use sys.set_int_max_str_digits() to increase the limit"

end Oversized

end LogShipper
