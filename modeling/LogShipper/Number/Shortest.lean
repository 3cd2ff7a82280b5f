import LogShipper.Number.Binary64
import LogShipper.Text.CodePoint

/-!
# The shortest decimal that reads back

A finite number is written with the fewest significant digits that round to it, and of the
decimals with so many digits the nearest one.  The rationals that round to the magnitude of a rank
form an interval that ends half-way to its two neighbours; the ends belong to it when the rank is
even.  If an interval holds a decimal with a given number of digits, it holds one of the two
neighbours of the magnitude among them, so only these two are tried.

The digits are written positionally while the decimal exponent is at least -4 and below 16, and
with an exponent of at least two digits otherwise; a positional form always has a point.
-/

namespace LogShipper.Binary64

/-- A decimal: an integer of significant digits times a power of ten. -/
structure Decimal where
  digits : Nat
  power : Int
  deriving DecidableEq, Repr

namespace Decimal

def toRat (d : Decimal) : Rat :=
  d.digits * (10 : Rat) ^ d.power

end Decimal

/-- Whether a rational rounds to the magnitude of a positive rank. -/
def roundsTo (rank : Nat) (q : Rat) : Bool :=
  let low := (magnitude (rank - 1) + magnitude rank) / 2
  let high := (magnitude rank + magnitude (rank + 1)) / 2
  if rank % 2 = 0 then low ≤ q && q ≤ high else low < q && q < high

/-- The exponent `e` for which the positive rational lies from `10 ^ e` up to `10 ^ (e + 1)`, found
from an estimate that is at most one off. -/
def floorLog10 (q : Rat) : Int :=
  let estimate : Int := (Nat.toDigits 10 q.num.natAbs).length - (Nat.toDigits 10 q.den).length
  if (10 : Rat) ^ estimate ≤ q then estimate else estimate - 1

/-- The decimal with the given number of digits that is nearest to the magnitude of a rank, if it
rounds to it. -/
def decimalOf? (rank : Nat) (digits : Nat) : Option Decimal :=
  let q := magnitude rank
  let power := floorLog10 q - (digits - 1 : Nat)
  let scaled := q / (10 : Rat) ^ power
  -- The two neighbours on the grid of this power; the upper one may have a digit more.
  let below := scaled.floor.toNat
  let lower : Decimal := ⟨below, power⟩
  let upper : Decimal := ⟨below + 1, power⟩
  let toLower := scaled - (below : Rat)
  let lowerNearer := toLower < 1 / 2 ∨ (toLower = 1 / 2 ∧ below % 2 = 0)
  let (near, far) := if lowerNearer then (lower, upper) else (upper, lower)
  if roundsTo rank near.toRat then some near
  else if roundsTo rank far.toRat then some far
  else none

/-- The decimal with the fewest digits, from `digits` on; seventeen always suffice. -/
def shortestFrom (rank : Nat) : (attempts digits : Nat) → Decimal
  | 0, digits => (decimalOf? rank digits).getD ⟨0, 0⟩
  | attempts + 1, digits =>
    match decimalOf? rank digits with
    | some d => d
    | none => shortestFrom rank attempts (digits + 1)

/-- The shortest decimal that rounds to the magnitude of a positive rank. -/
def shortest (rank : Nat) : Decimal :=
  shortestFrom rank 16 1

/-- The significant digits without zeros at the end, and the place of the decimal point counted
from their beginning. -/
def Decimal.layout (d : Decimal) : List Char × Int :=
  let all := Nat.toDigits 10 d.digits
  let kept := (all.reverse.dropWhile (· = '0')).reverse
  (kept, all.length + d.power)

/-- Writes digits whose decimal point stands after `point` of them. -/
def writeDigits (digits : List Char) (point : Int) : List Char :=
  if point ≤ -4 ∨ 16 < point then
    let exponent := point - 1
    let sign := if exponent < 0 then '-' else '+'
    let power := Nat.toDigits 10 exponent.natAbs
    let power := if power.length < 2 then '0' :: power else power
    let fraction := match digits.tail with
      | [] => []
      | tail => '.' :: tail
    digits.take 1 ++ fraction ++ ['e', sign] ++ power
  else if point ≤ 0 then '0' :: '.' :: List.replicate (-point).toNat '0' ++ digits
  else
    let whole := digits.take point.toNat
    let fraction := digits.drop point.toNat
    whole ++ List.replicate (point.toNat - whole.length) '0' ++
      '.' :: (if fraction.isEmpty then ['0'] else fraction)

def writeMagnitude (rank : Nat) : List Char :=
  if rank = 0 then "0.0".toList
  else
    let (digits, point) := (shortest rank).layout
    writeDigits digits point

/-- The text of a number: shortest digits, or a word for what is not finite. -/
def toText : Binary64 → Text
  | .finite negative rank =>
    Text.ofChars ((if negative then ['-'] else []) ++ writeMagnitude rank)
  | .infinite negative => if negative then "-inf" else "inf"
  | .nan => "nan"

end LogShipper.Binary64
