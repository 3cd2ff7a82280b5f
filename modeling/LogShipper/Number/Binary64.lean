/-!
# Binary floating point of 64 bits

A finite number is given by its sign and its rank among the magnitudes: 0 is rank zero, and the
next larger magnitude has the next rank.  Ranks make the representation canonical and the order of
magnitudes the order of numbers.  Arithmetic is exact on rationals and rounds once, to the nearest
magnitude, and of two equally near ones to the even rank; a result past the last magnitude is
infinite.
-/

namespace LogShipper

/-- How many magnitudes there are from a power of two up to the next one: 2 to the 52nd. -/
def Binary64.binade : Nat := 0x10000000000000

/-- The rank that would follow the largest finite magnitude. -/
def Binary64.rankBound : Nat := 2047 * binade

inductive Binary64 where
  | finite (negative : Bool) (rank : Fin Binary64.rankBound)
  | infinite (negative : Bool)
  | nan
  deriving DecidableEq, Repr

namespace Binary64

/-! ## 1. Magnitudes -/

/-- The integer factor of the magnitude of a rank. -/
def significand (rank : Nat) : Nat :=
  if rank < binade then rank else binade + rank % binade

/-- The power of two in the magnitude of a rank. -/
def exponent (rank : Nat) : Int :=
  if rank < binade then -1074 else (rank / binade : Nat) - 1075

def magnitude (rank : Nat) : Rat :=
  significand rank * (2 : Rat) ^ exponent rank

def zero (negative : Bool) : Binary64 :=
  .finite negative ⟨0, by decide⟩

instance : Inhabited Binary64 := ⟨zero false⟩

/-- The rational that a finite number stands for. -/
def toRat? : Binary64 → Option Rat
  | .finite negative rank => some (if negative then -magnitude rank else magnitude rank)
  | .infinite _ | .nan => none

def isFinite : Binary64 → Bool
  | .finite _ _ => true
  | .infinite _ | .nan => false

/-! ## 2. Rounding -/

/-- The integer nearest to a quotient; of two equally near ones the even one. -/
def roundDiv (num den : Nat) : Nat :=
  let q := num / den
  let r := num % den
  if 2 * r < den ∨ (2 * r = den ∧ q % 2 = 0) then q else q + 1

/-- The exponent `e` for which the positive quotient lies from `2 ^ e` up to `2 ^ (e + 1)`. -/
def floorLog2 (num den : Nat) : Int :=
  let guess : Int := num.log2 - den.log2
  let reached :=
    if 0 ≤ guess then den <<< guess.toNat ≤ num else den ≤ num <<< (-guess).toNat
  if reached then guess else guess - 1

/-- The rank nearest to a positive quotient, which may lie past the finite ones. -/
def nearestRank (num den : Nat) : Nat :=
  let e := max (floorLog2 num den - 52) (-1074)
  let n := if 0 ≤ e then roundDiv num (den <<< e.toNat) else roundDiv (num <<< (-e).toNat) den
  (e + 1074).toNat * binade + n

/-- The number of a sign and a rank. -/
def ofRank (negative : Bool) (rank : Nat) : Binary64 :=
  if h : rank < rankBound then .finite negative ⟨rank, h⟩ else .infinite negative

/-- Rounds a magnitude given as a quotient, with the sign to give it. -/
def ofQuotient (negative : Bool) (num den : Nat) : Binary64 :=
  if num = 0 then zero negative else ofRank negative (nearestRank num den)

/-- Rounds a rational; zero gets the plus sign. -/
def ofRat (q : Rat) : Binary64 :=
  ofQuotient (q < 0) q.num.natAbs q.den

/-- Rounds an integer. -/
def ofInt (n : Int) : Binary64 :=
  ofQuotient (n < 0) n.natAbs 1

/-- Rounds `digits * 10 ^ power`.  Magnitudes far outside the range are settled by their number of
digits alone. -/
def ofDecimal (negative : Bool) (digits : Nat) (power : Int) : Binary64 :=
  if digits = 0 then zero negative
  else
    -- The number lies below ten to this power and not below a tenth of that.
    let size : Int := (Nat.toDigits 10 digits).length + power
    if 400 < size then .infinite negative
    else if size < -400 then zero negative
    else if 0 ≤ power then ofQuotient negative (digits * Nat.pow 10 power.toNat) 1
    else ofQuotient negative digits (Nat.pow 10 (-power).toNat)

/-! ## 3. Arithmetic -/

def neg : Binary64 → Binary64
  | .finite negative rank => .finite (!negative) rank
  | .infinite negative => .infinite (!negative)
  | .nan => .nan

/-- A sum that is zero has the minus sign only if both terms have it. -/
def add : Binary64 → Binary64 → Binary64
  | .nan, _ | _, .nan => .nan
  | .infinite a, .infinite b => if a = b then .infinite a else .nan
  | .infinite a, .finite _ _ => .infinite a
  | .finite _ _, .infinite b => .infinite b
  | .finite a m, .finite b n =>
    let sum := (if a then -magnitude m else magnitude m) + (if b then -magnitude n else magnitude n)
    if sum = 0 then zero (a && b) else ofRat sum

def sub (x y : Binary64) : Binary64 :=
  add x (neg y)

def mul : Binary64 → Binary64 → Binary64
  | .nan, _ | _, .nan => .nan
  | .infinite a, .infinite b => .infinite (a != b)
  | .infinite a, .finite b n => if n.val = 0 then .nan else .infinite (a != b)
  | .finite a m, .infinite b => if m.val = 0 then .nan else .infinite (a != b)
  | .finite a m, .finite b n =>
    let product := magnitude m * magnitude n
    ofQuotient (a != b) product.num.natAbs product.den

/-- The quotient; a zero divisor gives what zero divided by zero gives. -/
def div : Binary64 → Binary64 → Binary64
  | .nan, _ | _, .nan => .nan
  | .infinite _, .infinite _ => .nan
  | .infinite a, .finite b n => if n.val = 0 then .nan else .infinite (a != b)
  | .finite a _, .infinite b => zero (a != b)
  | .finite a m, .finite b n =>
    if n.val = 0 then .nan
    else
      let quotient := magnitude m / magnitude n
      ofQuotient (a != b) quotient.num.natAbs quotient.den

/-- The integer part, toward zero, of a finite number. -/
def truncate? : Binary64 → Option Int
  | .finite negative rank =>
    let whole := (magnitude rank).floor
    some (if negative then -whole else whole)
  | .infinite _ | .nan => none

end Binary64

end LogShipper
