import LogShipper.Number.Integer
import LogShipper.Number.Shortest

/-!
# Numbers

A reading of the clock or a measured time is an exact integer or a binary floating point number,
and stays what it is: integers are added and multiplied exactly, and only where an integer meets a
floating point number is it rounded.  An integer past the finite magnitudes cannot be rounded, and
the operation reports it.
-/

namespace LogShipper

inductive Number where
  | int (n : Int)
  | float (x : Binary64)
  deriving DecidableEq, Repr, Inhabited

/-- Why arithmetic has no result. -/
inductive ArithmeticFault where
  | integerTooLarge
  | quotientTooLarge
  | infiniteToInteger
  | nanToInteger
  | indexOutOfRange
  | indexTooLarge
  deriving DecidableEq, Repr

namespace ArithmeticFault

def message : ArithmeticFault → Text
  | .integerTooLarge => "int too large to convert to float"
  | .quotientTooLarge => "integer division result too large for a float"
  | .infiniteToInteger => "cannot convert float infinity to integer"
  | .nanToInteger => "cannot convert float NaN to integer"
  | .indexOutOfRange => "list index out of range"
  | .indexTooLarge => "cannot fit 'int' into an index-sized integer"

end ArithmeticFault

namespace Number

/-- The floating point number nearest to an integer that is not past the finite ones. -/
def ofIntRounded (n : Int) : Except ArithmeticFault Binary64 :=
  match Binary64.ofInt n with
  | .finite negative rank => .ok (.finite negative rank)
  | _ => .error .integerTooLarge

def toFloat : Number → Except ArithmeticFault Binary64
  | .int n => ofIntRounded n
  | .float x => .ok x

/-- Applies an operation exactly to two integers and with rounding otherwise. -/
def combine (onInt : Int → Int → Int) (onFloat : Binary64 → Binary64 → Binary64) :
    Number → Number → Except ArithmeticFault Number
  | .int m, .int n => .ok (.int (onInt m n))
  | x, y => do return .float (onFloat (← x.toFloat) (← y.toFloat))

def add : Number → Number → Except ArithmeticFault Number :=
  combine (· + ·) Binary64.add

def sub : Number → Number → Except ArithmeticFault Number :=
  combine (· - ·) Binary64.sub

def mul : Number → Number → Except ArithmeticFault Number :=
  combine (· * ·) Binary64.mul

/-- The quotient by a positive integer.  That of two integers is rounded once. -/
def divNat (x : Number) (n : Nat) : Except ArithmeticFault Binary64 :=
  match x with
  | .int m =>
    match Binary64.ofQuotient (m < 0) m.natAbs n with
    | .finite negative rank => .ok (.finite negative rank)
    | _ => .error .quotientTooLarge
  | .float x => do return Binary64.div x (← ofIntRounded n)

/-- The sum from the left, starting with the integer zero. -/
def sum (xs : List Number) : Except ArithmeticFault Number :=
  xs.foldlM add (.int 0)

/-- The rational value, or the sign of an infinity; what is no number has neither. -/
def extended? : Number → Option (Rat ⊕ Bool)
  | .int n => some (.inl n)
  | .float (.infinite negative) => some (.inr negative)
  | .float x => x.toRat?.map .inl

/-- Whether a number has a place in the order of numbers. -/
def isComparable (x : Number) : Bool :=
  x.extended?.isSome

/-- Whether the first number is less than the second, compared exactly. -/
def less (x y : Number) : Bool :=
  match x.extended?, y.extended? with
  | some (.inl a), some (.inl b) => a < b
  | some (.inl _), some (.inr negative) => !negative
  | some (.inr negative), some (.inl _) => negative
  | some (.inr a), some (.inr b) => a && !b
  | _, _ => false

/-- The integer part, toward zero. -/
def truncate : Number → Except ArithmeticFault Int
  | .int n => .ok n
  | .float (.infinite _) => .error .infiniteToInteger
  | .float .nan => .error .nanToInteger
  | .float x => .ok (x.truncate?.getD 0)

def toText : Number → Text
  | .int n => Integer.toText n
  | .float x => x.toText

end Number

end LogShipper
