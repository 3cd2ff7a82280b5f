import LogShipper.Number
import LogShipper.Number.Numeral
import LogShipper.Yaml.Timestamp

/-!
# Faults in YAML

Most ways in which a text is no YAML document are not told apart.  The others are about values that
a well-formed scalar cannot stand for, about tags that ask for a value of the wrong kind, and about
nodes too deep inside each other.
-/

namespace LogShipper.Yaml

/-- Why a text yields no value. -/
inductive Fault where
  | malformed
  | numeral (fault : NumeralFault)
  | emptyNumber
  | noTruthValue (t : Text)
  | noTimestamp
  | timestampOfMapping
  | timestamp (fault : TimestampFault)
  | noCodePoint (number : Nat)
  | arithmetic (fault : ArithmeticFault)
  | tooDeep
  deriving DecidableEq, Repr

/-- The largest number that is taken for that of a code point at all. -/
def largestNumber : Nat := 0x7FFFFFFF

def Fault.message : Fault → Text
  | .malformed => "malformed document"
  | .numeral fault => fault.message
  | .emptyNumber => "string index out of range"
  | .noTruthValue t => Text.quoted t
  | .noTimestamp => "'NoneType' object has no attribute 'groupdict'"
  | .timestampOfMapping => "expected string or bytes-like object, got 'list'"
  | .timestamp fault => fault.message
  | .noCodePoint number =>
    if largestNumber < number then "Python int too large to convert to C int"
    else "chr() arg not in range(0x110000)"
  | .arithmetic fault => fault.message
  | .tooDeep => "maximum recursion depth exceeded"

end LogShipper.Yaml
