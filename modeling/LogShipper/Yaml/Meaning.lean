import LogShipper.Text.Base64
import LogShipper.Text.LowerCase
import LogShipper.Yaml.Fault
import LogShipper.Yaml.Tag
import LogShipper.Yaml.Value

/-!
# What scalars stand for

A scalar stands for a value of the kind that its tag asks for.  A tag may be given to any text, so
each reader here takes every text and says why it is no value of its kind.  Underscores in numbers
are passed over.
-/

namespace LogShipper.Yaml.Meaning

/-- A text without its underscores. -/
def withoutUnderscores (t : Text) : Text :=
  t.filter (· ≠ .char '_')

/-! ## 1. Integers -/

def readInteger (base : Nat) (t : Text) : Except Fault Int :=
  (Numeral.readInteger base t).mapError .numeral

/-- The integer of parts in base sixty. -/
def sexagesimal (parts : List Text) : Except Fault Int :=
  parts.foldlM (fun n part => do return 60 * n + (← readInteger 10 part)) 0

/-- The integer of a text behind its sign. -/
def unsignedInteger : Text → Except Fault Int
  | [] => .error .emptyNumber
  | [.char '0'] => .ok 0
  | .char '0' :: .char 'b' :: digits => readInteger 2 digits
  | .char '0' :: .char 'x' :: digits => readInteger 16 digits
  | .char '0' :: digits => readInteger 8 (.char '0' :: digits)
  | t => if t.contains ':' then sexagesimal (Text.splitOn ':' t) else readInteger 10 t

/-- The integer of a text. -/
def integer (t : Text) : Except Fault Int :=
  let (negative, body) := Numeral.sign (withoutUnderscores t)
  (unsignedInteger body).map fun n => if negative then -n else n

/-! ## 2. Real numbers -/

def readReal (t : Text) : Except Fault Binary64 :=
  (Numeral.readReal t).mapError .numeral

/-- The product of a part and the weight of its place. -/
def weighted (part : Binary64) (weight : Int) : Except Fault Binary64 :=
  match Number.ofIntRounded weight with
  | .ok weight => .ok (part.mul weight)
  | .error fault => .error (.arithmetic fault)

/-- The number of parts in base sixty, added from the last one on. -/
def sexagesimalReal (parts : List Text) : Except Fault Binary64 := do
  let numbers ← parts.mapM readReal
  let (sum, _) ← numbers.reverse.foldlM
    (fun (sum, weight) part => do return (Binary64.add sum (← weighted part weight), weight * 60))
    (Binary64.zero false, (1 : Int))
  return sum

/-- The real number of a text behind its sign. -/
def unsignedReal (t : Text) : Except Fault Binary64 :=
  if t = Text.ofString ".inf" then .ok (.infinite false)
  else if t = Text.ofString ".nan" then .ok .nan
  else if t.contains ':' then sexagesimalReal (Text.splitOn ':' t)
  else readReal t

/-- The real number of a text, in which case does not matter. -/
def real (t : Text) : Except Fault Binary64 :=
  match (withoutUnderscores t).toLower with
  | [] => .error .emptyNumber
  | t =>
    let (negative, body) := Numeral.sign t
    (unsignedReal body).map fun x => if negative then x.neg else x

/-! ## 3. Other scalars -/

/-- The words for the truth values, in which case does not matter. -/
def truthValues : List (Text × Bool) := [
  ("yes", true), ("no", false), ("true", true), ("false", false), ("on", true), ("off", false)]

def truthValue (t : Text) : Except Fault Bool :=
  match truthValues.lookup t.toLower with
  | some b => .ok b
  | none => .error (.noTruthValue t.toLower)

/-- The bytes of a text in base 64. -/
def binary (t : Text) : Except Fault Bytes :=
  if t.isAscii then ((Base64.decode? t).map .ok).getD (.error .malformed) else .error .malformed

/-- The timestamp of a text.  A line feed at its end does not count. -/
def timestamp (t : Text) : Except Fault Scalar :=
  let t := if t.getLast? = some (.char '\n') then t.dropLast else t
  match Timestamp.read? t with
  | none => .error .noTimestamp
  | some found =>
    match found.fault?, found with
    | some fault, _ => .error (.timestamp fault)
    | none, .date d => .ok (.date d)
    | none, .time t => .ok (.time t)

/-! ## 4. All scalars -/

/-- The scalar that a text stands for under a tag; the tags of collections ask for none. -/
def ofTagged (tag : Tag) (t : Text) : Except Fault Scalar :=
  match tag with
  | .null => .ok .null
  | .bool => (truthValue t).map .bool
  | .int => (integer t).map .int
  | .float => (real t).map .float
  | .binary => (binary t).map .binary
  | .timestamp => timestamp t
  | .text => .ok (.text t)
  | .sequence | .mapping | .set | .orderedMapping | .pairs | .mergeSign | .defaultSign
  | .foreign => .error .malformed

end LogShipper.Yaml.Meaning
