import LogShipper.Number
import LogShipper.Text.Quoted
import LogShipper.Text.Utf8
import LogShipper.Yaml.Timestamp

/-!
# Values of YAML

A value is a scalar or a collection of values; the keys of mappings are scalars.  A collection may
be inside itself, and where it comes again a value only says so.

A value is shown in messages as a literal, or by itself; the two differ for texts and timestamps.
Of the keys of a mapping, numbers are the same if they are equal, whatever their kind; a truth value
counts as a number, and the value that is no number is the same as itself.
-/

namespace LogShipper.Yaml

/-- A value without parts. -/
inductive Scalar where
  | null
  | bool (b : Bool)
  | int (n : Int)
  | float (x : Binary64)
  | text (t : Text)
  | binary (bytes : Bytes)
  | date (d : Date)
  | time (t : DateTime)
  deriving DecidableEq, Repr, Inhabited

/-- A value.  The last two constructors are collections inside themselves. -/
inductive Value where
  | scalar (s : Scalar)
  | list (items : List Value)
  | pair (first second : Value)
  | mapping (pairs : List (Scalar × Value))
  | set (members : List Scalar)
  | listAgain
  | mappingAgain
  deriving Inhabited

/-- Why a value is not shown: an integer in it has too many digits, or its parts are too deep inside
each other. -/
inductive ShowFault where
  | oversized
  | tooDeep
  deriving DecidableEq, Repr

def ShowFault.message : ShowFault → Text
  | .oversized => Oversized.written.message
  | .tooDeep => "maximum recursion depth exceeded while getting the repr of an object"

/-- How many values may be inside each other where one is shown in a message. -/
def maxShownDepth : Nat := 997

/-! ## 1. Scalars -/

namespace Scalar

/-- The word for the kind of a scalar in messages. -/
def kind : Scalar → Text
  | .null => "NoneType"
  | .bool _ => "bool"
  | .int _ => "int"
  | .float _ => "float"
  | .text _ => "str"
  | .binary _ => "bytes"
  | .date _ => "date"
  | .time _ => "datetime"

/-- The word for the kind of a scalar with the place where it is known. -/
def fullKind : Scalar → Text
  | .date _ => "datetime.date"
  | .time _ => "datetime.datetime"
  | s => s.kind

/-- How a byte is shown between the given quotes: by its number unless it is printable ASCII. -/
def showByte (quote : Char) (b : UInt8) : Text :=
  if b < 0x80 then Text.showQuoted quote (.ofNat b.toNat) else "\\x" ++ Text.hex false 2 b.toNat

/-- Bytes between quotes. -/
def quotedBytes (bytes : Bytes) : Text :=
  let quote := Text.quoteFor (bytes.map fun b => .ofNat b.toNat)
  .char 'b' :: .char quote :: bytes.flatMap (showByte quote) ++ [.char quote]

/-- A scalar as a literal. -/
def literal : Scalar → Text
  | .null => "None"
  | .bool b => if b then "True" else "False"
  | .int n => Integer.toText n
  | .float x => x.toText
  | .text t => Text.quoted t
  | .binary bytes => quotedBytes bytes
  | .date d => d.literal
  | .time t => t.literal

/-- A scalar as it is shown by itself. -/
def display : Scalar → Text
  | .text t => t
  | .date d => d.display
  | .time t => t.display
  | s => s.literal

/-- Whether a scalar is an integer with too many digits to be shown. -/
def isOversized : Scalar → Bool
  | .int n => Integer.isOversized n
  | _ => false

/-- Why a scalar is not shown, if no more than some number of values may be inside each other. -/
def showFault? (bound : Nat) (s : Scalar) : Option ShowFault :=
  if bound = 0 then some .tooDeep else if s.isOversized then some .oversized else none

/-- Whether a scalar counts as nothing: null, false, zero, or empty. -/
def isVoid : Scalar → Bool
  | .null | .text [] | .binary [] => true
  | .bool b => !b
  | .int n => n = 0
  | .float (.finite _ rank) => rank.val = 0
  | _ => false

/-- The number that a scalar counts as. -/
def number? : Scalar → Option Number
  | .bool b => some (.int (if b then 1 else 0))
  | .int n => some (.int n)
  | .float x => some (.float x)
  | _ => none

/-- Whether two scalars are the same key. -/
def sameKey (x y : Scalar) : Bool :=
  match x.number?, y.number? with
  | some a, some b => a.extended? = b.extended?
  | _, _ =>
    match x, y with
    | .time s, .time t => s.isSame t
    | x, y => x = y

end Scalar

namespace Value

@[match_pattern] abbrev null : Value := .scalar .null
@[match_pattern] abbrev bool (b : Bool) : Value := .scalar (.bool b)
@[match_pattern] abbrev int (n : Int) : Value := .scalar (.int n)
@[match_pattern] abbrev float (x : Binary64) : Value := .scalar (.float x)
@[match_pattern] abbrev text (t : Text) : Value := .scalar (.text t)

/-! ## 2. How values are shown -/

/-- The word for the kind of a value in messages. -/
def kind : Value → Text
  | .scalar s => s.kind
  | .list _ | .listAgain => "list"
  | .pair .. => "tuple"
  | .mapping _ | .mappingAgain => "dict"
  | .set _ => "set"

/-- The word for the kind of a value with the place where it is known. -/
def fullKind : Value → Text
  | .scalar s => s.fullKind
  | value => value.kind

mutual

/-- A value as a literal. -/
def literal : Value → Text
  | .scalar s => s.literal
  | .list items => "[" ++ Text.joinWith ", " (literals items) ++ "]"
  | .pair first second => "(" ++ literal first ++ ", " ++ literal second ++ ")"
  | .mapping pairs => "\x7b" ++ Text.joinWith ", " (pairLiterals pairs) ++ "\x7d"
  | .set [] => "set()"
  | .set members => "\x7b" ++ Text.joinWith ", " (members.map Scalar.literal) ++ "\x7d"
  | .listAgain => "[...]"
  | .mappingAgain => "\x7b...\x7d"

def literals : List Value → List Text
  | [] => []
  | item :: items => literal item :: literals items

def pairLiterals : List (Scalar × Value) → List Text
  | [] => []
  | (key, value) :: pairs => (key.literal ++ ": " ++ literal value) :: pairLiterals pairs

end

mutual

/-- Why a value is not shown, if no more than some number of values may be inside each other; of
several reasons the one that is met first. -/
def showFault? : (bound : Nat) → Value → Option ShowFault
  | bound, .scalar s => s.showFault? bound
  | 0, _ => some .tooDeep
  | bound + 1, .list items => firstFault? bound items
  | bound + 1, .pair first second => (showFault? bound first).or (showFault? bound second)
  | bound + 1, .mapping pairs => firstPairFault? bound pairs
  -- The members of a set are shown as those of a list inside it.
  | bound + 1, .set members => members.findSome? (Scalar.showFault? (bound - 1))
  | _ + 1, .listAgain | _ + 1, .mappingAgain => none

def firstFault? (bound : Nat) : List Value → Option ShowFault
  | [] => none
  | item :: items => (showFault? bound item).or (firstFault? bound items)

def firstPairFault? (bound : Nat) : List (Scalar × Value) → Option ShowFault
  | [] => none
  | (key, value) :: pairs =>
    ((key.showFault? bound).or (showFault? bound value)).or (firstPairFault? bound pairs)

end

end Value

end LogShipper.Yaml
