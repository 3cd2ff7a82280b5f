import LogShipper.Number.Numeral
import LogShipper.Text.Blank
import LogShipper.Yaml.Value

/-!
# Numbers in settings

The batch size is an integer and the time to wait for the server a real number.  A setting may give
either as a text or as a value of another kind; not every value is such a number.
-/

namespace LogShipper

/-- Why a value is no number of the kind that is asked for. -/
inductive ConversionFault where
  | numeral (fault : NumeralFault)
  | notInteger (kind : Text)
  | notReal (kind : Text)
  | notNumber
  | oversized (cause : Oversized)
  deriving DecidableEq, Repr

def ConversionFault.message : ConversionFault → Text
  | .numeral fault => fault.message
  | .notInteger kind =>
    "int() argument must be a string, a bytes-like object or a real number, not '" ++ kind ++ "'"
  | .notReal kind => "float() argument must be a string or a real number, not '" ++ kind ++ "'"
  | .notNumber => ArithmeticFault.nanToInteger.message
  | .oversized cause => cause.message

/-- What comes of a conversion: a number, a fault of the value, arithmetic that has no result, or a
value whose parts are too deep inside each other. -/
inductive Conversion (α : Type) where
  | done (a : α)
  | refused (fault : ConversionFault)
  | impossible (fault : ArithmeticFault)
  | tooDeep
  deriving DecidableEq, Repr

namespace Yaml.Value

/-- Bytes as a text in which those past ASCII belong to no numeral. -/
def asciiText (bytes : Bytes) : Text :=
  bytes.map fun b => if b < 0x80 then .ofNat b.toNat else .char '\uFFFD'

/-- What comes of reading a numeral. -/
def ofNumeral {α : Type} : Except NumeralFault α → Conversion α
  | .ok a => .done a
  | .error fault => .refused (.numeral fault)

/-- The integer of a value: that of a text or of bytes, or the integer part of a number. -/
def toInteger : Value → Conversion Int
  | .text t => ofNumeral (Numeral.readInteger 10 t)
  | .scalar (.binary bytes) =>
    ofNumeral (Numeral.readIntegerAs (Scalar.quotedBytes bytes) 10 (asciiText bytes))
  | .int n => .done n
  | .bool b => .done (if b then 1 else 0)
  | .float x =>
    match (Number.float x).truncate with
    | .ok n => .done n
    | .error .nanToInteger => .refused .notNumber
    | .error fault => .impossible fault
  | value => .refused (.notInteger value.fullKind)

/-- The real number of a value; null and blank texts are none. -/
def toReal? : Value → Conversion (Option Binary64)
  | .null => .done none
  | .text t =>
    if Text.isBlank t then .done none else ofNumeral ((Numeral.readReal t).map some)
  | .scalar (.binary bytes) =>
    ofNumeral ((Numeral.readRealAs (Scalar.quotedBytes bytes) (asciiText bytes)).map some)
  | value =>
    -- Whether it is blank is asked of the value as it is shown, one call further down than messages.
    match value.showFault? (maxShownDepth - 1) with
    | some .oversized => .refused (.oversized .written)
    | some .tooDeep => .tooDeep
    | none =>
      match value with
      | .int n =>
        match Number.ofIntRounded n with
        | .ok x => .done (some x)
        | .error fault => .impossible fault
      | .bool b => .done (some (.ofInt (if b then 1 else 0)))
      | .float x => .done (some x)
      | value => .refused (.notReal value.fullKind)

end Yaml.Value

end LogShipper
