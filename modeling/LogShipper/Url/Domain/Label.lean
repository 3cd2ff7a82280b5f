import LogShipper.Number.Integer
import LogShipper.Text.CombiningClass
import LogShipper.Text.Composed
import LogShipper.Text.Hexadecimal
import LogShipper.Text.Quoted
import LogShipper.Url.Domain.Context
import LogShipper.Url.Domain.Direction
import LogShipper.Url.Domain.Permitted

/-!
# Labels of international domain names

A label is valid if it is composed, has no hyphen at its ends or in both the third and fourth
place, does not begin with a mark, holds only permitted code points, each in a context that permits
it, and keeps the rules for text that runs from right to left.  The first rule that is broken, in
this order, is the fault.
-/

namespace LogShipper.Url.Domain

/-! ## 1. Faults -/

/-- Why a domain name is refused. -/
inductive Fault where
  | emptyDomain
  | emptyLabel
  | noLabel
  | labelTooLong
  | domainTooLong
  | nothingEncoded
  | endsWithHyphen
  | undecodable
  | notComposed
  | innerHyphens
  | outerHyphen
  | beginsWithMark
  | disallowed (c : CodePoint) (position : Nat) (label : Text)
  | joiner (c : CodePoint) (position : Nat) (label : Text)
  | context (c : CodePoint) (position : Nat) (label : Text)
  | unknownDirection (position : Nat) (label : Text)
  | firstDirection (label : Text)
  | wrongDirection (rightToLeft : Bool) (position : Nat)
  | mixedNumbers
  | lastDirection
  deriving DecidableEq, Repr

/-- A number as `U+` and at least four hexadecimal digits. -/
def codePointName (c : CodePoint) : Text :=
  let width := if c.value < 0x10000 then 4 else if c.value < 0x100000 then 5 else 6
  "U+" ++ Text.hex true width c.value

def Fault.message : Fault → Text
  | .emptyDomain => "Empty domain"
  | .emptyLabel => "Empty Label"
  | .noLabel => "Empty label"
  | .labelTooLong => "Label too long"
  | .domainTooLong => "Domain too long"
  | .nothingEncoded => "Malformed A-label, no Punycode eligible content found"
  | .endsWithHyphen => "A-label must not end with a hyphen"
  | .undecodable => "Invalid A-label"
  | .notComposed => "Label must be in Normalization Form C"
  | .innerHyphens => "Label has disallowed hyphens in 3rd and 4th position"
  | .outerHyphen => "Label must not start or end with a hyphen"
  | .beginsWithMark => "Label begins with an illegal combining character"
  | .disallowed c position label =>
    "Codepoint " ++ codePointName c ++ " at position " ++ Integer.toText position ++ " of " ++
      Text.quoted label ++ " not allowed"
  | .joiner c position label =>
    "Unknown codepoint adjacent to joiner " ++ codePointName c ++ " at position " ++
      Integer.toText position ++ " in " ++ Text.quoted label
  | .context c position label =>
    "Codepoint " ++ codePointName c ++ " not allowed at position " ++ Integer.toText position ++
      " in " ++ Text.quoted label
  | .unknownDirection position label =>
    "Unknown directionality in label " ++ Text.quoted label ++ " at position " ++
      Integer.toText position
  | .firstDirection label =>
    "First codepoint in label " ++ Text.quoted label ++ " must be directionality L, R or AL"
  | .wrongDirection rightToLeft position =>
    "Invalid direction for codepoint at position " ++ Integer.toText position ++ " in a " ++
      (if rightToLeft then ("right-to-left" : Text) else "left-to-right") ++ " label"
  | .mixedNumbers => "Can not mix numeral types in a right-to-left label"
  | .lastDirection => "Label ends with illegal codepoint directionality"

/-- The kinds of faults that are told apart. -/
inductive Fault.Kind where
  | plain
  | codePoint
  | context
  | direction
  deriving DecidableEq, Repr

def Fault.kind : Fault → Fault.Kind
  | .disallowed .. => .codePoint
  | .context .. => .context
  | .unknownDirection .. | .firstDirection .. | .wrongDirection .. | .mixedNumbers
  | .lastDirection => .direction
  | _ => .plain

/-! ## 2. Contexts -/

/-- Whether the first code point that is not transparent joins towards the joiner. -/
def joinsTowards (side : RangeTable) : Text → Bool
  | [] => false
  | c :: rest =>
    if transparentRanges.contains c.value then joinsTowards side rest
    else dualJoiningRanges.contains c.value || side.contains c.value

/-- Whether a joiner is permitted, given what stands before it, from the nearest on, and after: it
follows a mark that closes a consonant, or it separates two letters that would join. -/
def joinerPermitted (c : CodePoint) (before after : Text) : Bool :=
  before.head?.any (combiningClass ·.value = 9) ||
    c.value = 0x200C && joinsTowards leftJoiningRanges before &&
      joinsTowards rightJoiningRanges after

/-- Whether a code point that depends on its context is permitted. -/
def contextPermits (c : CodePoint) (before after label : Text) : Bool :=
  let n := c.value
  if n = 0xB7 then
    before.head? = some (.char 'l') && after.head? = some (.char 'l')
  else if n = 0x375 then after.head?.any (greekRanges.contains ·.value)
  else if n = 0x5F3 ∨ n = 0x5F4 then before.head?.any (hebrewRanges.contains ·.value)
  else if n = 0x30FB then
    label.any fun other => other.value != 0x30FB && japaneseRanges.contains other.value
  else if 0x660 ≤ n ∧ n ≤ 0x669 then
    label.all fun other => !(0x6F0 ≤ other.value && other.value ≤ 0x6F9)
  else if 0x6F0 ≤ n ∧ n ≤ 0x6F9 then
    label.all fun other => !(0x660 ≤ other.value && other.value ≤ 0x669)
  else false

/-- Checks each code point of a label; `before` holds what precedes, from the nearest on. -/
def checkCodePoints (label before : Text) : Text → Except Fault Unit
  | [] => .ok ()
  | c :: rest => do
    let position := before.length + 1
    if permittedRanges.contains c.value then pure ()
    else if joinerRanges.contains c.value then
      if !joinerPermitted c before rest then throw (.joiner c position label)
    else if contextualRanges.contains c.value then
      if !contextPermits c before rest label then throw (.context c position label)
    else throw (.disallowed c position label)
    checkCodePoints label (c :: before) rest

/-! ## 3. Direction -/

/-- The directions that a label of the given overall direction may hold. -/
def allowedIn (rightToLeft : Bool) : Direction → Bool
  | .leftToRight => !rightToLeft
  | .rightToLeft | .arabicLetter | .arabicNumber => rightToLeft
  | .europeanNumber | .europeanSeparator | .boundary | .mark | .neutral => true
  | .unknown => false

/-- The directions with which a label of the given overall direction may end. -/
def endsIn (rightToLeft : Bool) : Direction → Bool
  | .leftToRight => !rightToLeft
  | .rightToLeft | .arabicLetter | .arabicNumber => rightToLeft
  | .europeanNumber => true
  | _ => false

/-- Checks the directions of a label, given the number direction seen so far. -/
def checkDirections (rightToLeft : Bool) (position : Nat) (number : Option Direction) :
    List Direction → Except Fault Unit
  | [] => .ok ()
  | d :: rest => do
    if !allowedIn rightToLeft d then throw (.wrongDirection rightToLeft position)
    let isNumber := rightToLeft && (d = .arabicNumber || d = .europeanNumber)
    if isNumber && number.any (· ≠ d) then throw .mixedNumbers
    checkDirections rightToLeft (position + 1) (if isNumber then some d else number) rest

/-- The rules for labels that hold something written from right to left. -/
def checkBidirectional (label : Text) : Except Fault Unit := do
  let directions := label.map Direction.of
  match directions.findIdx? (· = .unknown) with
  | some i => throw (.unknownDirection (i + 1) label)
  | none => pure ()
  if directions.any fun d => d = .rightToLeft || d = .arabicLetter || d = .arabicNumber then
    match directions.head? with
    | some .rightToLeft | some .arabicLetter => finish true directions
    | some .leftToRight => finish false directions
    | _ => throw (.firstDirection label)
where
  finish (rightToLeft : Bool) (directions : List Direction) : Except Fault Unit := do
    checkDirections rightToLeft 1 none directions
    match (directions.reverse.dropWhile (· = .mark)).head? with
    | some d => if !endsIn rightToLeft d then throw .lastDirection
    | none => throw .lastDirection

/-! ## 4. Labels -/

/-- Checks a label. -/
def checkLabel (label : Text) : Except Fault Unit := do
  if label.isEmpty then throw .emptyLabel
  if !Text.isComposed label then throw .notComposed
  if label[2]? = some (.char '-') ∧ label[3]? = some (.char '-') then throw .innerHyphens
  if label.head? = some (.char '-') ∨ label.getLast? = some (.char '-') then throw .outerHyphen
  if label.head?.any (markRanges.contains ·.value) then throw .beginsWithMark
  checkCodePoints label [] label
  checkBidirectional label

end LogShipper.Url.Domain
