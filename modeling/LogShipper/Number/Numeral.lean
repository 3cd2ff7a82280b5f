import LogShipper.Number.Binary64
import LogShipper.Number.Integer
import LogShipper.Text.DecimalDigit
import LogShipper.Text.Quoted

/-!
# Numerals in settings

Settings give numbers as text.  Spaces may surround the numeral, a sign may precede it, its digits
are the decimal digits of any script, and single underscores may stand between digits.  An integer
numeral is nothing else, but in a base other than ten it has the digits of that base, and the mark
of the base may stand before them; a numeral of a real number may also have a point, an exponent, or
be a word for infinity or for no number.
-/

namespace LogShipper

/-- Why something is not the numeral that was asked for; it is given as a literal. -/
inductive NumeralFault where
  | notInteger (base : Nat) (literal : Text)
  | notReal (literal : Text)
  | oversized (cause : Oversized)
  deriving DecidableEq, Repr

namespace NumeralFault

/-- How much is shown of what is no integer. -/
def shownLength : Nat := 200

def message : NumeralFault → Text
  | .notInteger base literal =>
    "invalid literal for int() with base " ++ Integer.toText base ++ ": " ++
      literal.take shownLength
  | .notReal literal => "could not convert string to float: " ++ literal
  | .oversized cause => cause.message

end NumeralFault

namespace Numeral

/-- The spaces that may surround a numeral: all blanks but the four information separators. -/
def isSpace (c : CodePoint) : Bool :=
  let n := c.value
  (0x09 ≤ n && n ≤ 0x0D) || n == 0x20 || n == 0x85 || n == 0xA0 || n == 0x1680 ||
    (0x2000 ≤ n && n ≤ 0x200A) || n == 0x2028 || n == 0x2029 || n == 0x202F || n == 0x205F ||
    n == 0x3000

def trim (t : Text) : Text :=
  ((t.dropWhile isSpace).reverse.dropWhile isSpace).reverse

/-- The sign, true for minus, and what follows it. -/
def sign : Text → Bool × Text
  | .char '-' :: rest => (true, rest)
  | .char '+' :: rest => (false, rest)
  | t => (false, t)

/-- The value of a digit of a base. -/
def digitIn? (base : Nat) (c : CodePoint) : Option Nat :=
  (c.digit? <|> c.hexDigit?).filter (· < base)

/-- The digits that continue a run, and what follows the run.  A single underscore may precede
each; one that no digit follows is not part of the run. -/
def moreDigits (base : Nat) : Text → List Nat × Text
  | [] => ([], [])
  | .char '_' :: [] => ([], ['_'])
  | .char '_' :: c :: rest =>
    match digitIn? base c with
    | none => ([], .char '_' :: c :: rest)
    | some d =>
      let (digits, after) := moreDigits base rest
      (d :: digits, after)
  | c :: rest =>
    match digitIn? base c with
    | none => ([], c :: rest)
    | some d =>
      let (digits, after) := moreDigits base rest
      (d :: digits, after)

/-- A run of digits with single underscores between them: the values of the digits, and what
follows the run. -/
def digitRun (base : Nat) : Text → List Nat × Text
  | [] => ([], [])
  | c :: rest =>
    match digitIn? base c with
    | none => ([], c :: rest)
    | some d =>
      let (digits, after) := moreDigits base rest
      (d :: digits, after)

/-- The number that digits of a base stand for. -/
def ofDigits (base : Nat) (digits : List Nat) : Nat :=
  digits.foldl (fun n d => base * n + d) 0

/-- The letter that marks a base behind a zero. -/
def baseMark? (base : Nat) : Option Char :=
  if base = 2 then some 'b' else if base = 8 then some 'o' else if base = 16 then some 'x'
  else none

/-- What follows the mark of a base, if one comes first.  An underscore may stand behind it. -/
def afterBaseMark (base : Nat) (t : Text) : Text :=
  match baseMark? base, t with
  | some mark, zero :: letter :: rest =>
    if zero.digit? = some 0 ∧ letter.asciiLower = .char mark then
      if rest.head? = some (.char '_') then rest.tail else rest
    else t
  | _, _ => t

/-- Reads an integer of a base; `literal` is how the text is shown if it is none.  Too many digits
in base ten are refused before it matters what follows them, unless that is an underscore out of
place. -/
def readIntegerAs (literal : Text) (base : Nat) (t : Text) : Except NumeralFault Int :=
  let (negative, body) := sign (trim t)
  let (digits, rest) := digitRun base (afterBaseMark base body)
  if rest.head? = some (.char '_') then .error (.notInteger base literal)
  else if base = 10 ∧ Integer.maxDigits < digits.length then
    .error (.oversized (.read digits.length))
  else if digits.isEmpty || !rest.isEmpty then .error (.notInteger base literal)
  else .ok (if negative then -(ofDigits base digits : Int) else ofDigits base digits)

/-- Reads an integer of a base. -/
def readInteger (base : Nat) (t : Text) : Except NumeralFault Int :=
  readIntegerAs (Text.quoted t) base t

/-- The exponent after a mantissa, if there is a whole one, and what follows. -/
def exponentPart : Text → Int × Text
  | t@(c :: rest) =>
    if c = .char 'e' ∨ c = .char 'E' then
      let (negative, body) := sign rest
      let (digits, after) := digitRun 10 body
      if digits.isEmpty then (0, t)
      else (if negative then -(ofDigits 10 digits : Int) else ofDigits 10 digits, after)
    else (0, t)
  | [] => (0, [])

/-- Reads a decimal with an optional point and exponent, without sign. -/
def readUnsigned? (negative : Bool) (t : Text) : Option Binary64 :=
  let (whole, rest) := digitRun 10 t
  let (fraction, rest) := match rest with
    | .char '.' :: after => digitRun 10 after
    | _ => ([], rest)
  if whole.isEmpty && fraction.isEmpty then none
  else
    let (exponent, rest) := exponentPart rest
    if rest.isEmpty then
      some (.ofDecimal negative (ofDigits 10 (whole ++ fraction)) (exponent - fraction.length))
    else none

/-- Reads a real number; `literal` is how the text is shown if it is none. -/
def readRealAs (literal : Text) (t : Text) : Except NumeralFault Binary64 :=
  let (negative, body) := sign (trim t)
  let word := body.map CodePoint.asciiLower
  if word = Text.ofString "inf" ∨ word = Text.ofString "infinity" then .ok (.infinite negative)
  else if word = Text.ofString "nan" then .ok .nan
  else
    match readUnsigned? negative body with
    | some x => .ok x
    | none => .error (.notReal literal)

/-- Reads a real number. -/
def readReal (t : Text) : Except NumeralFault Binary64 :=
  readRealAs (Text.quoted t) t

end Numeral

end LogShipper
