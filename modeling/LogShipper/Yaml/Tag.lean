import LogShipper.Text.DecimalDigit
import LogShipper.Yaml.Timestamp

/-!
# Tags of YAML

A tag says what kind of value a node stands for.  Only the tags of one family have a meaning here.
A plain scalar without a tag has the one that its form asks for: it is a text unless it is one of
the words for null and the truth values, an integer in base two, eight, ten, sixteen or sixty, a
real number in base ten or sixty, a timestamp, or one of two signs.
-/

namespace LogShipper.Yaml

inductive Tag where
  | null
  | bool
  | int
  | float
  | binary
  | timestamp
  | text
  | sequence
  | mapping
  | set
  | orderedMapping
  | pairs
  | mergeSign
  | defaultSign
  | foreign
  deriving DecidableEq, Repr, Inhabited

namespace Tag

/-- The beginning of the tags that have a meaning. -/
def family : Text := "tag:yaml.org,2002:"

/-- The rest of each tag that has a meaning. -/
def names : List (Text × Tag) := [
  ("null", .null), ("bool", .bool), ("int", .int), ("float", .float), ("binary", .binary),
  ("timestamp", .timestamp), ("str", .text), ("seq", .sequence), ("map", .mapping),
  ("set", .set), ("omap", .orderedMapping), ("pairs", .pairs), ("merge", .mergeSign),
  ("value", .defaultSign)]

/-- The tag of a full name. -/
def ofName (t : Text) : Tag :=
  (((Text.dropStart? family t).bind fun rest => names.lookup rest)).getD .foreign

/-! ## 1. Forms of numbers -/

def isDigit (c : CodePoint) : Bool :=
  c.satisfies Char.isDigit

/-- Whether a text begins with a digit and then has only digits and underscores. -/
def isDigits (t : Text) : Bool :=
  t.head?.any isDigit && t.all fun c => isDigit c || c = .char '_'

/-- Whether a text is nothing but underscores and code points with the given property, and at least
one of these. -/
def isRun (p : Char → Bool) (t : Text) : Bool :=
  !t.isEmpty && t.all (·.satisfies fun c => p c || c = '_')

def isBinaryDigit (c : Char) : Bool :=
  c = '0' || c = '1'

def isOctalDigit (c : Char) : Bool :=
  '0' ≤ c && c ≤ '7'

def isHexDigit (c : Char) : Bool :=
  (CodePoint.char c).hexDigit?.isSome

/-- Whether a text is the number of a minute or second: one digit, or two of which the first is at
most five. -/
def isSixtieth (t : Text) : Bool :=
  match t with
  | [d] => isDigit d
  | [d, e] => d.satisfies (fun c => '0' ≤ c && c ≤ '5') && isDigit e
  | _ => false

/-- A text without the sign at its beginning. -/
def unsigned (t : Text) : Text :=
  (Numeral.sign t).2

/-- Whether a text is an integer. -/
def isInteger (t : Text) : Bool :=
  match unsigned t with
  | .char '0' :: .char 'b' :: digits => isRun isBinaryDigit digits
  | .char '0' :: .char 'x' :: digits => isRun isHexDigit digits
  | .char '0' :: digits => digits.all (·.satisfies fun c => isOctalDigit c || c = '_')
  | t =>
    match Text.splitOn ':' t with
    | whole :: parts => isDigits whole && parts.all isSixtieth
    | [] => false

/-- Whether a text is an exponent with its mark and sign. -/
def isExponent (t : Text) : Bool :=
  match t with
  | mark :: sign :: digits =>
    (mark = .char 'e' || mark = .char 'E') && (sign = .char '+' || sign = .char '-') &&
      !digits.isEmpty && digits.all isDigit
  | _ => false

/-- Whether what follows the point of a real number is a fraction with an optional exponent. -/
def isFraction (t : Text) : Bool :=
  let rest := t.dropWhile fun c => isDigit c || c = .char '_'
  rest.isEmpty || isExponent rest

/-- Whether a text is one of some words. -/
def isWord (words : List String) (t : Text) : Bool :=
  words.any fun word => t = Text.ofString word

/-- Whether a text is a real number.  One that begins with its point has no sign. -/
def isReal (t : Text) : Bool :=
  isWord [".nan", ".NaN", ".NAN"] t || isWord [".inf", ".Inf", ".INF"] (unsigned t) ||
    match Text.cutAt? '.' t with
    | none => false
    | some ([], fraction) => fraction.head?.any isDigit && isFraction fraction
    | some (whole, fraction) =>
      match Text.splitOn ':' (unsigned whole) with
      | [whole] => isDigits whole && isFraction fraction
      | first :: parts =>
        isDigits first && parts.all isSixtieth && fraction.all fun c => isDigit c || c = .char '_'
      | [] => false

/-! ## 2. All forms -/

def nullWords : List String := ["", "~", "null", "Null", "NULL"]

def boolWords : List String :=
  ["yes", "Yes", "YES", "no", "No", "NO", "true", "True", "TRUE", "false", "False", "FALSE", "on",
    "On", "ON", "off", "Off", "OFF"]

/-- Marks that are no plain scalars; with the tag `!` they may still stand alone. -/
def markWords : List String := ["!", "&", "*"]

/-- The tag that the form of a scalar asks for. -/
def ofForm (t : Text) : Tag :=
  if isWord boolWords t then .bool
  else if isReal t then .float
  else if isInteger t then .int
  else if t = Text.ofString "<<" then .mergeSign
  else if isWord nullWords t then .null
  else if Timestamp.isForm t then .timestamp
  else if t = Text.ofString "=" then .defaultSign
  else if isWord markWords t then .foreign
  else .text

/-- The tag of a scalar without one.  A line feed at its end does not count, unless the scalar is
nothing else. -/
def resolve (t : Text) : Tag :=
  if t ≠ Text.ofString "\n" ∧ t.getLast? = some (.char '\n') then ofForm t.dropLast else ofForm t

end Tag

end LogShipper.Yaml
