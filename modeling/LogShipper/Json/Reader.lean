import LogShipper.Json.Value
import LogShipper.Text.DecimalDigit

/-!
# Reading JSON

The grammar is that of JSON with three more numbers, `NaN`, `Infinity` and `-Infinity`.  Of
members with one name the last value counts, at the first one's place.  An escape of a high
surrogate joins with an escape of a low one after it; any other stays alone.

A text is refused at the first place where it breaks the grammar; a fault says what is missing
there.  An integer with too many digits, and a bracket inside too many others, are faults of their
own kind, found where they stand.
-/

namespace LogShipper.Json

/-! ## 1. Faults -/

/-- What breaks the grammar. -/
inductive Malformation where
  | value
  | memberName
  | colon
  | comma
  | extra
  | unterminated
  | control
  | escape
  | unicodeEscape
  deriving DecidableEq, Repr

namespace Malformation

def message : Malformation → Text
  | .value => "Expecting value"
  | .memberName => "Expecting property name enclosed in double quotes"
  | .colon => "Expecting ':' delimiter"
  | .comma => "Expecting ',' delimiter"
  | .extra => "Extra data"
  | .unterminated => "Unterminated string starting at"
  | .control => "Invalid control character at"
  | .escape => "Invalid \\escape"
  | .unicodeEscape => "Invalid \\uXXXX escape"

end Malformation

/-- The kinds of values that have others inside. -/
inductive Collection where
  | array
  | object
  deriving DecidableEq, Repr, Inhabited

def Collection.name : Collection → Text
  | .array => "array"
  | .object => "object"

/-- How deep collections may be inside each other. -/
def maxDepth : Nat := 990

/-- What a text has too much of, though the grammar allows it: digits in an integer, or collections
around one. -/
inductive Excess where
  | digits (cause : Oversized)
  | depth (innermost : Collection)
  deriving DecidableEq, Repr

def Excess.message : Excess → Text
  | .digits cause => cause.message
  | .depth innermost => "maximum recursion depth exceeded while decoding a JSON " ++
      innermost.name ++ " from a unicode string"

/-- Where and why reading stops: the rest of the text from the place of a malformation, or an
excess. -/
inductive Stop where
  | malformed (what : Malformation) (rest : Text)
  | excess (what : Excess)

/-! ## 2. Texts -/

/-- One item between the quotes: a code point as it stands, or a number given by an escape. -/
inductive Item where
  | plain (c : CodePoint)
  | unit (n : Nat)

/-- The code point that a one-letter escape means. -/
def letterEscape? : CodePoint → Option CodePoint
  | .char '"' => some '"'
  | .char '\\' => some '\\'
  | .char '/' => some '/'
  | .char 'b' => some '\x08'
  | .char 'f' => some '\x0c'
  | .char 'n' => some '\n'
  | .char 'r' => some '\r'
  | .char 't' => some '\t'
  | _ => none

/-- The number of four hexadecimal digits. -/
def hexUnit? (a b c d : CodePoint) : Option Nat := do
  return (← a.hexDigit?) * 0x1000 + (← b.hexDigit?) * 0x100 + (← c.hexDigit?) * 0x10
    + (← d.hexDigit?)

/-- Reads the items up to the closing quote; `start` is the text from the opening one on.  The four
digits of an escape must not be the end of the text. -/
def readItems (start : Text) : Text → Except Stop (List Item × Text)
  | [] => .error (.malformed .unterminated start)
  | .char '"' :: rest => .ok ([], rest)
  | .char '\\' :: [] => .error (.malformed .unterminated start)
  | .char '\\' :: .char 'u' :: a :: b :: c :: d :: e :: rest =>
    -- The code point `e` only has to be there, as the closing quote at least.
    match hexUnit? a b c d with
    | none => .error (.malformed .unicodeEscape (.char 'u' :: a :: b :: c :: d :: e :: rest))
    | some n => do
      let (items, after) ← readItems start (e :: rest)
      return (.unit n :: items, after)
  | .char '\\' :: c :: rest =>
    if c = 'u' then .error (.malformed .unicodeEscape (c :: rest))
    else
      match letterEscape? c with
      | none => .error (.malformed .escape (.char '\\' :: c :: rest))
      | some meant => do
        let (items, after) ← readItems start rest
        return (.plain meant :: items, after)
  | c :: rest =>
    if c.value < 0x20 then .error (.malformed .control (c :: rest))
    else do
      let (items, after) ← readItems start rest
      return (.plain c :: items, after)

/-- The text of the items, with escaped surrogate pairs joined. -/
def assemble : List Item → Text
  | [] => []
  | .plain c :: rest => c :: assemble rest
  | .unit high :: .unit low :: rest =>
    if 0xD800 ≤ high ∧ high < 0xDC00 ∧ 0xDC00 ≤ low ∧ low < 0xE000 then
      .ofNat (0x10000 + (high - 0xD800) * 0x400 + (low - 0xDC00)) :: assemble rest
    else .ofNat high :: assemble (.unit low :: rest)
  | .unit n :: rest => .ofNat n :: assemble rest

/-- Reads a text; the first argument is the text from the opening quote on, the second what
follows the quote. -/
def readText (start rest : Text) : Except Stop (Text × Text) := do
  let (items, after) ← readItems start rest
  return (assemble items, after)

/-! ## 3. Numbers -/

/-- The ASCII digits at the beginning, by value, and what follows them. -/
def digits : Text → List Nat × Text
  | [] => ([], [])
  | c :: rest =>
    match c.asciiDigit? with
    | none => ([], c :: rest)
    | some d =>
      let (ds, after) := digits rest
      (d :: ds, after)

/-- The number that digits stand for. -/
def ofDigits (ds : List Nat) : Nat :=
  ds.foldl (fun n d => 10 * n + d) 0

/-- The digits of the integer part: a single zero, or digits of which the first is not zero. -/
def wholePart (t : Text) : List Nat × Text :=
  match digits t with
  | (0 :: _, _) => ([0], t.tail)
  | other => other

/-- A point with digits after it. -/
def fractionPart? : Text → Option (List Nat × Text)
  | .char '.' :: rest =>
    match digits rest with
    | ([], _) => none
    | other => some other
  | _ => none

/-- An exponent mark with an optional sign and digits after it. -/
def exponentPart? : Text → Option (Int × Text)
  | [] => none
  | mark :: rest =>
    if mark = 'e' ∨ mark = 'E' then
      let (negative, body) := match rest with
        | .char '-' :: body => (true, body)
        | .char '+' :: body => (false, body)
        | body => (false, body)
      match digits body with
      | ([], _) => none
      | (ds, after) => some (if negative then -(ofDigits ds : Int) else ofDigits ds, after)
    else none

/-- Reads the number at the beginning; `start` is the text from its sign on. -/
def readUnsigned (start : Text) (negative : Bool) (t : Text) : Except Stop (Json × Text) :=
  match wholePart t with
  | ([], _) => .error (.malformed .value start)
  | (whole, rest) =>
    let fraction? := fractionPart? rest
    let (fraction, rest) := fraction?.getD ([], rest)
    let exponent? := exponentPart? rest
    let (exponent, rest) := exponent?.getD (0, rest)
    if fraction?.isNone && exponent?.isNone then
      if Integer.maxDigits < whole.length then .error (.excess (.digits (.read whole.length)))
      else
        let n : Int := ofDigits whole
        .ok (.int (if negative then -n else n), rest)
    else
      .ok (.float (.ofDecimal negative (ofDigits (whole ++ fraction)) (exponent - fraction.length)),
        rest)

/-- Reads a number or one of the words for values. -/
def readWord (t : Text) : Except Stop (Json × Text) :=
  let words : List (Text × Json) := [
    ("null", .null), ("true", .bool true), ("false", .bool false), ("NaN", .float .nan),
    ("Infinity", .float (.infinite false)), ("-Infinity", .float (.infinite true))]
  match words.findSome? fun (word, value) => (Text.dropStart? word t).map (value, ·) with
  | some found => .ok found
  | none =>
    match t with
    | .char '-' :: rest => readUnsigned t true rest
    | _ => readUnsigned t false t

/-! ## 4. Values -/

def isSpace (c : CodePoint) : Bool :=
  c.satisfies fun c => c = ' ' || c = '\t' || c = '\n' || c = '\r'

def skipSpaces (t : Text) : Text :=
  t.dropWhile isSpace

mutual

/-- Reads a value that begins at once.  The first argument bounds the depth of the calls, the second
is how many collections may begin inside each other. -/
def readValue : Nat → Nat → Text → Except Stop (Json × Text)
  | 0, _, t => .error (.malformed .value t)
  | _ + 1, _, [] => .error (.malformed .value [])
  | bound + 1, depth, c :: rest =>
    if c = '"' then do
      let (t, after) ← readText (c :: rest) rest
      return (.text t, after)
    else if c = '\x7b' then readObject bound depth rest
    else if c = '[' then readArray bound depth rest
    else readWord (c :: rest)

/-- Reads an object behind its opening brace. -/
def readObject : Nat → Nat → Text → Except Stop (Json × Text)
  | 0, _, t => .error (.malformed .value t)
  | _ + 1, 0, _ => .error (.excess (.depth .object))
  | bound + 1, depth + 1, t =>
    match skipSpaces t with
    | .char '\x7d' :: after => .ok (.object [], after)
    | t => do
      let (members, after) ← readMembers bound depth t
      return (.object (settle members), after)

/-- Reads an array behind its opening bracket. -/
def readArray : Nat → Nat → Text → Except Stop (Json × Text)
  | 0, _, t => .error (.malformed .value t)
  | _ + 1, 0, _ => .error (.excess (.depth .array))
  | bound + 1, depth + 1, t =>
    match skipSpaces t with
    | .char ']' :: after => .ok (.array [], after)
    | t => do
      let (items, after) ← readElements bound depth t
      return (.array items, after)

/-- Reads members, at least one, and the closing brace. -/
def readMembers : Nat → Nat → Text → Except Stop (List (Text × Json) × Text)
  | 0, _, t => .error (.malformed .value t)
  | bound + 1, depth, t =>
    match t with
    | .char '"' :: rest => do
      let (name, after) ← readText t rest
      match skipSpaces after with
      | .char ':' :: rest => do
        let (value, after) ← readValue bound depth (skipSpaces rest)
        match skipSpaces after with
        | .char '\x7d' :: rest => return ([(name, value)], rest)
        | .char ',' :: rest => do
          let (members, after) ← readMembers bound depth (skipSpaces rest)
          return ((name, value) :: members, after)
        | rest => .error (.malformed .comma rest)
      | rest => .error (.malformed .colon rest)
    | _ => .error (.malformed .memberName t)

/-- Reads the elements of an array, at least one, and the closing bracket. -/
def readElements : Nat → Nat → Text → Except Stop (List Json × Text)
  | 0, _, t => .error (.malformed .value t)
  | bound + 1, depth, t => do
    let (value, after) ← readValue bound depth t
    match skipSpaces after with
    | .char ']' :: rest => return ([value], rest)
    | .char ',' :: rest => do
      let (values, after) ← readElements bound depth (skipSpaces rest)
      return (value :: values, after)
    | rest => .error (.malformed .comma rest)

end

/-- Reads a text that holds one value and nothing else but spaces.  A code point is read after at
most three calls inside each other, which bounds their depth. -/
def parse (t : Text) : Except Stop Json := do
  let (value, after) ← readValue (3 * t.length + 1) maxDepth (skipSpaces t)
  match skipSpaces after with
  | [] => return value
  | rest => .error (.malformed .extra rest)

/-! ## 5. Reading with places -/

/-- Why a text is no JSON: a malformation with its line and column, counted from one, and its
position, counted from zero; or an excess. -/
inductive ReadFault where
  | malformed (what : Malformation) (line column position : Nat)
  | excess (what : Excess)
  deriving DecidableEq, Repr

namespace ReadFault

def message : ReadFault → Text
  | .malformed what line column position =>
    what.message ++ ": line " ++ Integer.toText line ++ " column " ++ Integer.toText column ++
      " (char " ++ Integer.toText position ++ ")"
  | .excess what => what.message

/-- The fault of a text that stops at the given place. -/
def ofStop (t : Text) : Stop → ReadFault
  | .malformed what rest =>
    let position := t.length - rest.length
    let before := t.take position
    let column := (before.reverse.takeWhile (· ≠ .char '\n')).length + 1
    .malformed what (before.count (.char '\n') + 1) column position
  | .excess what => .excess what

end ReadFault

/-- Reads a JSON text. -/
def read (t : Text) : Except ReadFault Json :=
  match parse t with
  | .ok value => .ok value
  | .error stop => .error (.ofStop t stop)

end LogShipper.Json
