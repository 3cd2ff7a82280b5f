import LogShipper.Text.DecimalDigit
import LogShipper.Yaml.Fault

/-!
# Reading scalars of YAML

A scalar is plain, quoted, or a block of lines.  Each reader here takes the text from where the
scalar begins and answers with its value and what follows it.  Where a plain or quoted scalar goes
over the end of a line, one break becomes a space and of several the first is left out; a marker of
a document at the beginning of a line ends a plain scalar and may not stand in a quoted one.
-/

namespace LogShipper.Yaml

/-! ## 1. Breaks and blanks -/

def isBreak (c : CodePoint) : Bool :=
  c.value == 0x0A || c.value == 0x85 || c.value == 0x2028 || c.value == 0x2029

def isBlank (c : CodePoint) : Bool :=
  c = ' ' || c = '\t'

def isWhite (c : CodePoint) : Bool :=
  isBlank c || isBreak c

/-- Whether nothing, a blank or a break comes first. -/
def beginsWhite (t : Text) : Bool :=
  t.head?.all isWhite

/-- Whether a line begins with a marker of a document. -/
def beginsMarker (t : Text) : Bool :=
  (t.take 3 = Text.ofString "---" || t.take 3 = Text.ofString "...") && beginsWhite (t.drop 3)

/-- What a break counts as: a line feed, unless it separates lines or paragraphs. -/
def normalBreak (c : CodePoint) : CodePoint :=
  if c.value = 0x2028 ∨ c.value = 0x2029 then c else '\n'

/-- What a break and the ones after it become inside a scalar. -/
def foldBreaks (first : CodePoint) (more : Text) : Text :=
  if normalBreak first ≠ '\n' then normalBreak first :: more
  else if more.isEmpty then " "
  else more

/-! ## 2. Quoted scalars -/

/-- Passes blanks and breaks inside a quoted scalar: the breaks, and what follows. -/
def quotedBreaks (atLineStart : Bool) : Text → Except Fault (Text × Text)
  | [] => .ok ([], [])
  | c :: rest =>
    if atLineStart && beginsMarker (c :: rest) then .error .malformed
    else if isBlank c then quotedBreaks false rest
    else if isBreak c then do
      let (breaks, after) ← quotedBreaks true rest
      return (normalBreak c :: breaks, after)
    else .ok ([], c :: rest)

/-- The code point that a one-letter escape means. -/
def letterEscape? (c : CodePoint) : Option CodePoint :=
  let meanings : List (Char × Nat) := [
    ('0', 0x00), ('a', 0x07), ('b', 0x08), ('t', 0x09), ('\t', 0x09), ('n', 0x0A), ('v', 0x0B),
    ('f', 0x0C), ('r', 0x0D), ('e', 0x1B), (' ', 0x20), ('"', 0x22), ('\\', 0x5C), ('/', 0x2F),
    ('N', 0x85), ('_', 0xA0), ('L', 0x2028), ('P', 0x2029)]
  match c with
  | .char c => (meanings.lookup c).map .ofNat
  | .surrogate _ => none

/-- How many hexadecimal digits follow the letter of an escape. -/
def escapeWidth? (c : CodePoint) : Option Nat :=
  if c = 'x' then some 2 else if c = 'u' then some 4 else if c = 'U' then some 8 else none

/-- The code point given by the hexadecimal digits of an escape. -/
def numberEscape (digits : Text) : Except Fault CodePoint :=
  match digits.mapM CodePoint.hexDigit? with
  | none => .error .malformed
  | some ds =>
    let n := ds.foldl (fun n d => 16 * n + d) 0
    if n < 0x110000 then .ok (.ofNat n) else .error (.noCodePoint n)

/-- What an escape means, read from behind its backslash, and what follows it. -/
def readEscape : Text → Except Fault (Text × Text)
  | [] => .error .malformed
  | c :: rest =>
    if isBreak c then quotedBreaks true rest
    else
      match letterEscape? c with
      | some meant => .ok ([meant], rest)
      | none =>
        match escapeWidth? c with
        | none => .error .malformed
        | some width =>
          if rest.length < width then .error .malformed
          else (numberEscape (rest.take width)).map fun meant => ([meant], rest.drop width)

/-- Passes white space inside a quoted scalar: what it becomes, and what follows. -/
def readWhite (t : Text) : Except Fault (Text × Text) :=
  match t.span isBlank with
  | (_, []) => .error .malformed
  | (blanks, c :: rest) =>
    if isBreak c then do
      let (breaks, after) ← quotedBreaks true rest
      return (foldBreaks c breaks, after)
    else .ok (blanks, c :: rest)

/-- Reads a quoted scalar from behind its opening quote.  The first argument bounds the number of
its pieces. -/
def readQuotedPieces (double : Bool) : Nat → Text → Except Fault (Text × Text)
  | 0, _ | _, [] => .error .malformed
  | bound + 1, c :: rest => do
    let quote : Char := if double then '"' else '\''
    if c = quote then
      if !double && rest.head? = some (.char quote) then
        let (value, after) ← readQuotedPieces double bound rest.tail
        return (.char quote :: value, after)
      else return ([], rest)
    else
      let (piece, rest) ←
        if isWhite c then readWhite (c :: rest)
        else if double && c = '\\' then readEscape rest
        else pure ([c], rest)
      let (value, after) ← readQuotedPieces double bound rest
      return (piece ++ value, after)

/-- Reads a quoted scalar from behind its opening quote. -/
def readQuoted (double : Bool) (t : Text) : Except Fault (Text × Text) :=
  readQuotedPieces double (t.length + 1) t

/-! ## 3. Plain scalars -/

/-- Whether a colon ends what stands before it, given what follows the colon. -/
def colonEnds (inFlow : Bool) (after : Text) : Bool :=
  beginsWhite after ||
    inFlow && after.head?.any (·.satisfies [',', '[', ']', '\x7b', '\x7d'].contains)

/-- The part of a plain scalar up to white space, and what follows. -/
def plainChunk (inFlow : Bool) : Text → Text × Text
  | [] => ([], [])
  | c :: rest =>
    if isWhite c || c = ':' && colonEnds inFlow rest ||
        inFlow && c.satisfies [',', '?', '[', ']', '\x7b', '\x7d'].contains then
      ([], c :: rest)
    else
      let (chunk, after) := plainChunk inFlow rest
      (c :: chunk, after)

/-- White space after a part of a plain scalar: what it becomes, the column after it if it crosses
the end of a line, and whether a marker of a document follows. -/
structure PlainGap where
  becomes : Text := []
  column? : Option Nat := none
  atMarker : Bool := false
  rest : Text

/-- Passes spaces and breaks from a column on: the breaks, the column, and what follows. -/
def plainBreaks (column : Nat) : Text → Text × Nat × Text
  | [] => ([], column, [])
  | c :: rest =>
    if column = 0 && beginsMarker (c :: rest) then ([], 0, c :: rest)
    else if c = ' ' then plainBreaks (column + 1) rest
    else if isBreak c then
      let (breaks, column, after) := plainBreaks 0 rest
      (normalBreak c :: breaks, column, after)
    else ([], column, c :: rest)

/-- Passes the white space after a part of a plain scalar. -/
def plainGap (t : Text) : PlainGap :=
  match t.span (· = .char ' ') with
  | (spaces, c :: rest) =>
    if isBreak c then
      let (breaks, column, after) := plainBreaks 0 rest
      ⟨foldBreaks c breaks, some column, column = 0 && beginsMarker after, after⟩
    else { becomes := spaces, rest := c :: rest }
  | (spaces, []) => { becomes := spaces, rest := [] }

/-- A plain scalar as it was read: its value, what follows it and the white space after it, and
whether that crosses the end of a line. -/
structure PlainScalar where
  value : Text
  rest : Text
  crossesLine : Bool

/-- Reads the parts of a plain scalar.  Outside of flow collections a line that begins before the
column `indent` is no part of it.  The first argument bounds the number of parts. -/
def readPlainParts (inFlow : Bool) (indent : Int) : Nat → Text → PlainScalar
  | 0, t => ⟨[], t, false⟩
  | bound + 1, t =>
    match plainChunk inFlow t with
    | ([], _) => ⟨[], t, false⟩
    | (chunk, after) =>
      let gap := plainGap after
      let crossesLine := gap.column?.isSome
      let isOutside := !inFlow && gap.column?.any fun column => (column : Int) < indent
      if gap.becomes.isEmpty || gap.atMarker || gap.rest.head? = some (.char '#') || isOutside then
        ⟨chunk, gap.rest, crossesLine⟩
      else
        let more := readPlainParts inFlow indent bound gap.rest
        if more.value.isEmpty then ⟨chunk, gap.rest, crossesLine⟩
        else { more with value := chunk ++ gap.becomes ++ more.value }

/-- Reads a plain scalar. -/
def readPlain (inFlow : Bool) (indent : Int) (t : Text) : PlainScalar :=
  readPlainParts inFlow indent t.length t

/-! ## 4. Block scalars -/

/-- What is done with the breaks at the end of a block. -/
inductive Chomping where
  | strip
  | clip
  | keep
  deriving DecidableEq, Repr

/-- The chomping that a sign asks for. -/
def chomping? (c : CodePoint) : Option Chomping :=
  if c = '+' then some .keep else if c = '-' then some .strip else none

/-- The number that asks for an indentation: a digit but zero. -/
def indentation? (c : CodePoint) : Except Fault (Option Nat) :=
  match c.asciiDigit? with
  | some 0 => .error .malformed
  | other => .ok other

/-- Reads the indicators of a block, in either order. -/
def blockIndicators (t : Text) : Except Fault (Chomping × Option Nat × Text) :=
  match t with
  | [] => .ok (.clip, none, t)
  | c :: rest =>
    match chomping? c with
    | some chomping =>
      match rest with
      | d :: after => do
        match ← indentation? d with
        | some n => return (chomping, some n, after)
        | none => return (chomping, none, rest)
      | [] => .ok (chomping, none, [])
    | none => do
      match ← indentation? c with
      | none => return (.clip, none, t)
      | some n =>
        match rest with
        | d :: after =>
          match chomping? d with
          | some chomping => return (chomping, some n, after)
          | none => return (.clip, some n, rest)
        | [] => return (.clip, some n, [])

/-- The lines after one that may hold only a comment. -/
def afterComment (t : Text) : Except Fault Text :=
  let t := t.dropWhile (· = .char ' ')
  let t := if t.head? = some (.char '#') then t.dropWhile (!isBreak ·) else t
  match t with
  | [] => .ok []
  | c :: rest => if isBreak c then .ok rest else .error .malformed

/-- Passes the blank lines at the beginning of a block: their breaks, the largest column reached,
the column where they end, and what follows. -/
def leadingLines (column largest : Nat) : Text → Text × Nat × Nat × Text
  | [] => ([], largest, column, [])
  | c :: rest =>
    if c = ' ' then leadingLines (column + 1) (max largest (column + 1)) rest
    else if isBreak c then
      let (breaks, largest, column, after) := leadingLines 0 largest rest
      (normalBreak c :: breaks, largest, column, after)
    else ([], largest, column, c :: rest)

/-- Passes blank lines up to a column: their breaks, the column where they end, and what
follows. -/
def blankLines (indent column : Nat) : Text → Text × Nat × Text
  | [] => ([], column, [])
  | c :: rest =>
    if c = ' ' && column < indent then blankLines indent (column + 1) rest
    else if isBreak c then
      let (breaks, column, after) := blankLines indent 0 rest
      (normalBreak c :: breaks, column, after)
    else ([], column, c :: rest)

/-- The end of a block. -/
def chomp (chomping : Chomping) (lineBreak breaks : Text) : Text :=
  match chomping with
  | .strip => []
  | .clip => lineBreak
  | .keep => lineBreak ++ breaks

/-- Reads the lines of a block that are indented to a column, given the breaks before them.  The
first argument bounds the number of lines. -/
def blockLines (folded : Bool) (chomping : Chomping) (indent : Nat) :
    Nat → (column : Nat) → (breaks : Text) → Text → Text × Text
  | 0, _, breaks, t => (chomp chomping [] breaks, t)
  | bound + 1, column, breaks, t =>
    if column ≠ indent || t.isEmpty then (chomp chomping [] breaks, t)
    else
      let (line, after) := t.span (!isBreak ·)
      let lineBreak : Text := (after.head?.map normalBreak).toList
      let (more, column, rest) := blankLines indent 0 after.tail
      if column ≠ indent || rest.isEmpty then
        (breaks ++ line ++ chomp chomping lineBreak more, rest)
      else
        let joins := folded && lineBreak = Text.ofString "\n" && !t.head?.any isBlank &&
          !rest.head?.any isBlank
        let between := if !joins then lineBreak else if more.isEmpty then " " else []
        let (value, rest) := blockLines folded chomping indent bound column more rest
        (breaks ++ line ++ between ++ value, rest)

/-- Reads a block from behind its mark, inside a collection that is indented to a column or none. -/
def readBlock (folded : Bool) (outer : Int) (t : Text) : Except Fault (Text × Text) := do
  let (chomping, increment, rest) ← blockIndicators t
  if !rest.head?.all fun c => c = .char ' ' || isBreak c then throw .malformed
  let rest ← afterComment rest
  let least := (max (outer + 1) 1).toNat
  match increment with
  | some n =>
    let indent := least + n - 1
    let (breaks, column, rest) := blankLines indent 0 rest
    return blockLines folded chomping indent rest.length column breaks rest
  | none =>
    let (breaks, largest, column, rest) := leadingLines 0 0 rest
    return blockLines folded chomping (max least largest) rest.length column breaks rest

end LogShipper.Yaml
