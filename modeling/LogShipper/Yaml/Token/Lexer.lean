import LogShipper.Yaml.Token.Name

/-!
# Reading tokens of YAML

Block collections are found by how far their lines are indented.  Whether a scalar or a collection
is a key shows only at the colon after it.  Where one begins that could be a key, its place among
the tokens is kept, and when the colon comes the key's token is put there.  A key ends on the line
where it begins and has at most 1024 code points.

A token can be had as soon as it is certain that no key begins with it.  So where a text breaks off,
the tokens from the first place on where a key may begin are not known.
-/

namespace LogShipper.Yaml

/-- Where a key may begin: its place among the tokens and in the text, and whether it must be
one. -/
structure PossibleKey where
  token : Nat
  line : Nat
  column : Nat
  index : Nat
  required : Bool
  deriving DecidableEq, Repr

/-- How far a stream has been read. -/
structure Lexer where
  rest : Text
  line : Nat := 0
  column : Nat := 0
  index : Nat := 0
  flowLevel : Nat := 0
  indent : Int := -1
  outerIndents : List Int := []
  keyAllowed : Bool := true
  possibleKeys : List (Nat × PossibleKey) := []
  tokens : List Token := []

namespace Lexer

/-- The most code points that a key may have. -/
def maxKeyLength : Nat := 1024

/-! ## 1. Moving on -/

/-- Passes one code point. -/
def pass (lexer : Lexer) (c : CodePoint) : Lexer :=
  if isBreak c then
    { lexer with line := lexer.line + 1, column := 0, index := lexer.index + 1 }
  else if c.value = 0xFEFF then { lexer with index := lexer.index + 1 }
  else { lexer with column := lexer.column + 1, index := lexer.index + 1 }

/-- Goes on to what remains of the text. -/
def moveTo (lexer : Lexer) (rest : Text) : Lexer :=
  let passed := lexer.rest.take (lexer.rest.length - rest.length)
  { passed.foldl pass lexer with rest }

def emit (lexer : Lexer) (token : Token) : Lexer :=
  { lexer with tokens := lexer.tokens ++ [token] }

/-- Emits a token for the next code points, as many as given. -/
def emitPassing (lexer : Lexer) (token : Token) (n : Nat) : Lexer :=
  (lexer.moveTo (lexer.rest.drop n)).emit token

/-- The text behind the spaces, comments and breaks at its beginning. -/
def afterGap (inComment : Bool) : Text → Text
  | [] => []
  | c :: rest =>
    if isBreak c then afterGap false rest
    else if inComment then afterGap true rest
    else if c = ' ' then afterGap false rest
    else if c = '#' then afterGap true rest
    else c :: rest

/-- Passes what stands between two tokens.  Outside of flow collections a new line may begin with
a key. -/
def passGap (lexer : Lexer) : Lexer :=
  let rest := if lexer.index = 0 && lexer.rest.head? = some (.ofNat 0xFEFF) then lexer.rest.tail
    else lexer.rest
  let moved := lexer.moveTo (afterGap false rest)
  { moved with
    keyAllowed := lexer.keyAllowed || (lexer.flowLevel = 0 && moved.line ≠ lexer.line) }

/-! ## 2. Keys and indentation -/

/-- Whether it is too late for a key to end here. -/
def isStale (lexer : Lexer) (key : PossibleKey) : Bool :=
  key.line ≠ lexer.line || maxKeyLength < lexer.index - key.index

/-- Forgets the places where a key has not ended in time. -/
def dropStaleKeys (lexer : Lexer) : Except Fault Lexer :=
  if lexer.possibleKeys.any fun (_, key) => lexer.isStale key && key.required then
    .error .malformed
  else
    .ok { lexer with
      possibleKeys := lexer.possibleKeys.filter fun (_, key) => !lexer.isStale key }

/-- Forgets the place of a key on the present level. -/
def dropKey (lexer : Lexer) : Except Fault Lexer :=
  match lexer.possibleKeys.lookup lexer.flowLevel with
  | none => .ok lexer
  | some key =>
    if key.required then .error .malformed
    else
      .ok { lexer with
        possibleKeys := lexer.possibleKeys.filter fun (level, _) => level ≠ lexer.flowLevel }

/-- Keeps the present place, if a key may begin here. -/
def keepKey (lexer : Lexer) : Except Fault Lexer :=
  if !lexer.keyAllowed then .ok lexer
  else do
    let lexer ← lexer.dropKey
    let key : PossibleKey := {
      token := lexer.tokens.length
      line := lexer.line
      column := lexer.column
      index := lexer.index
      required := lexer.flowLevel = 0 && lexer.indent = lexer.column }
    return { lexer with possibleKeys := (lexer.flowLevel, key) :: lexer.possibleKeys }

/-- Ends the block collections that are indented further than a column, given the indentations
around the present one. -/
def closeBlocks (lexer : Lexer) (column : Int) : List Int → Lexer
  | [] => lexer
  | outer :: outers =>
    if lexer.indent ≤ column then lexer
    else
      let closed := { lexer.emit .blockEnd with indent := outer, outerIndents := outers }
      closeBlocks closed column outers

/-- Ends the block collections that are indented further than a column, outside of flow
collections. -/
def unindent (lexer : Lexer) (column : Int) : Lexer :=
  if lexer.flowLevel = 0 then lexer.closeBlocks column lexer.outerIndents else lexer

/-- Indents to a column if that is further in, and says whether it is. -/
def indentTo (lexer : Lexer) (column : Nat) : Bool × Lexer :=
  if lexer.indent < column then
    (true, { lexer with indent := column, outerIndents := lexer.indent :: lexer.outerIndents })
  else (false, lexer)

/-- Begins a block collection here, unless one of the present indentation is open. -/
def openBlock (lexer : Lexer) (token : Token) : Lexer :=
  match lexer.indentTo lexer.column with
  | (true, lexer) => lexer.emit token
  | (false, lexer) => lexer

/-! ## 3. Single tokens -/

/-- A marker of a document, which ends all block collections. -/
def readMarker (lexer : Lexer) (token : Token) : Except Fault Lexer := do
  let lexer ← (lexer.unindent (-1)).dropKey
  return { lexer with keyAllowed := false }.emitPassing token 3

def readFlowStart (lexer : Lexer) (token : Token) : Except Fault Lexer := do
  let lexer ← lexer.keepKey
  return { lexer with flowLevel := lexer.flowLevel + 1, keyAllowed := true }.emitPassing token 1

def readFlowEnd (lexer : Lexer) (token : Token) : Except Fault Lexer := do
  if lexer.flowLevel = 0 then throw .malformed
  let lexer ← lexer.dropKey
  return { lexer with flowLevel := lexer.flowLevel - 1, keyAllowed := false }.emitPassing token 1

def readFlowEntry (lexer : Lexer) : Except Fault Lexer := do
  let lexer ← lexer.dropKey
  return { lexer with keyAllowed := true }.emitPassing .flowEntry 1

def readBlockEntry (lexer : Lexer) : Except Fault Lexer := do
  if lexer.flowLevel = 0 && !lexer.keyAllowed then throw .malformed
  let lexer := if lexer.flowLevel = 0 then lexer.openBlock .blockSequenceStart else lexer
  let lexer ← lexer.dropKey
  return { lexer with keyAllowed := true }.emitPassing .blockEntry 1

/-- A question mark, behind which a key follows. -/
def readKey (lexer : Lexer) : Except Fault Lexer := do
  if lexer.flowLevel = 0 && !lexer.keyAllowed then throw .malformed
  let lexer := if lexer.flowLevel = 0 then lexer.openBlock .blockMappingStart else lexer
  let lexer ← lexer.dropKey
  return { lexer with keyAllowed := lexer.flowLevel = 0 }.emitPassing .key 1

/-- Puts the token of a key where it begins, and before it that of a block mapping if the key is
the first one. -/
def insertKey (lexer : Lexer) (key : PossibleKey) : Lexer :=
  let lexer := { lexer with tokens := lexer.tokens.insertIdx key.token .key }
  if lexer.flowLevel ≠ 0 then lexer
  else
    match lexer.indentTo key.column with
    | (true, lexer) =>
      { lexer with tokens := lexer.tokens.insertIdx key.token .blockMappingStart }
    | (false, lexer) => lexer

/-- A colon, behind which a value follows. -/
def readValue (lexer : Lexer) : Except Fault Lexer :=
  match lexer.possibleKeys.lookup lexer.flowLevel with
  | some key =>
    let lexer := { lexer with
      possibleKeys := lexer.possibleKeys.filter fun (level, _) => level ≠ lexer.flowLevel }
    .ok ({ lexer.insertKey key with keyAllowed := false }.emitPassing .value 1)
  | none => do
    if lexer.flowLevel = 0 && !lexer.keyAllowed then throw .malformed
    let lexer := if lexer.flowLevel = 0 then lexer.openBlock .blockMappingStart else lexer
    return { lexer with keyAllowed := lexer.flowLevel = 0 }.emitPassing .value 1

/-- An anchor or an alias. -/
def readNamed (lexer : Lexer) (token : Text → Token) : Except Fault Lexer := do
  let lexer ← lexer.keepKey
  let (name, rest) ← readName lexer.rest.tail
  return ({ lexer with keyAllowed := false }.moveTo rest).emit (token name)

def readQuotedScalar (lexer : Lexer) (double : Bool) : Except Fault Lexer := do
  let lexer ← lexer.keepKey
  let (value, rest) ← readQuoted double lexer.rest.tail
  return ({ lexer with keyAllowed := false }.moveTo rest).emit (.scalar false value)

def readPlainScalar (lexer : Lexer) : Except Fault Lexer := do
  let lexer ← lexer.keepKey
  let scalar := readPlain (lexer.flowLevel ≠ 0) (lexer.indent + 1) lexer.rest
  return ({ lexer with keyAllowed := scalar.crossesLine }.moveTo scalar.rest).emit
    (.scalar true scalar.value)

def readBlockScalar (lexer : Lexer) (folded : Bool) : Except Fault Lexer := do
  let lexer ← lexer.dropKey
  let (value, rest) ← readBlock folded lexer.indent lexer.rest.tail
  return ({ lexer with keyAllowed := true }.moveTo rest).emit (.scalar false value)

/-- A tag. -/
def readTagToken (lexer : Lexer) : Except Fault Lexer := do
  let lexer ← lexer.keepKey
  let (token, rest) ← readTag lexer.rest.tail
  return ({ lexer with keyAllowed := false }.moveTo rest).emit token

/-- A directive, which ends all block collections. -/
def readDirectiveToken (lexer : Lexer) : Except Fault Lexer := do
  let lexer ← (lexer.unindent (-1)).dropKey
  let (token, rest) ← readDirective lexer.rest.tail
  return ({ lexer with keyAllowed := false }.moveTo rest).emit token

/-! ## 4. All tokens -/

/-- Code points with which no plain scalar begins. -/
def isIndicator (c : CodePoint) : Bool :=
  c.satisfies "-?:,[]\x7b\x7d#&*!|>'\"%@\x60".toList.contains

/-- Whether a plain scalar begins here. -/
def beginsPlain (inFlow : Bool) (c : CodePoint) (rest : Text) : Bool :=
  !isWhite c && !isIndicator c ||
    !beginsWhite rest && (c = '-' || !inFlow && (c = '?' || c = ':'))

/-- Reads the token that begins with a code point. -/
def readToken (lexer : Lexer) (c : CodePoint) (rest : Text) : Except Fault Lexer :=
  let inFlow := lexer.flowLevel ≠ 0
  let atMarker := lexer.column = 0 && beginsMarker (c :: rest)
  -- A marker at the beginning of a line comes before everything that its first mark could begin.
  if c = '%' && lexer.column = 0 then lexer.readDirectiveToken
  else if c = '-' && atMarker then lexer.readMarker .documentStart
  else if c = '.' && atMarker then lexer.readMarker .documentEnd
  else if c = '[' then lexer.readFlowStart .flowSequenceStart
  else if c = '\x7b' then lexer.readFlowStart .flowMappingStart
  else if c = ']' then lexer.readFlowEnd .flowSequenceEnd
  else if c = '\x7d' then lexer.readFlowEnd .flowMappingEnd
  else if c = ',' then lexer.readFlowEntry
  else if c = '-' && beginsWhite rest then lexer.readBlockEntry
  else if c = '?' && (inFlow || beginsWhite rest) then lexer.readKey
  else if c = ':' && (inFlow || beginsWhite rest) then lexer.readValue
  else if c = '*' then lexer.readNamed .alias
  else if c = '&' then lexer.readNamed .anchor
  else if c = '!' then lexer.readTagToken
  else if c = '|' && !inFlow then lexer.readBlockScalar false
  else if c = '>' && !inFlow then lexer.readBlockScalar true
  else if c = '\'' then lexer.readQuotedScalar false
  else if c = '"' then lexer.readQuotedScalar true
  else if beginsPlain inFlow c rest then lexer.readPlainScalar
  else .error .malformed

/-- Reads what comes next: a token, or the end of the text. -/
def readNext (lexer : Lexer) : Except Fault (Lexer × Bool) := do
  let lexer ← lexer.passGap.dropStaleKeys
  let lexer := lexer.unindent lexer.column
  match lexer.rest with
  | [] => return (← (lexer.unindent (-1)).dropKey, true)
  | c :: rest => return (← lexer.readToken c rest, false)

/-- The tokens that can be had: those before the first place where a key may still begin. -/
def known (lexer : Lexer) : List Token :=
  let places := lexer.possibleKeys.filterMap fun (_, key) =>
    if lexer.isStale key then none else some key.token
  lexer.tokens.take (places.foldl min lexer.tokens.length)

/-- Reads the tokens that are left.  The first argument bounds their number. -/
def readAll : Nat → Lexer → Tokens
  | 0, lexer => ⟨lexer.known, some .malformed⟩
  | bound + 1, lexer =>
    match lexer.readNext with
    | .error fault => ⟨lexer.known, some fault⟩
    | .ok (lexer, true) => ⟨lexer.tokens, none⟩
    | .ok (lexer, false) => readAll bound lexer

end Lexer

/-- The tokens of a text. -/
def Tokens.ofText (t : Text) : Tokens :=
  Lexer.readAll (t.length + 1) { rest := t }

end LogShipper.Yaml
