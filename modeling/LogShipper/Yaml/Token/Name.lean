import LogShipper.Text.Utf8
import LogShipper.Yaml.Token
import LogShipper.Yaml.Token.Scalar

/-!
# Names, tags and directives of YAML

Anchors and aliases have names of letters, digits, hyphens and underscores.  A tag is a handle
between exclamation marks and a rest of code points as in a URL, of which some may be given by
percent signs and hexadecimal digits.  Each reader takes the text from behind the mark that begins
what it reads, and answers with what follows it.
-/

namespace LogShipper.Yaml

/-! ## 1. Names -/

def isNameChar (c : CodePoint) : Bool :=
  c.satisfies fun c => c.isAlphanum || c = '-' || c = '_'

/-- The name of an anchor. -/
def readName (t : Text) : Except Fault (Text × Text) :=
  let (name, rest) := t.span isNameChar
  let endsHere := beginsWhite rest || rest.head?.any (·.satisfies
    ['?', ':', ',', ']', '\x7d', '%', '@', '\x60'].contains)
  if name.isEmpty || !endsHere then .error .malformed else .ok (name, rest)

/-! ## 2. Tags -/

/-- Whether nothing, a space or a break comes first. -/
def endsWord (t : Text) : Bool :=
  t.head?.all fun c => c = .char ' ' || isBreak c

def isTagChar (c : CodePoint) : Bool :=
  c.satisfies fun c => c.isAlphanum || "-;/?:@&=+$,_.!~*'()[]".toList.contains c

/-- The bytes that percent signs give. -/
def percentBytes : Text → Except Fault (Bytes × Text)
  | .char '%' :: high :: low :: rest =>
    match high.hexDigit?, low.hexDigit? with
    | some high, some low => do
      let (bytes, after) ← percentBytes rest
      return ((16 * high + low).toUInt8 :: bytes, after)
    | _, _ => .error .malformed
  | .char '%' :: _ => .error .malformed
  | t => .ok ([], t)

/-- The part of a tag behind its handle.  The first argument bounds the number of its pieces. -/
def readTagPieces : Nat → Text → Except Fault (Text × Text)
  | 0, t => .ok ([], t)
  | _ + 1, [] => .ok ([], [])
  | bound + 1, c :: rest => do
    if c = '%' then
      let (bytes, rest) ← percentBytes (c :: rest)
      match Utf8.decode bytes with
      | .error _ => throw .malformed
      | .ok piece =>
        let (more, after) ← readTagPieces bound rest
        return (piece ++ more, after)
    else if isTagChar c then
      let (more, after) ← readTagPieces bound rest
      return (c :: more, after)
    else return ([], c :: rest)

/-- The part of a tag behind its handle, which may not be missing. -/
def readTagRest (t : Text) : Except Fault (Text × Text) :=
  let begins := t.head?.any fun c => isTagChar c || c = .char '%'
  if begins then readTagPieces t.length t else .error .malformed

/-- A handle between exclamation marks, from behind the first one. -/
def readHandle (t : Text) : Except Fault (Text × Text) :=
  match t.span isNameChar with
  | (name, .char '!' :: rest) => .ok (.char '!' :: name ++ [.char '!'], rest)
  | _ => .error .malformed

/-- The handle of a tag, if it has one, and the part behind it. -/
def readTagParts (t : Text) : Except Fault (Option Text × Text × Text) := do
  match t with
  | .char '<' :: rest =>
    match ← readTagRest rest with
    | (name, .char '>' :: rest) => return (none, name, rest)
    | _ => throw .malformed
  | t =>
    if beginsWhite t then return (none, "!", t)
    else
      let word := t.takeWhile fun c => c ≠ .char ' ' && !isBreak c
      let (handle, rest) ← if word.contains '!' then readHandle t
        else pure (Text.ofString "!", t)
      let (name, rest) ← readTagRest rest
      return (some handle, name, rest)

/-- A tag. -/
def readTag (t : Text) : Except Fault (Token × Text) := do
  let (handle, name, rest) ← readTagParts t
  if endsWord rest then return (.tag handle name, rest) else throw .malformed

/-! ## 3. Directives -/

/-- A number of at least one digit. -/
def readNumber (t : Text) : Except Fault (Nat × Text) :=
  match t.span (·.asciiDigit?.isSome) with
  | ([], _) => .error .malformed
  | (digits, rest) =>
    if Integer.maxDigits < digits.length then
      .error (.numeral (.oversized (.read digits.length)))
    else .ok (Numeral.ofDigits 10 (digits.filterMap CodePoint.asciiDigit?), rest)

def skipSpaces (t : Text) : Text :=
  t.dropWhile (· = .char ' ')

/-- The version in a directive. -/
def readVersion (t : Text) : Except Fault (Directive × Text) := do
  let (major, rest) ← readNumber (skipSpaces t)
  match rest with
  | .char '.' :: rest =>
    let (_, rest) ← readNumber rest
    return (.version major, rest)
  | _ => throw .malformed

/-- The handle in a directive, which may be a single mark, and the beginning for which it stands. -/
def readHandleMeaning (t : Text) : Except Fault (Directive × Text) := do
  match skipSpaces t with
  | .char '!' :: rest =>
    let (handle, rest) ←
      if rest.head? = some (.char ' ') then pure (Text.ofString "!", rest) else readHandle rest
    if rest.head? ≠ some (.char ' ') then throw .malformed
    let (beginning, rest) ← readTagRest (skipSpaces rest)
    return (.handle handle beginning, rest)
  | _ => throw .malformed

/-- A directive with the rest of its line, which may be a comment. -/
def readDirective (t : Text) : Except Fault (Token × Text) := do
  let (name, rest) := t.span isNameChar
  if name.isEmpty || !endsWord rest then throw .malformed
  let (directive, rest) ←
    if name = Text.ofString "YAML" then readVersion rest
    else if name = Text.ofString "TAG" then readHandleMeaning rest
    else pure (Directive.unknown, rest.dropWhile (!isBreak ·))
  if !endsWord rest then throw .malformed
  return (.directive directive, ← afterComment rest)

end LogShipper.Yaml
