import LogShipper.Number.Numeral
import LogShipper.Text.LowerCase
import LogShipper.Url.Address
import LogShipper.Url.Domain
import LogShipper.Url.Percent

/-!
# URLs

A text is cut into the parts of a URL, which never fails, and each part is brought into its normal
form, which may.  In normal form the scheme and the host are in lower case, the host is in ASCII,
the port is a number and absent if it is the scheme's own, the path has no dot segments, and
everything that is not safe in its place is percent-encoded.
-/

namespace LogShipper

structure Url where
  scheme : Text
  userinfo : Text
  host : Text
  port : Option Int
  path : Text
  query : Option Text
  fragment : Option Text
  deriving DecidableEq, Repr

namespace Url

/-! ## 1. Faults -/

/-- The parts into which a text is cut. -/
inductive Component where
  | scheme
  | authority
  | path
  | query
  | fragment
  deriving DecidableEq, Repr

def Component.name : Component → Text
  | .scheme => "scheme"
  | .authority => "authority"
  | .path => "path"
  | .query => "query"
  | .fragment => "fragment"

/-- Why a text is no URL. -/
inductive Fault where
  | tooLong
  | componentTooLong (component : Component)
  | control (c : CodePoint) (position : Nat)
  | octets (host : Text)
  | groups (host : Text)
  | domain (host : Text)
  | port (t : Text)
  | detachedPath
  | slashedPath
  | colonPath
  | unencodable (fault : Utf8.EncodeFault)
  deriving DecidableEq, Repr

def Fault.message : Fault → Text
  | .tooLong => "URL too long"
  | .componentTooLong component => "URL component '" ++ component.name ++ "' too long"
  | .control c position =>
    "Invalid non-printable ASCII character in URL, " ++ Text.quoted [c] ++ " at position " ++
      Integer.toText position ++ "."
  | .octets host => "Invalid IPv4 address: " ++ Text.quoted host
  | .groups host => "Invalid IPv6 address: " ++ Text.quoted host
  | .domain host => "Invalid IDNA hostname: " ++ Text.quoted host
  | .port t => "Invalid port: " ++ Text.quoted t
  | .detachedPath => "For absolute URLs, path must be empty or begin with '/'"
  | .slashedPath => "Relative URLs cannot have a path starting with '//'"
  | .colonPath => "Relative URLs cannot have a path starting with ':'"
  | .unencodable fault => fault.message

/-! ## 2. Cutting a text -/

/-- A text cut at the marks between the parts of a URL. -/
structure Parts where
  scheme : Text
  authority : Text
  path : Text
  query : Option Text
  fragment : Option Text
  deriving DecidableEq, Repr

/-- A text up to the first of the given marks, and from there on. -/
def cutBefore (marks : List Char) (t : Text) : Text × Text :=
  t.span fun c => !c.satisfies marks.contains

/-- The text before the last occurrence of a mark and the text after it. -/
def cutAtLast? (mark : CodePoint) (t : Text) : Option (Text × Text) :=
  (Text.cutAt? mark t.reverse).map fun (after, before) => (before.reverse, after.reverse)

def isSchemeChar (c : CodePoint) : Bool :=
  c.satisfies fun c => c.isAlphanum || c = '+' || c = '.' || c = '-'

/-- The scheme before the first colon, which may be empty, and what follows the colon.  Without a
colon, or if something else than a scheme stands before it, there is no scheme. -/
def cutScheme (t : Text) : Text × Text :=
  match t.span isSchemeChar with
  | (scheme, .char ':' :: rest) =>
    if scheme.head?.all (·.satisfies Char.isAlpha) then (scheme, rest) else ([], t)
  | _ => ([], t)

/-- The parts of a text. -/
def Parts.ofText (t : Text) : Parts :=
  let (scheme, rest) := cutScheme t
  let (authority, rest) := match rest with
    | .char '/' :: .char '/' :: rest => cutBefore ['/', '?', '#'] rest
    | rest => ([], rest)
  let (path, rest) := cutBefore ['?', '#'] rest
  let (query, rest) := match rest with
    | .char '?' :: rest =>
      let (query, rest) := cutBefore ['#'] rest
      (some query, rest)
    | rest => (none, rest)
  ⟨scheme, authority, path, query, rest.head?.map fun _ => rest.tail⟩

/-- The host at the beginning, with its brackets if it has them, and what follows. -/
def cutHost (t : Text) : Text × Text :=
  match t.head?, cutAtLast? ']' t with
  -- What stands behind the last bracket is no part of the host, be it a port or not.
  | some (.char '['), some (inner, rest) => (inner ++ "]", rest)
  | _, _ => cutBefore [':'] t

/-- The user information, the host and the port of an authority; the user information ends at the
last at sign. -/
def cutAuthority (t : Text) : Text × Text × Text :=
  let (userinfo, rest) := (cutAtLast? '@' t).getD ([], t)
  let (host, rest) := cutHost rest
  (userinfo, host, if rest.head? = some (.char ':') then rest.tail else rest)

/-! ## 3. Normal forms -/

/-- Whether a host looks like four numbers, so that it has to be a numeric address. -/
def looksNumeric (host : Text) : Bool :=
  let parts := Text.splitOn '.' host
  parts.length = 4 && parts.all fun part => !part.isEmpty && part.all (·.asciiDigit?.isSome)

/-- Encodes a part. -/
def encodePart (isSafe : Char → Bool) (t : Text) : Except Fault Text :=
  match percentEncode isSafe t with
  | .ok encoded => .ok encoded
  | .error fault => .error (.unencodable fault)

/-- The normal form of a host, without brackets. -/
def normalizeHost (host : Text) : Except Fault Text :=
  if host.isEmpty then .ok []
  else if looksNumeric host then
    if isFourOctets host then .ok host else .error (.octets host)
  else if host.head? = some (.char '[') ∧ host.getLast? = some (.char ']') then
    let address := host.tail.dropLast
    if isEightGroups address then .ok address else .error (.groups host)
  else if host.isAscii then encodePart isHostSafe host.toLower
  else
    match Domain.toAscii host.toLower with
    | .ok ascii => .ok ascii
    | .error _ => .error (.domain host)

/-- The port that a scheme has by itself. -/
def ownPort? (scheme : Text) : Option Int :=
  let ports : List (Text × Int) :=
    [("ftp", 21), ("http", 80), ("https", 443), ("ws", 80), ("wss", 443)]
  ports.lookup scheme

/-- The port, unless it is empty or the scheme's own. -/
def normalizePort (t scheme : Text) : Except Fault (Option Int) :=
  if t.isEmpty then .ok none
  else
    match Numeral.readInteger 10 t with
    | .error _ => .error (.port t)
    | .ok port => .ok (if ownPort? scheme = some port then none else some port)

/-- A path may not look like an authority or a scheme, nor touch an authority. -/
def checkPath (path : Text) (hasScheme hasAuthority : Bool) : Except Fault Unit :=
  if hasAuthority then
    if path.isEmpty || Text.startsWith "/" path then .ok () else .error .detachedPath
  else if hasScheme then .ok ()
  else if Text.startsWith "//" path then .error .slashedPath
  else if Text.startsWith ":" path then .error .colonPath
  else .ok ()

/-- Adds a segment to those before it, of which the last stands first: a dot adds nothing, two dots
take the last one off, unless only the empty one before the first slash is left. -/
def addSegment (segments : List Text) (segment : Text) : List Text :=
  if segment = Text.ofString "." then segments
  else if segment = Text.ofString ".." then
    if segments = [[]] then segments else segments.tail
  else segment :: segments

/-- The path without dot segments. -/
def removeDots (path : Text) : Text :=
  let segments := Text.splitOn '/' path
  if segments.contains "." || segments.contains ".." then
    Text.joinWith "/" (segments.foldl addSegment []).reverse
  else path

/-- The URL of some parts. -/
def ofParts (parts : Parts) : Except Fault Url := do
  let (userinfo, host, port) := cutAuthority parts.authority
  let userinfo ← encodePart isUserinfoSafe userinfo
  let host ← normalizeHost host
  let port ← normalizePort port parts.scheme
  let hasScheme := !parts.scheme.isEmpty
  let hasAuthority := !userinfo.isEmpty || !host.isEmpty || port.isSome
  checkPath parts.path hasScheme hasAuthority
  let path := if hasScheme || hasAuthority then removeDots parts.path else parts.path
  return {
    scheme := parts.scheme.toLower
    userinfo
    host
    port
    path := ← encodePart isPathSafe path
    query := ← parts.query.mapM (encodePart isQuerySafe)
    fragment := ← parts.fragment.mapM (encodePart isFragmentSafe) }

/-! ## 4. Reading and writing -/

/-- How many code points a URL, or a part of one, may have. -/
def maxLength : Nat := 65536

def isControl (c : CodePoint) : Bool :=
  c.value < 0x20 || c.value == 0x7F

/-- Reads a URL. -/
def parse (t : Text) : Except Fault Url := do
  if maxLength < t.length then throw .tooLong
  match t.findIdx? isControl with
  | some i => throw (.control (t.getD i default) i)
  | none => ofParts (.ofText t)

/-- The host, in brackets if it is one of groups. -/
def bracketedHost (url : Url) : Text :=
  if url.host.contains ':' then .char '[' :: url.host ++ [.char ']'] else url.host

/-- A part behind its mark, if it is there. -/
def marked (mark : Char) (part : Option Text) : Text :=
  part.elim [] (.char mark :: ·)

/-- The host with its port, as it names the server. -/
def server (url : Url) : Text :=
  url.bracketedHost ++ marked ':' (url.port.map Integer.toText)

def authority (url : Url) : Text :=
  if url.userinfo.isEmpty then url.server else url.userinfo ++ .char '@' :: url.server

/-- The text of a URL. -/
def toText (url : Url) : Text :=
  (if url.scheme.isEmpty then [] else url.scheme ++ [.char ':']) ++
    (if url.authority.isEmpty then [] else .char '/' :: .char '/' :: url.authority) ++ url.path ++
    marked '?' url.query ++ marked '#' url.fragment

def parts (url : Url) : Parts where
  scheme := url.scheme
  authority := url.authority
  path := url.path
  query := url.query
  fragment := url.fragment

/-- The first part that is too long. -/
def Parts.oversized? (parts : Parts) : Option Component :=
  let texts : List (Component × Text) := [(.scheme, parts.scheme), (.authority, parts.authority),
    (.path, parts.path), (.query, parts.query.getD []), (.fragment, parts.fragment.getD [])]
  (texts.find? fun (_, t) => maxLength < t.length).map Prod.fst

/-- The URL with another path.  Its parts are brought into normal form once more. -/
def withPath (url : Url) (path : Text) : Except Fault Url :=
  let parts := { url.parts with path }
  match parts.oversized? with
  | some component => .error (.componentTooLong component)
  | none => ofParts parts

end Url

end LogShipper
