import LogShipper.LogTable
import LogShipper.Text.Utf8

/-!
# Payloads

A payload is what one request sends: the api key, the session, the events, and the table of their
log keys.  It is produced in pieces, one per event and one per row of the table with three that
hold them together, so that the whole document is never built; `document` is that document.

A piece that cannot be written ends the payload.  The pieces before it have been produced.
-/

namespace LogShipper

structure Payload where
  token : Text
  session : Text
  events : List Event
  deriving DecidableEq, Repr

/-- Why a payload cannot be written: an integer is too long, a surrogate stands in a text, or the
key of an event is not in the table. -/
inductive SerializationFault where
  | oversized (cause : Oversized)
  | unencodable (fault : Utf8.EncodeFault)
  | unknownKey (key : LogKey)
  deriving DecidableEq, Repr

def SerializationFault.message : SerializationFault → Text
  | .oversized cause => cause.message
  | .unencodable fault => fault.message
  | .unknownKey key => key.literal

namespace Event

/-- The event as it is sent, with the id of its log key. -/
def document (event : Event) (id : Nat) : Json :=
  .object [
    ("ts", .int event.timestampNanos),
    ("si", .text event.sequenceId),
    ("sn", .int event.sequenceOffset),
    ("attrs", .object [("message", event.message.elim .null .text)]),
    ("log", .text (Integer.toText id))]

/-- The event as it is sent.  Its sequence id must not hold an integer that is too long, and its
key must be in the table. -/
def document? (event : Event) (table : LogTable) : Except SerializationFault Json :=
  if Integer.isOversized event.partition then .error (.oversized .written)
  else
    match table.idFor? event with
    | none => .error (.unknownKey event.logKey)
    | some id => .ok (event.document id)

end Event

namespace Payload

/-- The bytes of a piece. -/
def encodePiece (t : Text) : Except SerializationFault Bytes :=
  match Utf8.encode t with
  | .ok bytes => .ok bytes
  | .error fault => .error (.unencodable fault)

/-- The bytes of a piece that is a value with some text before it. -/
def encodeValue (lead : Text) (value : Json) : Except SerializationFault Bytes :=
  match Json.write value with
  | .error cause => .error (.oversized cause)
  | .ok t => encodePiece (lead ++ t)

/-- Each item with the text that separates it from the one before it. -/
def separated {α : Type} : List α → List (Text × α)
  | [] => []
  | item :: items => ([], item) :: items.map fun item => (",", item)

def head (payload : Payload) : Text :=
  "\x7b\"token\":" ++ Json.writeText payload.token ++ ",\"session\":" ++
    Json.writeText payload.session ++ ",\"events\":["

def middle : Text := "],\"logs\":["

def tail : Text := "]\x7d"

/-- The pieces, each with the fault that prevents it if there is one. -/
def pieces (payload : Payload) (table : LogTable) : List (Except SerializationFault Bytes) :=
  [encodePiece payload.head] ++
  (separated payload.events).map (fun (lead, event) => do
    encodeValue lead (← event.document? table)) ++
  [encodePiece middle] ++
  (separated table.entries).map (fun (lead, entry) => encodeValue lead entry.document) ++
  [encodePiece tail]

/-- What was produced of a payload: the pieces before the first fault, and the fault. -/
structure Production where
  chunks : List Bytes
  fault : Option SerializationFault
  deriving DecidableEq, Repr

/-- The pieces before the first fault. -/
def Production.ofPieces : List (Except SerializationFault Bytes) → Production
  | [] => ⟨[], none⟩
  | .error fault :: _ => ⟨[], some fault⟩
  | .ok chunk :: rest =>
    let production := ofPieces rest
    { production with chunks := chunk :: production.chunks }

/-- How many bytes were produced. -/
def Production.size (production : Production) : Nat :=
  production.chunks.flatten.length

/-- Produces the payload with a given table of log keys. -/
def produceWith (payload : Payload) (table : LogTable) : Production :=
  .ofPieces (payload.pieces table)

/-- Produces the payload with the table of the keys of its own events, or with another one. -/
def produce (payload : Payload) (table : Option LogTable := none) : Production :=
  payload.produceWith (table.getD (.ofEvents payload.events))

/-- All bytes of the payload. -/
def serialize (payload : Payload) : Except SerializationFault Bytes :=
  let production := payload.produce
  match production.fault with
  | none => .ok production.chunks.flatten
  | some fault => .error fault

/-- The whole payload as one document, if every event has its key in the table. -/
def document? (payload : Payload) (table : LogTable) : Except SerializationFault Json := do
  let events ← payload.events.mapM (·.document? table)
  return .object [
    ("token", .text payload.token),
    ("session", .text payload.session),
    ("events", .array events),
    ("logs", .array (table.entries.map LogEntry.document))]

end Payload

end LogShipper
