import LogShipper.Clock
import LogShipper.Config
import LogShipper.Event

/-!
# Records and the events made of them

A record is a value with its place in a stream.  The fields of its event are found in the value,
which has to be an object, each under a name: first as a member of that very name, then along the
path of the parts of the name between points.  A field that is not found is absent; one that is no
text is shown as a literal.
-/

namespace LogShipper

structure Record where
  topic : Text
  partition : Int
  offset : Int
  value : Json
  timestampMillis : Option Int := none
  deriving Inhabited

/-- Why a record makes no event: its value is no object, an integer in it is too long to be shown,
or the name of a field is no text. -/
inductive MappingFault where
  | notObject (record : Record)
  | oversized (cause : Oversized)
  | notName (name : Json)
  deriving Inhabited

namespace MappingFault

/-- Why a value is no name: collections cannot be looked for, and scalars have no parts. -/
def notNameMessage : Json → Text
  | .array items => "unhashable type: '" ++ (Json.array items).kind ++ "'"
  | .object members => "unhashable type: '" ++ (Json.object members).kind ++ "'"
  | name => "'" ++ name.kind ++ "' object has no attribute 'split'"

/-- The text for a fault.  A place that is too long to be shown is what is reported then. -/
def message : MappingFault → Text
  | .notObject record =>
    if Integer.isOversized record.partition || Integer.isOversized record.offset then
      Oversized.written.message
    else
      "Record " ++ record.topic ++ "-" ++ Integer.toText record.partition ++ "@" ++
        Integer.toText record.offset ++ " value must be a dict, got " ++ record.value.kind
  | .oversized cause => cause.message
  | .notName name => notNameMessage name

/-- The name under which a batch is counted that has such a record.  A name that is no text is no
failure of the batch. -/
def countedAs? : MappingFault → Option Text
  | .notObject _ | .oversized _ => some "ValueError"
  | .notName _ => none

end MappingFault

namespace Json

/-- The value at the end of a path of member names. -/
def atPath? : List Text → Json → Option Json
  | [], value => some value
  | name :: path, .object members =>
    match member? name members with
    | some value => atPath? path value
    | none => none
  | _ :: _, _ => none

/-- The value of the field of a name; null if there is none. -/
def field (name : Text) (members : List (Text × Json)) : Json :=
  match member? name members with
  | some value => value
  | none => (atPath? (Text.splitOn '.' name) (.object members)).getD .null

/-- A value as the text of a field; null is absent. -/
def fieldText? : Json → Except Oversized (Option Text)
  | .null => .ok none
  | value => if value.hasOversized then .error .written else .ok (some value.display)

end Json

namespace Record

/-- The text of the field of a name, which has to be a text. -/
def fieldText? (members : List (Text × Json)) : Json → Except MappingFault (Option Text)
  | .text name =>
    match (Json.field name members).fieldText? with
    | .ok t => .ok t
    | .error cause => .error (.oversized cause)
  | name => .error (.notName name)

/-- The time of a record in nanoseconds, which is the present one if it has none. -/
def timestampNanos (record : Record) (now : Int) : Int :=
  match record.timestampMillis with
  | some millis => millis * 1000000
  | none => now

/-- The event of a record. -/
def toEvent (fields : FieldNames) (now : Int) (record : Record) : Except MappingFault Event :=
  match record.value with
  | .object members => do
    let message ← fieldText? members fields.message
    let logfile ← fieldText? members fields.logfile
    let serverHost ← fieldText? members fields.serverHost
    let parser ← fieldText? members fields.parser
    return {
      streamId := record.topic
      partition := record.partition
      sequenceOffset := record.offset
      timestampNanos := record.timestampNanos now
      message, logfile, serverHost, parser }
  | _ => .error (.notObject record)

/-- Reads the time of day, if the event of the record needs it. -/
def readTime (record : Record) (time : TimeOfDay) : Int × TimeOfDay :=
  match record.value, record.timestampMillis with
  | .object _, none => time.read
  | _, _ => (time.now, time)

/-- The events of records, in order; the first record that makes none is the fault.  The time of day
goes on with each record that needs it. -/
def toEvents (fields : FieldNames) (time : TimeOfDay) :
    List Record → Except MappingFault (List Event) × TimeOfDay
  | [] => (.ok [], time)
  | record :: records =>
    let (now, time) := record.readTime time
    match toEvent fields now record with
    | .error fault => (.error fault, time)
    | .ok event =>
      let (events, time) := toEvents fields time records
      (events.map (event :: ·), time)

end Record

end LogShipper
