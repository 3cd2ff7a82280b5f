import LogShipper.Json.Writer

/-!
# Events

An event is one log record with its place in the source stream.  The server drops an event that it
has seen before by the pair of `sequenceId` and `sequenceOffset`.  The fields that describe where
a record was logged form its log key; events with one key share an entry of the `logs` table.
-/

namespace LogShipper

/-- The fields that describe where a record was logged. -/
structure LogKey where
  logfile : Option Text
  serverHost : Option Text
  parser : Option Text
  deriving DecidableEq, Repr, Inhabited

structure Event where
  streamId : Text
  partition : Int
  sequenceOffset : Int
  timestampNanos : Int
  message : Option Text := none
  logfile : Option Text := none
  serverHost : Option Text := none
  parser : Option Text := none
  deriving DecidableEq, Repr, Inhabited

namespace LogKey

/-- A field as a literal. -/
def fieldLiteral : Option Text → Text
  | none => "None"
  | some t => Text.quoted t

/-- The three fields as they are shown in a message. -/
def literal (key : LogKey) : Text :=
  "(" ++ fieldLiteral key.logfile ++ ", " ++ fieldLiteral key.serverHost ++ ", " ++
    fieldLiteral key.parser ++ ")"

/-- The name and value of each field that is present and not empty. -/
def attributes (key : LogKey) : List (Text × Text) :=
  present "source" key.serverHost ++ present "logfile" key.logfile ++ present "parser" key.parser
where
  present (name : String) : Option Text → List (Text × Text)
    | none | some [] => []
    | some value => [(name, value)]

end LogKey

namespace Event

/-- The partition of the stream, by which the server tells sequences apart. -/
def sequenceId (event : Event) : Text :=
  event.streamId ++ "-" ++ Integer.toText event.partition

/-- An empty text counts as absent. -/
def nonempty? : Option Text → Option Text
  | some [] => none
  | field => field

def logKey (event : Event) : LogKey where
  logfile := nonempty? event.logfile
  serverHost := nonempty? event.serverHost
  parser := nonempty? event.parser

end Event

/-- A row of the `logs` table. -/
structure LogEntry where
  id : Int
  attributes : List (Text × Text)
  deriving DecidableEq, Repr

namespace LogEntry

def ofKey (id : Int) (key : LogKey) : LogEntry :=
  ⟨id, key.attributes⟩

/-- The entry as it is sent. -/
def document (entry : LogEntry) : Json :=
  .object [
    ("id", .text (Integer.toText entry.id)),
    ("attrs", .object (entry.attributes.map fun (name, value) => (name, .text value)))]

end LogEntry

end LogShipper
