import LogShipper.Json.Reader
import LogShipper.Json.Writer
import LogShipper.Notice
import LogShipper.Record
import LogShipper.Text.Blank
import LogShipper.Text.Lines

/-!
# Records in lines of text

Each line of a source is one record, whose offset is the number of lines before it.  Blank lines
count but are passed over; lines that are no JSON, or JSON but no object, are skipped with a
notice.  Only an excess, of digits or of depth, stops the reading of a source.
-/

namespace LogShipper

/-- What a line holds. -/
inductive RecordLine where
  | blank
  | skipped (notice : Notice)
  | record (record : Record)
  | unreadable (cause : Json.Excess)
  deriving Inhabited

namespace RecordLine

/-- How much of a line is shown when it is skipped. -/
def shownLength : Nat := 100

/-- Reads the line before which `offset` other lines stand. -/
def read (topic : Text) (line : Text) (offset : Nat) : RecordLine :=
  let content := line.trim
  if content.isEmpty then .blank
  else
    match Json.read content with
    | .error (.malformed ..) =>
      .skipped (.lineUnreadable (offset + 1) (content.take shownLength))
    | .error (.excess cause) => .unreadable cause
    | .ok (.object members) => .record ⟨topic, 0, offset, .object members, none⟩
    | .ok _ => .skipped (.lineNotObject (offset + 1))

/-- Reads the lines of a source. -/
def readAll (topic : Text) (lines : List Text) : List RecordLine :=
  lines.mapIdx fun offset line => read topic line offset

end RecordLine

/-- What reading a text yields: the records and the notices before the line that stops it, and why
that line does. -/
structure RecordReading where
  records : List Record
  notices : List Notice
  fault : Option Json.Excess

namespace RecordReading

def ofLines : List RecordLine → RecordReading
  | [] => ⟨[], [], none⟩
  | .blank :: rest => ofLines rest
  | .skipped notice :: rest =>
    let reading := ofLines rest
    { reading with notices := notice :: reading.notices }
  | .record record :: rest =>
    let reading := ofLines rest
    { reading with records := record :: reading.records }
  | .unreadable cause :: _ => ⟨[], [], some cause⟩

/-- Reads a text whose lines end with line feeds. -/
def ofText (topic t : Text) : RecordReading :=
  ofLines (RecordLine.readAll topic t.lines)

end RecordReading

end LogShipper
