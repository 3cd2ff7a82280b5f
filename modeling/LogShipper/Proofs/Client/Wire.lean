import LogShipper.Proofs.Client.Logging
import LogShipper.Proofs.Payload.Decoding
import LogShipper.Record

/-!
# Requests as they are read

What a request holds is found in its body alone: the body is decoded as UTF-8 and read as JSON, and
the events are the items of one of its members.  An event is seen with the row of the table that it
refers to, since ids begin anew in every request.
-/

namespace LogShipper

/-! ## 1. Documents -/

namespace Request

/-- The document in the body of a request. -/
def document? (request : Request) : Option Json := do
  (Json.read (← (Utf8.decode request.body).toOption)).toOption

def eventsOf : Json → List Json
  | .object members =>
    match Json.member? "events" members with
    | some (.array events) => events
    | _ => []
  | _ => []

def events (request : Request) : List Json :=
  request.document?.elim [] eventsOf

/-- The session that a request names. -/
def session? (request : Request) : Option Json :=
  request.document?.bind (Json.atPath? ["session"])

/-- The rows of the table that the events of a request refer to. -/
def rows (request : Request) : List Json :=
  match request.document?.bind (Json.atPath? ["logs"]) with
  | some (.array rows) => rows
  | _ => []

end Request

namespace Client

variable {client : Client} {events : List Event} {target : Url}

/-- The body of a request is the payload, so reading it gives the document of the payload. -/
theorem document_requestFor (h : (client.payload events).produce.fault = none) :
    ∃ documents, events.mapM (·.document? (.ofEvents events)) = .ok documents ∧
      (client.requestFor target events).document? =
        some ((client.payload events).documentOf (.ofEvents events) documents) := by
  obtain ⟨documents, t, hdocuments, hdecode, hread⟩ := Payload.produceWith_read h
  refine ⟨documents, hdocuments, ?_⟩
  change Utf8.decode (client.requestFor target events).body = .ok t at hdecode
  simp only [Request.document?, hdecode, Except.toOption, Option.bind_eq_bind, Option.bind_some,
    hread]
  rfl

/-- The request for a batch holds the documents of its events. -/
theorem events_requestFor (h : (client.payload events).produce.fault = none) :
    events.mapM (·.document? (.ofEvents events)) =
      .ok (client.requestFor target events).events := by
  obtain ⟨documents, hdocuments, hdocument⟩ := @document_requestFor client events target h
  rw [Request.events, hdocument]
  exact hdocuments

theorem length_events_requestFor (h : (client.payload events).produce.fault = none) :
    (client.requestFor target events).events.length = events.length :=
  (mapM_eq_ok_iff.1 (events_requestFor h)).length_eq.symm

theorem session_requestFor (h : (client.payload events).produce.fault = none) :
    (client.requestFor target events).session? = some (.text client.session) := by
  obtain ⟨documents, -, hdocument⟩ := @document_requestFor client events target h
  rw [Request.session?, hdocument]
  rfl

theorem rows_requestFor (h : (client.payload events).produce.fault = none) :
    (client.requestFor target events).rows =
      (LogTable.ofEvents events).entries.map LogEntry.document := by
  obtain ⟨documents, -, hdocument⟩ := @document_requestFor client events target h
  rw [Request.rows, hdocument]
  rfl

end Client

/-! ## 2. Events -/

/-- What the server sees of an event, apart from its time: the pair by which it knows the event
again, the message, and what the row that it refers to says of its origin. -/
structure Sighting where
  sequenceId : Option Json
  sequenceOffset : Option Json
  message : Option Json
  origin : Option Json

namespace Request

/-- Whether a row has an id. -/
def hasId (id : Text) (row : Json) : Bool :=
  match Json.atPath? ["id"] row with
  | some (.text t) => t = id
  | _ => false

/-- The row that an event refers to. -/
def rowOf (rows : List Json) (event : Json) : Option Json :=
  match Json.atPath? ["log"] event with
  | some (.text id) => rows.find? (hasId id)
  | _ => none

def sighting (rows : List Json) (event : Json) : Sighting where
  sequenceId := Json.atPath? ["si"] event
  sequenceOffset := Json.atPath? ["sn"] event
  message := Json.atPath? ["attrs", "message"] event
  origin := (rowOf rows event).bind (Json.atPath? ["attrs"])

/-- The events of a request, as they are seen. -/
def sightings (request : Request) : List Sighting :=
  request.events.map (sighting request.rows)

end Request

theorem LogTable.exists_getElem_entries (table : LogTable) {place : Nat}
    (h : place < table.entries.length) : ∃ key, table.entries[place] = .ofKey place key := by
  simp only [entries, List.getElem_map, List.getElem_zipIdx, Nat.zero_add]
  exact ⟨_, rfl⟩

namespace Event

/-- How an event is to be seen. -/
def sighting (event : Event) : Sighting where
  sequenceId := some (.text event.sequenceId)
  sequenceOffset := some (.int event.sequenceOffset)
  message := some (event.message.elim .null .text)
  origin := some (.object event.origin)

theorem hasId_document (m n : Nat) (key : LogKey) :
    Request.hasId (Integer.toText n) (LogEntry.ofKey m key).document = decide (m = n) := by
  show decide (Integer.toText m = Integer.toText n) = decide (m = n)
  exact decide_eq_decide.2 Integer.toText_natCast_inj

/-- An id refers to the one row that has it, whatever the other rows are. -/
theorem rowOf_document {event : Event} {table : LogTable} {id : Nat}
    (h : table.id? event.logKey = some id) :
    Request.rowOf (table.entries.map LogEntry.document) (event.document id) =
      some (LogEntry.ofKey id event.logKey).document := by
  obtain ⟨hid, hrow⟩ := List.getElem?_eq_some_iff.1 (LogTable.entries_getElem? h)
  show List.find? (Request.hasId (Integer.toText id)) _ = _
  rw [List.find?_map, List.find?_eq_some_iff_getElem.2, Option.map_some]
  refine ⟨?_, id, hid, hrow, ?_⟩
  · show Request.hasId (Integer.toText id) (LogEntry.ofKey id event.logKey).document = true
    rw [hasId_document, decide_eq_true rfl]
  · intro place hplace
    -- Rows are numbered by their places, and no two numbers have one text.
    obtain ⟨key, hkey⟩ := table.exists_getElem_entries (hplace.trans hid)
    show (!Request.hasId (Integer.toText id) table.entries[place].document) = true
    rw [hkey, hasId_document, decide_eq_false (Nat.ne_of_lt hplace)]
    rfl

theorem sighting_document? {event : Event} {table : LogTable} {value : Json}
    (h : event.document? table = .ok value) :
    Request.sighting (table.entries.map LogEntry.document) value = event.sighting := by
  obtain ⟨-, id, hid, rfl⟩ := document?_eq_ok_iff.1 h
  rw [Request.sighting, rowOf_document hid, sighting, ← origin_eq]
  rfl

end Event

/-- Each event of a batch is seen as what it is, in order. -/
theorem Client.sightings_requestFor {client : Client} {events : List Event} {target : Url}
    (h : (client.payload events).produce.fault = none) :
    (client.requestFor target events).sightings = events.map Event.sighting := by
  have hevents := mapM_eq_ok_iff.1 (@events_requestFor client events target h)
  rw [Request.sightings, rows_requestFor h]
  clear h
  generalize (client.requestFor target events).events = documents at hevents ⊢
  generalize LogTable.ofEvents events = table at hevents ⊢
  induction hevents with
  | nil => rfl
  | cons hfirst _ ih => rw [List.map_cons, List.map_cons, ih, Event.sighting_document? hfirst]

end LogShipper
