import LogShipper.Proofs.Payload.Document

/-!
# Decoding payloads

A payload that was produced is decoded as what it was made of: the api key, the session, the events
in their order, and for each event a row of the table that holds its id and what is known of its
origin.
-/

namespace LogShipper

/-! ## 1. Rows -/

namespace LogKey

theorem present_names (name : String) (value : Option Text) :
    List.Sublist ((attributes.present name value).map Prod.fst) [(name : Text)] := by
  rcases value with _ | _ | ⟨c, t⟩
  · exact List.nil_sublist _
  · exact List.nil_sublist _
  · exact List.Sublist.refl _

theorem nodup_names (key : LogKey) : (key.attributes.map Prod.fst).Nodup := by
  have hnames : (["source", "logfile", "parser"] : List Text).Nodup := by decide
  refine List.Nodup.sublist ?_ hnames
  rw [attributes, List.map_append, List.map_append]
  exact ((present_names _ _).append (present_names _ _)).append (present_names _ _)

end LogKey

theorem LogEntry.readable_document {entry : LogEntry}
    (hnames : (entry.attributes.map Prod.fst).Nodup) : Json.Readable entry.document 2 := by
  have hmembers : (["id", "attrs"] : List Text).Nodup := by decide
  refine Json.readable_object_iff.2 ⟨hmembers, ?_⟩
  simp only [List.forall_mem_cons, List.not_mem_nil, false_implies, implies_true, and_true]
  refine ⟨Json.readable_text _ 1, Json.readable_object_iff.2 ⟨?_, ?_⟩⟩
  · simpa [List.map_map, Function.comp_def] using hnames
  · simp only [List.forall_mem_map]
    exact fun m _ => Json.readable_text _ 0

theorem LogTable.readable_entries (table : LogTable) :
    ∀ row ∈ table.entries.map LogEntry.document, Json.Readable row 2 := by
  simp only [entries, List.map_map, List.forall_mem_map]
  exact fun p _ => LogEntry.readable_document p.1.nodup_names

theorem LogTable.entries_getElem? {table : LogTable} {key : LogKey} {id : Nat}
    (h : table.id? key = some id) : table.entries[id]? = some (.ofKey id key) := by
  rw [entries, List.getElem?_map, List.getElem?_zipIdx, getElem?_of_id? h]
  simp only [Option.map_some, Nat.zero_add]

/-! ## 2. Events -/

namespace Event

theorem document?_eq_ok_iff {event : Event} {table : LogTable} {value : Json} :
    event.document? table = .ok value ↔ Integer.isOversized event.partition = false ∧
      ∃ id, table.id? event.logKey = some id ∧ value = event.document id := by
  unfold document? LogTable.idFor?
  cases Integer.isOversized event.partition with
  | true => simp
  | false => cases table.id? event.logKey <;> simp [eq_comm]

theorem readable_document {event : Event} {id : Nat}
    (h : (event.document id).hasOversized = false) : Json.Readable (event.document id) 2 := by
  obtain ⟨streamId, partition, sequenceOffset, timestampNanos, message⟩ := event
  cases message with
  | none => exact ⟨rfl, h, le_rfl⟩
  | some t => exact ⟨rfl, h, le_rfl⟩

/-- What is known of the origin of an event, as attributes of its row: of its server, its file and
its parser those that are given and not empty. -/
def origin (event : Event) : List (Text × Json) :=
  [("source", event.serverHost), ("logfile", event.logfile), ("parser", event.parser)].filterMap
    fun (name, value) => (value.filter (· ≠ [])).map fun t => (name, .text t)

theorem origin_eq (event : Event) :
    event.logKey.attributes.map (fun (name, value) => (name, Json.text value)) = event.origin := by
  obtain ⟨streamId, partition, sequenceOffset, timestampNanos, message, logfile, serverHost,
    parser⟩ := event
  -- Each field is missing, empty, or neither.
  rcases logfile with _ | _ | ⟨c, logfile⟩ <;> rcases serverHost with _ | _ | ⟨d, serverHost⟩ <;>
    rcases parser with _ | _ | ⟨e, parser⟩ <;> rfl

/-- A value that says everything about an event, together with the rows of a table: one of the rows
has the id that the value names, and holds the origin of the event. -/
def IsToldBy (event : Event) (rows : List Json) (value : Json) : Prop :=
  ∃ id : Nat,
    value = .object [
      ("ts", .int event.timestampNanos),
      ("si", .text (event.streamId ++ "-" ++ Integer.toText event.partition)),
      ("sn", .int event.sequenceOffset),
      ("attrs", .object [("message", event.message.elim .null .text)]),
      ("log", .text (Integer.toText id))] ∧
    rows[id]? = some (.object [
      ("id", .text (Integer.toText id)),
      ("attrs", .object event.origin)])

theorem isToldBy_of_document? {event : Event} {table : LogTable} {value : Json}
    (h : event.document? table = .ok value) :
    event.IsToldBy (table.entries.map LogEntry.document) value := by
  obtain ⟨-, id, hid, rfl⟩ := document?_eq_ok_iff.1 h
  refine ⟨id, rfl, ?_⟩
  rw [List.getElem?_map, LogTable.entries_getElem? hid, Option.map_some, ← origin_eq]
  rfl

end Event

/-! ## 3. Payloads -/

namespace Payload

theorem readable_documentOf (payload : Payload) {table : LogTable} {events : List Json}
    (hevents : payload.events.mapM (·.document? table) = .ok events)
    (hsizes : ∀ event ∈ events, event.hasOversized = false) :
    Json.Readable (payload.documentOf table events) Json.maxDepth := by
  -- Four collections stand inside each other at most, whatever the events are.
  have heach : ∀ event ∈ events, Json.Readable event 2 := by
    intro value hvalue
    obtain ⟨event, -, hdocument⟩ := exists_of_mem_mapM hevents hvalue
    obtain ⟨-, id, -, rfl⟩ := Event.document?_eq_ok_iff.1 hdocument
    exact Event.readable_document (hsizes _ hvalue)
  have hnames : (["token", "session", "events", "logs"] : List Text).Nodup := by decide
  have hread : Json.Readable (payload.documentOf table events) 4 := by
    refine Json.readable_object_iff.2 ⟨hnames, ?_⟩
    simp only [List.forall_mem_cons, List.not_mem_nil, false_implies, implies_true, and_true]
    exact ⟨Json.readable_text _ 3, Json.readable_text _ 3, Json.readable_array_iff.2 heach,
      Json.readable_array_iff.2 table.readable_entries⟩
  exact hread.mono (by decide)

theorem produceWith_read {payload : Payload} {table : LogTable}
    (h : (payload.produceWith table).fault = none) :
    ∃ events t, payload.events.mapM (·.document? table) = .ok events ∧
      Utf8.decode (payload.produceWith table).chunks.flatten = .ok t ∧
      Json.read t = .ok (payload.documentOf table events) := by
  obtain ⟨events, hevents, hsizes, hencode⟩ := produceWith_document h
  exact ⟨events, _, hevents, Utf8.decode_encode hencode,
    Json.read_toText (payload.readable_documentOf hevents hsizes)⟩

/-- What is produced without a fault tells the api key, the session and all events, in order. -/
theorem produce_tells_events {payload : Payload} {table : Option LogTable}
    (h : (payload.produce table).fault = none) :
    ∃ t events rows, Utf8.decode (payload.produce table).chunks.flatten = .ok t ∧
      Json.read t = .ok (.object [
        ("token", .text payload.token),
        ("session", .text payload.session),
        ("events", .array events),
        ("logs", .array rows)]) ∧
      List.Forall₂ (fun event value => event.IsToldBy rows value) payload.events events := by
  obtain ⟨events, t, hevents, hdecode, hread⟩ := produceWith_read h
  refine ⟨t, events, _, hdecode, hread, ?_⟩
  exact (mapM_eq_ok_iff.1 hevents).imp fun _ _ => Event.isToldBy_of_document?

/-- Two events in a text with quotes, controls and characters past the first plane. -/
def sample : Payload where
  token := "key\"\\"
  session := "s\u0001"
  events := [
    { streamId := "a-\n", partition := -3, sequenceOffset := 7, timestampNanos := -1,
      message := some "😀\u007f", logfile := some [], serverHost := some "\"h\"" },
    { streamId := [], partition := 0, sequenceOffset := 0, timestampNanos := 10 ^ 30 }]

/-- A table with keys that no event has, because a field of theirs is empty. -/
def sampleTable : LogTable where
  keys := [⟨some [], none, none⟩, ⟨none, none, none⟩, ⟨none, some "\"h\"", none⟩]

theorem sample_told :
    (sample.produce sampleTable).fault = none ∧
      ∃ t events rows, Utf8.decode (sample.produce sampleTable).chunks.flatten = .ok t ∧
        Json.read t = .ok (.object [
          ("token", .text sample.token),
          ("session", .text sample.session),
          ("events", .array events),
          ("logs", .array rows)]) ∧
        List.Forall₂ (fun event value => event.IsToldBy rows value) sample.events events := by
  have h : (sample.produce sampleTable).fault = none := by decide +kernel
  exact ⟨h, produce_tells_events h⟩

end Payload

end LogShipper
