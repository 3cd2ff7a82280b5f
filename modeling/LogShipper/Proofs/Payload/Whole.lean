import LogShipper.Proofs.Json.Sizes
import LogShipper.Proofs.Payload.Decoding

/-!
# Payloads written at once

A payload could also be written as one document, by the same rules.  All its pieces can be produced
exactly if that document can be written, and then they are its bytes.  There is a piece for each
event and each row, and three that hold them together.
-/

namespace LogShipper.Payload

/-! ## 1. Pieces -/

theorem Production.fault_eq_none_iff {pieces : List (Except SerializationFault Bytes)} :
    (ofPieces pieces).fault = none ↔ ∀ piece ∈ pieces, ∃ chunk, piece = .ok chunk := by
  induction pieces with
  | nil => exact ⟨fun _ => nofun, fun _ => rfl⟩
  | cons piece pieces ih =>
    rw [List.forall_mem_cons]
    cases piece with
    | error fault => exact ⟨fun h => (nomatch h), fun ⟨⟨_, h⟩, _⟩ => (nomatch h)⟩
    | ok chunk =>
      rw [ofPieces, ← ih]
      exact ⟨fun h => ⟨⟨chunk, rfl⟩, h⟩, And.right⟩

theorem exists_encodePiece_iff {t : Text} :
    (∃ chunk, encodePiece t = .ok chunk) ↔ ∀ c ∈ t, c.isSurrogate = false := by
  simp only [encodePiece_eq_ok_iff, Utf8.exists_encode_iff]

theorem exists_encodeValue_iff {lead : Text} (hlead : ∀ c ∈ lead, c.isSurrogate = false)
    {value : Json} :
    (∃ chunk, encodeValue lead value = .ok chunk) ↔
      value.hasOversized = false ∧ ∀ c ∈ value.toText, c.isSurrogate = false := by
  simp only [encodeValue_eq_ok_iff, exists_and_left, Utf8.exists_encode_iff]
  rw [List.forall_mem_append, and_iff_right hlead]

section Separated

variable {α : Type} {items : List α}

theorem length_separated (items : List α) : (separated items).length = items.length := by
  cases items with
  | nil => rfl
  | cons item items => rw [separated, List.length_cons, List.length_map, List.length_cons]

theorem mem_separated {lead : Text} {item : α} (h : (lead, item) ∈ separated items) :
    item ∈ items ∧ ∀ c ∈ lead, c.isSurrogate = false := by
  cases items with
  | nil => cases h
  | cons first items =>
    rcases List.mem_cons.1 h with heq | h
    · obtain ⟨rfl, rfl⟩ := Prod.mk.inj heq
      exact ⟨List.mem_cons_self, nofun⟩
    · obtain ⟨next, hnext, heq⟩ := List.mem_map.1 h
      obtain ⟨rfl, rfl⟩ := Prod.mk.inj heq
      refine ⟨List.mem_cons_of_mem _ hnext, ?_⟩
      decide

theorem mem_joinedItems {values : List Json} {value : Json} (h : value ∈ values) :
    ∀ c ∈ value.toText, c ∈ Json.joinedItems values := by
  intro c hc
  obtain ⟨first, rest, rfl⟩ := List.exists_cons_of_ne_nil (List.ne_nil_of_mem h)
  rw [joinedItems_cons, List.mem_append]
  rcases List.mem_cons.1 h with rfl | h
  · exact .inl hc
  · exact .inr (List.mem_flatMap.2 ⟨value, h, List.mem_cons_of_mem _ hc⟩)

end Separated

/-! ## 2. The document -/

/-- The bytes are the whole document of a payload in its compact form. -/
def IsWritten (payload : Payload) (table : LogTable) (bytes : Bytes) : Prop :=
  ∃ document t, payload.document? table = .ok document ∧ Json.write document = .ok t ∧
    Utf8.encode t = .ok bytes

theorem write_eq_ok_iff {value : Json} {t : Text} :
    Json.write value = .ok t ↔ value.hasOversized = false ∧ t = value.toText := by
  unfold Json.write
  cases value.hasOversized with
  | true => simp
  | false => simp [eq_comm]

theorem hasOversized_documentOf {payload : Payload} {table : LogTable} {events : List Json} :
    (payload.documentOf table events).hasOversized = false ↔
      ∀ event ∈ events, event.hasOversized = false := by
  have hrows : Json.anyOversized (table.entries.map LogEntry.document) = false :=
    Json.anyOversized_eq_false_iff.2 fun row hrow => (table.readable_entries row hrow).notOversized
  show (false || (false || (Json.anyOversized events ||
    (Json.anyOversized (table.entries.map LogEntry.document) || false)))) = false ↔ _
  rw [hrows, Bool.or_false, Bool.or_false, Bool.false_or, Bool.false_or,
    Json.anyOversized_eq_false_iff]

theorem isWritten_of_produceWith {payload : Payload} {table : LogTable}
    (h : (payload.produceWith table).fault = none) :
    payload.IsWritten table (payload.produceWith table).chunks.flatten := by
  obtain ⟨events, hevents, hsizes, hencode⟩ := produceWith_document h
  have hdocument : payload.document? table = .ok (payload.documentOf table events) := by
    rw [document?, hevents]
    rfl
  exact ⟨_, _, hdocument, write_eq_ok_iff.2 ⟨hasOversized_documentOf.2 hsizes, rfl⟩, hencode⟩

theorem fault_of_isWritten {payload : Payload} {table : LogTable} {bytes : Bytes}
    (h : payload.IsWritten table bytes) : (payload.produceWith table).fault = none := by
  obtain ⟨document, t, hdocument, hwrite, hencode⟩ := h
  obtain ⟨events, hevents, hdocument⟩ := bind_eq_ok_iff.1 hdocument
  obtain rfl : payload.documentOf table events = document := Except.ok.inj hdocument
  obtain ⟨hsizes, rfl⟩ := write_eq_ok_iff.1 hwrite
  rw [hasOversized_documentOf] at hsizes
  -- No surrogate stands in the document, so none stands in a part of it.
  have hwhole := Utf8.exists_encode_iff.1 ⟨bytes, hencode⟩
  simp only [toText_documentOf, List.forall_mem_append] at hwhole
  obtain ⟨hhead, hitems, hmiddle, hrows, htail⟩ := hwhole
  rw [produceWith, Production.fault_eq_none_iff, pieces]
  simp only [List.forall_mem_append, List.forall_mem_singleton, List.forall_mem_map]
  refine ⟨⟨⟨⟨exists_encodePiece_iff.2 hhead, ?_⟩, exists_encodePiece_iff.2 hmiddle⟩, ?_⟩,
    exists_encodePiece_iff.2 htail⟩
  · rintro ⟨lead, event⟩ hmem
    obtain ⟨hevent, hlead⟩ := mem_separated hmem
    obtain ⟨value, hvalue, heq⟩ := exists_value_of_mem hevents hevent
    rw [heq, ok_bind]
    exact (exists_encodeValue_iff hlead).2 ⟨hsizes value hvalue, fun c hc =>
      hitems c (mem_joinedItems hvalue c hc)⟩
  · rintro ⟨lead, entry⟩ hmem
    obtain ⟨hentry, hlead⟩ := mem_separated hmem
    have hrow : entry.document ∈ table.entries.map LogEntry.document :=
      List.mem_map.2 ⟨entry, hentry, rfl⟩
    exact (exists_encodeValue_iff hlead).2 ⟨(table.readable_entries _ hrow).notOversized,
      fun c hc => hrows c (mem_joinedItems hrow c hc)⟩

theorem length_produceWith {payload : Payload} {table : LogTable}
    (h : (payload.produceWith table).fault = none) :
    (payload.produceWith table).chunks.length =
      3 + payload.events.length + table.entries.length := by
  have hpieces := congrArg List.length (Production.ofPieces_eq_map h)
  rw [List.length_map] at hpieces
  rw [produceWith, ← hpieces, pieces]
  simp only [List.length_append, List.length_map, length_separated, List.length_singleton]
  omega

theorem pairwise_id_entries (table : LogTable) :
    table.entries.Pairwise fun earlier later => earlier.id < later.id := by
  rw [LogTable.entries, List.pairwise_map, List.pairwise_iff_getElem]
  intro i j hi hj hij
  simp only [List.getElem_zipIdx, LogEntry.ofKey]
  omega

/-- A payload is produced without a fault exactly if its whole document, with the rows by ascending
id, can be written, and then its chunks are that document, byte for byte: one for each event, one
for each row, and three more. -/
theorem produce_whole (payload : Payload) (given : Option LogTable) :
    let table := given.getD (.ofEvents payload.events)
    ((payload.produce given).fault = none ↔ ∃ bytes, payload.IsWritten table bytes) ∧
      ((payload.produce given).fault = none →
        payload.IsWritten table (payload.produce given).chunks.flatten ∧
        (payload.produce given).chunks.length =
          3 + payload.events.length + table.entries.length) ∧
      table.entries.Pairwise fun earlier later => earlier.id < later.id := by
  intro table
  refine ⟨⟨fun h => ⟨_, isWritten_of_produceWith h⟩, fun ⟨_, h⟩ => fault_of_isWritten h⟩, ?_,
    pairwise_id_entries table⟩
  intro h
  exact ⟨isWritten_of_produceWith h, length_produceWith h⟩

/-- Two events and three rows make eight chunks. -/
theorem sample_whole :
    sample.IsWritten sampleTable (sample.produce sampleTable).chunks.flatten ∧
      (sample.produce sampleTable).chunks.length = 8 :=
  (produce_whole sample sampleTable).2.1 (by decide +kernel)

end LogShipper.Payload
