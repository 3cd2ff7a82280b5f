import LogShipper.Payload
import LogShipper.Proofs.Except
import LogShipper.Proofs.Json.RoundTrip
import LogShipper.Proofs.Text.Utf8

/-!
# The pieces of a payload and its document

The pieces of a payload, put together, are the compact form of one document.  Each piece is a text
in UTF-8; the lists are taken apart at the commas that lead all items but the first.
-/

namespace LogShipper

namespace Payload

/-! ## 1. Production without a fault -/

theorem Production.ofPieces_eq_map {pieces : List (Except SerializationFault Bytes)}
    (h : (ofPieces pieces).fault = none) : pieces = (ofPieces pieces).chunks.map .ok := by
  induction pieces with
  | nil => rfl
  | cons piece pieces ih =>
    cases piece with
    | error fault => cases h
    | ok chunk => rw [ofPieces, List.map_cons, ← ih h]

theorem encodePiece_eq_ok_iff {t : Text} {chunk : Bytes} :
    encodePiece t = .ok chunk ↔ Utf8.encode t = .ok chunk := by
  unfold encodePiece
  cases Utf8.encode t <;> simp

theorem encodeValue_eq_ok_iff {lead : Text} {value : Json} {chunk : Bytes} :
    encodeValue lead value = .ok chunk ↔
      value.hasOversized = false ∧ Utf8.encode (lead ++ value.toText) = .ok chunk := by
  unfold encodeValue Json.write
  cases value.hasOversized with
  | true => simp
  | false => simp [encodePiece_eq_ok_iff]

theorem encode_piece {t : Text} {chunks : List Bytes} (h : [encodePiece t] = chunks.map .ok) :
    Utf8.encode t = .ok chunks.flatten := by
  obtain ⟨chunk, rest, rfl, hchunk, hrest⟩ := List.map_eq_cons_iff.1 h.symm
  obtain rfl := List.map_eq_nil_iff.1 hrest
  rw [encodePiece_eq_ok_iff.1 hchunk.symm, List.flatten_cons, List.flatten_nil, List.append_nil]

/-! ## 2. Separated items -/

section Separated

variable {α : Type} {document : α → Except SerializationFault Json} {items : List α}
  {chunks : List Bytes}

def ledByCommas (values : List Json) : Text :=
  values.flatMap fun value => .char ',' :: value.toText

theorem joinedItems_cons (value : Json) (values : List Json) :
    Json.joinedItems (value :: values) = value.toText ++ ledByCommas values := by
  induction values generalizing value with
  | nil => rw [Json.joinedItems_singleton, ledByCommas, List.flatMap_nil, List.append_nil]
  | cons next values ih => rw [Json.joinedItems_cons_cons, ih]; rfl

theorem encodeItem_eq_ok {lead : Text} {item : α} {chunk : Bytes}
    (h : (do encodeValue lead (← document item)) = .ok chunk) :
    ∃ value, document item = .ok value ∧ value.hasOversized = false ∧
      Utf8.encode (lead ++ value.toText) = .ok chunk := by
  obtain ⟨value, hvalue, hchunk⟩ := bind_eq_ok_iff.1 h
  exact ⟨value, hvalue, encodeValue_eq_ok_iff.1 hchunk⟩

theorem encode_ledByCommas
    (h : (items.map fun item => do encodeValue "," (← document item)) = chunks.map .ok) :
    ∃ values, items.mapM document = .ok values ∧ (∀ value ∈ values, value.hasOversized = false) ∧
      Utf8.encode (ledByCommas values) = .ok chunks.flatten := by
  induction items generalizing chunks with
  | nil =>
    obtain rfl := List.map_eq_nil_iff.1 h.symm
    exact ⟨[], rfl, by simp, rfl⟩
  | cons item items ih =>
    obtain ⟨chunk, rest, rfl, hchunk, hrest⟩ := List.map_eq_cons_iff.1 h.symm
    obtain ⟨value, hvalue, hsize, hencode⟩ := encodeItem_eq_ok hchunk.symm
    obtain ⟨values, hvalues, hsizes, hencodes⟩ := ih hrest.symm
    refine ⟨value :: values, ?_, List.forall_mem_cons.2 ⟨hsize, hsizes⟩, ?_⟩
    · exact mapM_eq_ok_iff.2 (.cons hvalue (mapM_eq_ok_iff.1 hvalues))
    · rw [List.flatten_cons]
      exact Utf8.encode_append hencode hencodes

/-- The pieces of separated items are the forms of their documents with commas between them. -/
theorem encode_separated (document : α → Except SerializationFault Json)
    {piece : Text × α → Except SerializationFault Bytes}
    (h : (separated items).map piece = chunks.map .ok)
    (hpiece : ∀ lead item, piece (lead, item) = do encodeValue lead (← document item)) :
    ∃ values, items.mapM document = .ok values ∧ (∀ value ∈ values, value.hasOversized = false) ∧
      Utf8.encode (Json.joinedItems values) = .ok chunks.flatten := by
  cases items with
  | nil =>
    obtain rfl := List.map_eq_nil_iff.1 h.symm
    exact ⟨[], rfl, by simp, rfl⟩
  | cons item items =>
    simp only [separated, List.map_cons, List.map_map, Function.comp_def, hpiece] at h
    obtain ⟨chunk, rest, rfl, hchunk, hrest⟩ := List.map_eq_cons_iff.1 h.symm
    obtain ⟨value, hvalue, hsize, hencode⟩ := encodeItem_eq_ok hchunk.symm
    obtain ⟨values, hvalues, hsizes, hencodes⟩ := encode_ledByCommas hrest.symm
    refine ⟨value :: values, ?_, List.forall_mem_cons.2 ⟨hsize, hsizes⟩, ?_⟩
    · exact mapM_eq_ok_iff.2 (.cons hvalue (mapM_eq_ok_iff.1 hvalues))
    · rw [List.flatten_cons, joinedItems_cons]
      exact Utf8.encode_append hencode hencodes

end Separated

/-! ## 3. The whole document -/

/-- The document of a payload, given those of its events. -/
def documentOf (payload : Payload) (table : LogTable) (events : List Json) : Json :=
  .object [
    ("token", .text payload.token),
    ("session", .text payload.session),
    ("events", .array events),
    ("logs", .array (table.entries.map LogEntry.document))]

theorem toText_documentOf (payload : Payload) (table : LogTable) (events : List Json) :
    (payload.documentOf table events).toText =
      payload.head ++ (Json.joinedItems events ++ (middle ++
        (Json.joinedItems (table.entries.map LogEntry.document) ++ tail))) := by
  simp only [documentOf, head, middle, tail, Json.toText, Json.memberTexts, Text.joinWith,
    Json.joinedItems, List.append_assoc]
  rfl

/-- The chunks of a payload without a fault are the compact form of its document. -/
theorem produceWith_document {payload : Payload} {table : LogTable}
    (h : (payload.produceWith table).fault = none) :
    ∃ events, payload.events.mapM (·.document? table) = .ok events ∧
      (∀ event ∈ events, event.hasOversized = false) ∧
      Utf8.encode (payload.documentOf table events).toText =
        .ok (payload.produceWith table).chunks.flatten := by
  have hp := Production.ofPieces_eq_map h
  change payload.pieces table = (payload.produceWith table).chunks.map .ok at hp
  generalize (payload.produceWith table).chunks = chunks at hp ⊢
  simp only [pieces, List.append_assoc] at hp
  -- The chunks are cut where the pieces are: head, events, middle, rows and tail.
  obtain ⟨lead, rest, rfl, hlead, hp⟩ := List.map_eq_append_iff.1 hp.symm
  obtain ⟨front, rest, rfl, hfront, hp⟩ := List.map_eq_append_iff.1 hp
  obtain ⟨centre, rest, rfl, hcentre, hp⟩ := List.map_eq_append_iff.1 hp
  obtain ⟨back, last, rfl, hback, hlast⟩ := List.map_eq_append_iff.1 hp
  obtain ⟨events, hevents, hsizes, hencodes⟩ :=
    encode_separated (fun event => event.document? table) hfront.symm fun _ _ => by dsimp only
  obtain ⟨logs, hlogs, -, hlogEncodes⟩ :=
    encode_separated (fun entry => pure entry.document) hback.symm fun _ _ => by
      rw [pure_bind]
  obtain rfl : table.entries.map LogEntry.document = logs := by
    rw [List.mapM_pure] at hlogs
    exact Except.ok.inj hlogs
  refine ⟨events, hevents, hsizes, ?_⟩
  simp only [toText_documentOf, List.flatten_append]
  -- Each part is well-formed alone, and no code point is split between two.
  exact Utf8.encode_append (encode_piece hlead.symm) <| Utf8.encode_append hencodes <|
    Utf8.encode_append (encode_piece hcentre.symm) <| Utf8.encode_append hlogEncodes <|
    encode_piece hlast.symm

end Payload

end LogShipper
