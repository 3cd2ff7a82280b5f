import LogShipper.Proofs.Client.Logging
import LogShipper.Proofs.Payload.Token
import LogShipper.Proofs.Payload.Whole

/-!
# Payloads that cannot be produced

Each piece of a payload is made of some values of the caller.  Three things prevent a piece: a
surrogate in a text, an integer with too many digits, and an event without a row.  The production
ends at the first piece that something prevents, and what was produced are the pieces before it.
-/

namespace LogShipper

/-! ## 1. Surrogates in what is written -/

namespace Text

def hasSurrogate (t : Text) : Bool :=
  t.any CodePoint.isSurrogate

theorem hasSurrogate_eq_false_iff {t : Text} :
    t.hasSurrogate = false ↔ ∀ c ∈ t, c.isSurrogate = false := by
  simp [hasSurrogate]

@[simp] theorem hasSurrogate_append (t u : Text) :
    hasSurrogate (t ++ u) = (t.hasSurrogate || u.hasSurrogate) :=
  List.any_append

@[simp] theorem hasSurrogate_cons (c : CodePoint) (t : Text) :
    hasSurrogate (c :: t) = (c.isSurrogate || t.hasSurrogate) := rfl

@[simp] theorem hasSurrogate_nil : hasSurrogate [] = false := rfl

@[simp] theorem hasSurrogate_ofString (s : String) : (ofString s).hasSurrogate = false :=
  hasSurrogate_eq_false_iff.2 (isSurrogate_ofString s)

@[simp] theorem hasSurrogate_integer (n : Int) : (Integer.toText n).hasSurrogate = false :=
  hasSurrogate_eq_false_iff.2 (isSurrogate_ofChars _)

theorem hasSurrogate_joinWith {separator : Text} (h : separator.hasSurrogate = false)
    (ts : List Text) : (joinWith separator ts).hasSurrogate = ts.any hasSurrogate := by
  induction ts with
  | nil => rfl
  | cons t ts ih =>
    cases ts with
    | nil => rw [joinWith, List.any_cons, List.any_nil, Bool.or_false]
    | cons next ts =>
      have hjoin : joinWith separator (t :: next :: ts) =
          t ++ separator ++ joinWith separator (next :: ts) := rfl
      rw [hjoin, hasSurrogate_append, hasSurrogate_append, h, Bool.or_false, ih]
      rfl

end Text

namespace Json

open Text

theorem hasSurrogate_escape (c : CodePoint) : (escape c).hasSurrogate = c.isSurrogate := by
  cases c with
  | char c => exact hasSurrogate_eq_false_iff.2 (isSurrogate_escape rfl)
  | surrogate s =>
    -- A surrogate is none of the code points that are escaped.
    have hvalue : ¬ (CodePoint.surrogate s).value < 0x20 := by
      rw [CodePoint.value]
      omega
    have hescape : escape (.surrogate s) = [.surrogate s] := by
      simp [escape, hvalue]
    rw [hescape]
    rfl

@[simp] theorem hasSurrogate_writeText (t : Text) :
    (writeText t).hasSurrogate = t.hasSurrogate := by
  have hinner : hasSurrogate (t.flatMap escape) = t.hasSurrogate := by
    induction t with
    | nil => rfl
    | cons c t ih =>
      rw [List.flatMap_cons, hasSurrogate_append, hasSurrogate_escape, ih, hasSurrogate_cons]
  rw [writeText, hasSurrogate_append, hasSurrogate_cons, hinner]
  exact Bool.or_false _

theorem hasSurrogate_object (members : List (Text × Json)) :
    (object members).toText.hasSurrogate =
      members.any fun m => m.1.hasSurrogate || m.2.toText.hasSurrogate := by
  have hmembers : (memberTexts members).any hasSurrogate =
      members.any fun m => m.1.hasSurrogate || m.2.toText.hasSurrogate := by
    induction members with
    | nil => rfl
    | cons m members ih => simp [memberTexts, ih]
  rw [toText, hasSurrogate_append, hasSurrogate_append, hasSurrogate_joinWith
    (hasSurrogate_ofString _), hmembers, hasSurrogate_ofString, hasSurrogate_ofString,
    Bool.or_false, Bool.false_or]

@[simp] theorem hasSurrogate_text (t : Text) : (text t).toText.hasSurrogate = t.hasSurrogate :=
  hasSurrogate_writeText t

@[simp] theorem hasSurrogate_int (n : Int) : (int n).toText.hasSurrogate = false :=
  hasSurrogate_integer n

@[simp] theorem hasSurrogate_null : null.toText.hasSurrogate = false := rfl

end Json

/-! ## 2. Values that prevent a piece -/

namespace LogKey

/-- Whether a surrogate stands in a field, which is not empty then. -/
def hasSurrogate (key : LogKey) : Bool :=
  key.logfile.any Text.hasSurrogate || key.serverHost.any Text.hasSurrogate ||
    key.parser.any Text.hasSurrogate

theorem hasSurrogate_iff {key : LogKey} :
    key.hasSurrogate = true ↔ ∃ t, some t ∈ [key.logfile, key.serverHost, key.parser] ∧
      t ≠ [] ∧ t.hasSurrogate = true := by
  have hfield (field : Option Text) : field.any Text.hasSurrogate = true ↔
      ∃ t, some t = field ∧ t ≠ [] ∧ t.hasSurrogate = true := by
    cases field with
    | none => simp
    | some t =>
      simp only [Option.any_some, Option.some.injEq, exists_eq_left]
      refine (and_iff_right_of_imp ?_).symm
      rintro h rfl
      cases h
  simp only [hasSurrogate, Bool.or_eq_true, hfield, List.mem_cons, List.not_mem_nil, or_false,
    or_and_right, exists_or, or_assoc]

theorem any_present (name : String) (value : Option Text) :
    ((attributes.present name value).any fun m => m.1.hasSurrogate || m.2.hasSurrogate) =
      value.any Text.hasSurrogate := by
  rcases value with _ | _ | ⟨c, t⟩ <;> simp [attributes.present]

theorem any_attributes (key : LogKey) :
    (key.attributes.any fun m => m.1.hasSurrogate || m.2.hasSurrogate) = key.hasSurrogate := by
  rw [attributes, List.any_append, List.any_append, any_present, any_present, any_present,
    hasSurrogate, Bool.or_comm (key.serverHost.any _)]

end LogKey

theorem LogEntry.hasSurrogate_document (id : Int) (key : LogKey) :
    (ofKey id key).document.toText.hasSurrogate = key.hasSurrogate := by
  simp [document, ofKey, Json.hasSurrogate_object, List.any_map, Function.comp_def,
    key.any_attributes]

namespace Event

/-- Whether something in an event prevents it from being written as an item: a surrogate, an integer
with too many digits, or a key that is not in the table. -/
def Offends (event : Event) (table : LogTable) : Prop :=
  event.streamId.hasSurrogate = true ∨ event.message.any Text.hasSurrogate = true ∨
    (∃ n ∈ [event.partition, event.sequenceOffset, event.timestampNanos],
      Integer.isOversized n = true) ∨
    event.logKey ∉ table.keys

/-- What prevents some event, told apart by what is wrong. -/
theorem exists_offends_iff {events : List Event} {table : LogTable} :
    (∃ event ∈ events, event.Offends table) ↔
      (∃ event ∈ events, event.streamId.hasSurrogate = true ∨
        ∃ t, event.message = some t ∧ t.hasSurrogate = true) ∨
      (∃ event ∈ events, ∃ n ∈ [event.partition, event.sequenceOffset, event.timestampNanos],
        Integer.maxDigits < (Nat.toDigits 10 n.natAbs).length) ∨
      ∃ event ∈ events, event.logKey ∉ table.keys := by
  simp only [Offends, Integer.isOversized_iff, Option.any_eq_true, and_or_left, exists_or, or_assoc]

theorem hasSurrogate_document (event : Event) (id : Nat) :
    (event.document id).toText.hasSurrogate =
      (event.streamId.hasSurrogate || event.message.any Text.hasSurrogate) := by
  cases h : event.message <;> simp [document, Json.hasSurrogate_object, sequenceId, h]

theorem hasOversized_document (event : Event) (id : Nat) :
    (event.document id).hasOversized =
      (Integer.isOversized event.timestampNanos || Integer.isOversized event.sequenceOffset) := by
  cases h : event.message <;>
    simp [document, Json.hasOversized, Json.anyMemberOversized, h]

end Event

theorem LogTable.mem_keys_add {table : LogTable} {key other : LogKey}
    (h : other ∈ table.keys ∨ other = key) : other ∈ (table.add key).2.keys := by
  by_cases hkey : key ∈ table.keys
  · rw [add_of_mem hkey]
    exact h.elim id fun heq => heq ▸ hkey
  · rw [add_of_not_mem hkey]
    simpa using h

theorem LogTable.mem_keys_ofKeys {keys : List LogKey} {key : LogKey} (h : key ∈ keys) :
    key ∈ (ofKeys keys).keys := by
  -- A key that was added once is kept, whatever is added after it.
  suffices hs : ∀ table : LogTable, key ∈ table.keys ∨ key ∈ keys →
      key ∈ (keys.foldl (fun table key => (table.add key).2) table).keys from hs empty (.inr h)
  clear h
  induction keys with
  | nil => exact fun table h => h.resolve_right (List.not_mem_nil)
  | cons first keys ih =>
    intro table h
    apply ih
    rcases h with h | h
    · exact .inl (mem_keys_add (.inl h))
    · rcases List.mem_cons.1 h with heq | h
      · exact .inl (mem_keys_add (.inr heq))
      · exact .inr h

namespace Payload

/-! ## 3. Parts -/

/-- What a piece is made from. -/
inductive Part where
  | head
  | item (lead : Text) (event : Event)
  | middle
  | row (lead : Text) (id : Nat) (key : LogKey)
  | tail

/-- The parts of a payload, in the order in which they are written. -/
def parts (payload : Payload) (table : LogTable) : List Part :=
  [.head] ++ (separated payload.events).map (fun (lead, event) => .item lead event) ++
    [.middle] ++ (separated table.keys.zipIdx).map (fun (lead, key, id) => .row lead id key) ++
    [.tail]

variable {payload : Payload} {table : LogTable}

namespace Part

/-- The text of a part, if it has an id where it needs one. -/
def text? (payload : Payload) (table : LogTable) : Part → Option Text
  | head => payload.head
  | item lead event => (table.id? event.logKey).map fun id => lead ++ (event.document id).toText
  | middle => Payload.middle
  | row lead id key => lead ++ (LogEntry.ofKey id key).document.toText
  | tail => Payload.tail

/-- The piece of a part, or why there is none. -/
def piece (payload : Payload) (table : LogTable) : Part → Except SerializationFault Bytes
  | head => encodePiece payload.head
  | item lead event => do encodeValue lead (← event.document? table)
  | middle => encodePiece Payload.middle
  | row lead id key => encodeValue lead (LogEntry.ofKey id key).document
  | tail => encodePiece Payload.tail

/-- Whether something prevents a part from being written. -/
def Offends (payload : Payload) (table : LogTable) : Part → Prop
  | head => payload.token.hasSurrogate = true ∨ payload.session.hasSurrogate = true
  | item _ event => event.Offends table
  | row _ _ key => key.hasSurrogate = true
  | middle | tail => False

/-- The bytes are the encoding of a part. -/
def IsEncoding (payload : Payload) (table : LogTable) (part : Part) (chunk : Bytes) : Prop :=
  ∃ t, part.text? payload table = some t ∧ Utf8.encode t = .ok chunk

end Part

theorem separated_map {α β : Type} (f : α → β) (items : List α) :
    separated (items.map f) = (separated items).map fun (lead, item) => (lead, f item) := by
  cases items with
  | nil => rfl
  | cons item items => simp [separated]

theorem map_snd_separated {α : Type} (items : List α) :
    (separated items).map Prod.snd = items := by
  cases items with
  | nil => rfl
  | cons item items => simp [separated]

theorem pieces_eq_map_parts (payload : Payload) (table : LogTable) :
    payload.pieces table = (payload.parts table).map (Part.piece payload table) := by
  unfold pieces parts LogTable.entries
  rw [separated_map]
  simp only [List.map_append, List.map_map, List.map_cons, List.map_nil, Function.comp_def,
    Part.piece]

/-! ## 4. Pieces that something prevents -/

theorem mem_parts {part : Part} (h : part ∈ payload.parts table) :
    part = .head ∨
    (∃ lead : Text, (∀ c ∈ lead, c.isSurrogate = false) ∧
      ∃ event ∈ payload.events, part = .item lead event) ∨
    part = .middle ∨
    (∃ lead : Text, (∀ c ∈ lead, c.isSurrogate = false) ∧
      ∃ id, ∃ key ∈ table.keys, part = .row lead id key) ∨
    part = .tail := by
  simp only [parts, List.mem_append, List.mem_singleton, List.mem_map, or_assoc] at h
  rcases h with h | ⟨⟨lead, event⟩, hmem, rfl⟩ | h | ⟨⟨lead, key, id⟩, hmem, rfl⟩ | h
  · exact .inl h
  · have hitem := mem_separated hmem
    exact .inr (.inl ⟨lead, hitem.2, event, hitem.1, rfl⟩)
  · exact .inr (.inr (.inl h))
  · have hrow := mem_separated hmem
    have hkey : key ∈ table.keys := (List.mem_zipIdx' hrow.1).2 ▸ List.getElem_mem _
    exact .inr (.inr (.inr (.inl ⟨lead, hrow.2, id, key, hkey, rfl⟩)))
  · exact .inr (.inr (.inr (.inr h)))

/-- An event is written as an item unless something in it prevents that. -/
theorem exists_item_iff {lead : Text} (hlead : ∀ c ∈ lead, c.isSurrogate = false)
    {event : Event} :
    (∃ chunk, (do encodeValue lead (← event.document? table)) = .ok chunk) ↔
      ¬ event.Offends table := by
  have hvalue : (∃ chunk, (do encodeValue lead (← event.document? table)) = .ok chunk) ↔
      ∃ value, event.document? table = .ok value ∧
        ∃ chunk, encodeValue lead value = .ok chunk := by
    simp only [bind_eq_ok_iff]
    exact ⟨fun ⟨chunk, value, hv, hc⟩ => ⟨value, hv, chunk, hc⟩,
      fun ⟨value, hv, chunk, hc⟩ => ⟨chunk, value, hv, hc⟩⟩
  rw [hvalue]
  simp only [exists_encodeValue_iff hlead, ← Text.hasSurrogate_eq_false_iff,
    Event.document?_eq_ok_iff, Event.Offends, LogTable.mem_keys_iff]
  -- The partition is checked with the key, the other two integers when the value is written.
  constructor
  · rintro ⟨value, ⟨hpartition, id, hid, rfl⟩, hsize, htext⟩
    rw [Event.hasOversized_document, Bool.or_eq_false_iff] at hsize
    rw [Event.hasSurrogate_document, Bool.or_eq_false_iff] at htext
    simp [hpartition, hid, hsize, htext]
  · intro h
    simp only [not_or, not_not, List.mem_cons, List.not_mem_nil, or_false, exists_eq_or_imp,
      exists_eq_left, Bool.not_eq_true] at h
    obtain ⟨hstream, hmessage, ⟨hpartition, hoffset, htime⟩, id, hid⟩ := h
    refine ⟨event.document id, ⟨hpartition, id, hid, rfl⟩, ?_, ?_⟩
    · rw [Event.hasOversized_document, htime, hoffset, Bool.or_false]
    · rw [Event.hasSurrogate_document, hstream, hmessage, Bool.or_false]

namespace Part

theorem exists_piece_iff {part : Part} (h : part ∈ payload.parts table) :
    (∃ chunk, part.piece payload table = .ok chunk) ↔ ¬ part.Offends payload table := by
  rcases mem_parts h with rfl | ⟨lead, hlead, event, -, rfl⟩ | rfl |
    ⟨lead, hlead, id, key, -, rfl⟩ | rfl
  · simp only [piece, Offends]
    rw [exists_encodePiece_iff, ← Text.hasSurrogate_eq_false_iff]
    simp [Payload.head]
  · exact exists_item_iff hlead
  · simp only [piece, Offends]
    rw [exists_encodePiece_iff, ← Text.hasSurrogate_eq_false_iff]
    simp [Payload.middle]
  · -- The id of a row is a place in the table, and is never too long.
    have hsize : (LogEntry.ofKey id key).document.hasOversized = false :=
      (LogEntry.readable_document key.nodup_names).notOversized
    show (∃ chunk, encodeValue lead (LogEntry.ofKey id key).document = .ok chunk) ↔
      ¬ key.hasSurrogate = true
    rw [exists_encodeValue_iff hlead, ← Text.hasSurrogate_eq_false_iff,
      LogEntry.hasSurrogate_document, Bool.not_eq_true]
    exact and_iff_right hsize
  · simp only [piece, Offends]
    rw [exists_encodePiece_iff, ← Text.hasSurrogate_eq_false_iff]
    simp [Payload.tail]

theorem isEncoding_of_piece {part : Part} {chunk : Bytes}
    (h : part.piece payload table = .ok chunk) : part.IsEncoding payload table chunk := by
  cases part with
  | head | middle | tail => exact ⟨_, rfl, encodePiece_eq_ok_iff.1 h⟩
  | item lead event =>
    obtain ⟨value, hvalue, hchunk⟩ := bind_eq_ok_iff.1 h
    obtain ⟨-, id, hid, rfl⟩ := Event.document?_eq_ok_iff.1 hvalue
    exact ⟨_, by rw [text?, hid, Option.map_some], (encodeValue_eq_ok_iff.1 hchunk).2⟩
  | row lead id key => exact ⟨_, rfl, (encodeValue_eq_ok_iff.1 h).2⟩

end Part

theorem exists_mem_separated {α : Type} {items : List α} {item : α} (h : item ∈ items) :
    ∃ lead, (lead, item) ∈ separated items := by
  rw [← map_snd_separated items] at h
  obtain ⟨⟨lead, _⟩, hmem, rfl⟩ := List.mem_map.1 h
  exact ⟨lead, hmem⟩

/-- Something prevents a part of a payload exactly if it prevents the head, an item or a row. -/
theorem exists_offends_iff :
    (∃ part ∈ payload.parts table, part.Offends payload table) ↔
      (payload.token.hasSurrogate = true ∨ payload.session.hasSurrogate = true) ∨
      (∃ event ∈ payload.events, event.Offends table) ∨
      ∃ key ∈ table.keys, key.hasSurrogate = true := by
  constructor
  · rintro ⟨part, hpart, h⟩
    rcases mem_parts hpart with rfl | ⟨lead, -, event, hevent, rfl⟩ | rfl |
      ⟨lead, -, id, key, hkey, rfl⟩ | rfl
    · exact .inl h
    · exact .inr (.inl ⟨event, hevent, h⟩)
    · exact h.elim
    · exact .inr (.inr ⟨key, hkey, h⟩)
    · exact h.elim
  · simp only [parts, List.mem_append, List.mem_singleton, List.mem_map, or_assoc]
    rintro (h | h | ⟨event, hevent, h⟩ | ⟨key, hkey, h⟩)
    · exact ⟨.head, .inl rfl, .inl h⟩
    · exact ⟨.head, .inl rfl, .inr h⟩
    · -- An event stands behind the bracket or a comma, which leads it.
      obtain ⟨lead, hlead⟩ := exists_mem_separated hevent
      exact ⟨.item lead event, .inr (.inl ⟨(lead, event), hlead, rfl⟩), h⟩
    · rw [← List.zipIdx_map_fst 0 table.keys] at hkey
      obtain ⟨⟨_, id⟩, hid, rfl⟩ := List.mem_map.1 hkey
      obtain ⟨lead, hlead⟩ := exists_mem_separated hid
      exact ⟨.row lead id _, .inr (.inr (.inr (.inl ⟨_, hlead, rfl⟩))), h⟩

/-! ## 5. Productions -/

/-- A production with a fault ends where that fault is. -/
theorem Production.exists_split {pieces : List (Except SerializationFault Bytes)}
    {fault : SerializationFault} (h : (ofPieces pieces).fault = some fault) :
    ∃ after, pieces = (ofPieces pieces).chunks.map .ok ++ .error fault :: after := by
  induction pieces with
  | nil => cases h
  | cons piece pieces ih =>
    cases piece with
    | error found =>
      obtain rfl : found = fault := Option.some.inj h
      exact ⟨pieces, rfl⟩
    | ok chunk =>
      obtain ⟨after, hafter⟩ := ih h
      exact ⟨after, congrArg (Except.ok chunk :: ·) hafter⟩

theorem forall₂_isEncoding {parts : List Part} {chunks : List Bytes}
    (h : parts.map (Part.piece payload table) = chunks.map .ok) :
    List.Forall₂ (Part.IsEncoding payload table) parts chunks := by
  rw [← List.forall₂_eq_eq_eq, List.forall₂_map_left_iff, List.forall₂_map_right_iff] at h
  exact h.imp fun _ _ => Part.isEncoding_of_piece

theorem fault_produceWith_iff :
    (payload.produceWith table).fault ≠ none ↔
      ∃ part ∈ payload.parts table, part.Offends payload table := by
  have hpieces : (payload.produceWith table).fault = none ↔
      ∀ part ∈ payload.parts table, ∃ chunk, part.piece payload table = .ok chunk := by
    rw [produceWith, Production.fault_eq_none_iff, pieces_eq_map_parts, List.forall_mem_map]
  rw [Ne, hpieces]
  constructor
  · intro h
    by_contra hnone
    exact h fun part hpart => (Part.exists_piece_iff hpart).2 fun hoffends =>
      hnone ⟨part, hpart, hoffends⟩
  · rintro ⟨part, hpart, hoffends⟩ h
    exact (Part.exists_piece_iff hpart).1 (h part hpart) hoffends

theorem chunks_of_fault {fault : SerializationFault}
    (h : (payload.produceWith table).fault = some fault) :
    ∃ before part after, payload.parts table = before ++ part :: after ∧
      (∀ earlier ∈ before, ¬ earlier.Offends payload table) ∧ part.Offends payload table ∧
      List.Forall₂ (Part.IsEncoding payload table) before
        (payload.produceWith table).chunks := by
  obtain ⟨behind, hsplit⟩ := Production.exists_split h
  rw [pieces_eq_map_parts] at hsplit
  -- The parts are cut where their pieces are: before the first one that is a fault.
  obtain ⟨before, rest, hparts, hbefore, hrest⟩ := List.map_eq_append_iff.1 hsplit
  obtain ⟨part, after, rfl, hpart, -⟩ := List.map_eq_cons_iff.1 hrest
  refine ⟨before, part, after, hparts, fun earlier hearlier => ?_, ?_, forall₂_isEncoding ?_⟩
  · have hpiece : earlier.piece payload table ∈ before.map (Part.piece payload table) :=
      List.mem_map_of_mem hearlier
    rw [hbefore] at hpiece
    obtain ⟨chunk, -, hchunk⟩ := List.mem_map.1 hpiece
    exact (Part.exists_piece_iff (by simp [hparts, hearlier])).1 ⟨chunk, hchunk.symm⟩
  · by_contra hnot
    obtain ⟨chunk, hchunk⟩ := (Part.exists_piece_iff (by simp [hparts])).2 hnot
    rw [hpart] at hchunk
    cases hchunk
  · rw [hbefore, produceWith, pieces_eq_map_parts]

theorem chunks_of_no_fault (h : (payload.produceWith table).fault = none) :
    List.Forall₂ (Part.IsEncoding payload table) (payload.parts table)
      (payload.produceWith table).chunks := by
  have hpieces := Production.ofPieces_eq_map h
  rw [pieces_eq_map_parts] at hpieces
  apply forall₂_isEncoding
  rw [produceWith, pieces_eq_map_parts]
  exact hpieces

end Payload

/-! ## 6. Calls of a client -/

namespace Client

variable {client : Client} {events : List Event} {transport : Transport}

/-- A payload is at fault for the end of a call exactly if the client is open, knows where to send
it, and cannot produce it. -/
theorem log_eq_serialization_iff {fault : SerializationFault} :
    (client.log events transport).result = .error (.serialization fault) ↔
      client.isClosed = false ∧ (∃ target, client.target = .ok target) ∧
        (client.payload events).produce.fault = some fault := by
  constructor
  · intro h
    -- No other stage gives a fault of this kind.
    cases hopen : client.isClosed with
    | true =>
      rw [log_of_closed hopen] at h
      cases h
    | false =>
      cases htarget : client.target with
      | error found =>
        rw [log_of_untargeted hopen htarget] at h
        obtain rfl : found = .serialization fault := Except.error.inj h
        cases stage_of_target htarget
      | ok target =>
        refine ⟨rfl, ⟨target, rfl⟩, ?_⟩
        cases hfault : (client.payload events).produce.fault with
        | some found =>
          rw [log_of_unserializable hopen htarget hfault] at h
          exact congrArg some (ClientFault.serialization.inj (Except.error.inj h))
        | none =>
          rw [log_of_sent hopen htarget hfault] at h
          cases stage_of_conclude h
  · rintro ⟨hopen, ⟨target, htarget⟩, hfault⟩
    rw [log_of_unserializable hopen htarget hfault]

end Client

namespace Payload

/-- The keys of the events of a payload are all in its own table. -/
theorem exists_unknown_iff (payload : Payload) (given : Option LogTable) :
    (∃ event ∈ payload.events, event.logKey ∉ (given.getD (.ofEvents payload.events)).keys) ↔
      ∃ supplied, given = some supplied ∧ ∃ event ∈ payload.events,
        event.logKey ∉ supplied.keys := by
  cases given with
  | some supplied => simp
  | none =>
    have hknown : ∀ event ∈ payload.events,
        event.logKey ∈ (LogTable.ofEvents payload.events).keys :=
      fun event hevent => LogTable.mem_keys_ofKeys (List.mem_map_of_mem hevent)
    simpa using hknown

/-- A payload cannot be produced exactly if a surrogate stands in its token, its session, a stream
id, a message or a field of a key of the table, if an integer of an event has too many digits, or if
the key of an event is not in a table that was given.  What is produced then are the encodings of
the parts before the first one that something prevents, and they are what a client counts whose
call ends so. -/
theorem produce_fails_iff (payload : Payload) (given : Option LogTable) :
    let table := given.getD (.ofEvents payload.events)
    let production := payload.produce given
    (production.fault ≠ none ↔
      (payload.token.hasSurrogate = true ∨ payload.session.hasSurrogate = true ∨
        (∃ event ∈ payload.events, event.streamId.hasSurrogate = true ∨
          ∃ t, event.message = some t ∧ t.hasSurrogate = true) ∨
        ∃ key ∈ table.keys, ∃ t, some t ∈ [key.logfile, key.serverHost, key.parser] ∧
          t ≠ [] ∧ t.hasSurrogate = true) ∨
      (∃ event ∈ payload.events,
        ∃ n ∈ [event.partition, event.sequenceOffset, event.timestampNanos],
          Integer.maxDigits < (Nat.toDigits 10 n.natAbs).length) ∨
      ∃ supplied, given = some supplied ∧
        ∃ event ∈ payload.events, event.logKey ∉ supplied.keys) ∧
    (production.fault ≠ none →
      ∃ before part after, payload.parts table = before ++ part :: after ∧
        (∀ earlier ∈ before, ¬ earlier.Offends payload table) ∧ part.Offends payload table ∧
        List.Forall₂ (Part.IsEncoding payload table) before production.chunks) ∧
    (production.fault = none →
      List.Forall₂ (Part.IsEncoding payload table) (payload.parts table) production.chunks) ∧
    ∀ (client : Client) (transport : Transport), client.payload payload.events = payload →
      given = none → ∀ fault,
        let logged := client.log payload.events transport
        (logged.result = .error (.serialization fault) ↔ client.isClosed = false ∧
          (∃ target, client.target = .ok target) ∧ production.fault = some fault) ∧
        (logged.result = .error (.serialization fault) →
          logged.client.lastPayloadBytes = (production.chunks.map List.length).sum ∧
          logged.transport = transport) := by
  intro table production
  refine ⟨?_, ?_, chunks_of_no_fault, ?_⟩
  · show (payload.produceWith table).fault ≠ none ↔ _
    have hunknown : (∃ event ∈ payload.events, event.logKey ∉ table.keys) ↔ _ :=
      exists_unknown_iff payload given
    -- The alternatives are grouped by part there and by what is wrong here.
    have hgroups {token session texts rows integers keys : Prop} :
        (token ∨ session) ∨ (texts ∨ integers ∨ keys) ∨ rows ↔
          (token ∨ session ∨ texts ∨ rows) ∨ integers ∨ keys := by tauto
    rw [fault_produceWith_iff, exists_offends_iff, Event.exists_offends_iff, ← hunknown, hgroups]
    simp only [LogKey.hasSurrogate_iff]
  · intro h
    obtain ⟨fault, hfault⟩ := Option.ne_none_iff_exists'.1 h
    exact chunks_of_fault hfault
  · rintro client transport hpayload rfl fault
    have hproduction : (client.payload payload.events).produce = production := by rw [hpayload]
    refine ⟨?_, fun h => ?_⟩
    · rw [Client.log_eq_serialization_iff, hproduction]
    · obtain ⟨hopen, ⟨target, htarget⟩, hfault⟩ := Client.log_eq_serialization_iff.1 h
      rw [Client.log_of_unserializable hopen htarget hfault, hproduction]
      exact ⟨List.length_flatten, rfl⟩

/-- A name with a surrogate. -/
def brokenName : Text :=
  [.surrogate ⟨0, by decide⟩]

/-- A payload in which the server of the last event has such a name, which only its row holds. -/
def brokenSample : Payload :=
  { sample with events := sample.events ++
    [{ streamId := [], partition := 0, sequenceOffset := 1, timestampNanos := 0,
       serverHost := some brokenName }] }

def brokenClient : Client :=
  { Client.plainSample with apiKey := sample.token, session := sample.session }

/-- All items are produced, and two of the three rows; the client counts them and sends nothing. -/
theorem sample_fails :
    (∃ fault, brokenSample.produce.fault = some fault ∧
      (brokenClient.log brokenSample.events Client.sampleTransport).result =
        .error (.serialization fault)) ∧
    brokenSample.produce.chunks.length = 7 ∧
    (∃ before part after,
      brokenSample.parts (.ofEvents brokenSample.events) = before ++ part :: after ∧
      part.Offends brokenSample (.ofEvents brokenSample.events) ∧
      List.Forall₂ (Part.IsEncoding brokenSample (.ofEvents brokenSample.events)) before
        brokenSample.produce.chunks) ∧
    (brokenClient.log brokenSample.events Client.sampleTransport).client.lastPayloadBytes =
      (brokenSample.produce.chunks.map List.length).sum ∧
    List.Forall₂ (Part.IsEncoding sample sampleTable) (sample.parts sampleTable)
      (sample.produce sampleTable).chunks := by
  obtain ⟨hiff, hfirst, -, hlog⟩ := produce_fails_iff brokenSample none
  have hkey : (⟨none, some brokenName, none⟩ : LogKey) ∈
      (LogTable.ofEvents brokenSample.events).keys := by decide +kernel
  have hfault : brokenSample.produce.fault ≠ none :=
    hiff.2 (.inl (.inr (.inr (.inr ⟨_, hkey, brokenName, by simp, nofun, rfl⟩))))
  obtain ⟨fault, hproduce⟩ := Option.ne_none_iff_exists'.1 hfault
  obtain ⟨hresult, hbytes⟩ := hlog brokenClient Client.sampleTransport rfl rfl fault
  have hurl : Url.parse brokenClient.url =
      .ok ⟨"https", [], "example.com", none, "/addEvents", none, none⟩ := by decide +kernel
  have hfailed := hresult.2
    ⟨rfl, ⟨_, Client.target_of_isAscii hurl (by decide +kernel)⟩, hproduce⟩
  obtain ⟨before, part, after, hparts, -, hoffends, hbefore⟩ := hfirst hfault
  refine ⟨⟨fault, hproduce, hfailed⟩, by decide +kernel,
    ⟨before, part, after, hparts, hoffends, hbefore⟩, (hbytes hfailed).1, ?_⟩
  exact (produce_fails_iff sample sampleTable).2.2.1 (by decide +kernel)

end Payload

end LogShipper
