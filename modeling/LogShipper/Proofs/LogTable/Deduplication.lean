import LogShipper.Proofs.LogTable.Index
import LogShipper.Proofs.Payload.Decoding

/-!
# Ids of events

The table of some events has one row for each origin that occurs among them, numbered in the order
in which the origins are first seen.  An empty text says no more of an origin than a missing one.
The id of an event depends on the events before it alone.
-/

namespace LogShipper

/-! ## 1. Tables of keys -/

namespace LogTable

variable {table : LogTable} {added before after : List LogKey} {key : LogKey} {id : Nat}

theorem ofKeys_append (before after : List LogKey) :
    ofKeys (before ++ after) = after.foldl (fun table key => (table.add key).2) (ofKeys before) :=
  List.foldl_append

theorem ofKeys_concat (keys : List LogKey) (key : LogKey) :
    ofKeys (keys ++ [key]) = ((ofKeys keys).add key).2 :=
  ofKeys_append keys [key]

theorem holds_ofKeys (keys : List LogKey) : (ofKeys keys).Holds keys := by
  induction keys using List.reverseRecOn with
  | nil => exact holds_empty
  | append_singleton keys key ih =>
    rw [ofKeys_concat]
    exact ih.add key

theorem prefix_ofKeys (before after : List LogKey) :
    (ofKeys before).keys <+: (ofKeys (before ++ after)).keys := by
  induction after using List.reverseRecOn with
  | nil => rw [List.append_nil]
  | append_singleton after key ih =>
    rw [← List.append_assoc, ofKeys_concat]
    exact ih.trans (prefix_add _ key)

/-- The keys that come later do not change an id. -/
theorem id?_ofKeys_append (h : key ∈ before) (after : List LogKey) :
    (ofKeys (before ++ after)).id? key = (ofKeys before).id? key := by
  obtain ⟨id, hid⟩ := mem_keys_iff.1 (((holds_ofKeys before).mem_keys key).2 h)
  rw [hid, (holds_ofKeys _).id?_of_extends (prefix_ofKeys before after) hid]

/-- The id of a key is the number of other keys before its first occurrence. -/
theorem id?_ofKeys {keys : List LogKey} (h : key ∈ keys) :
    (ofKeys keys).id? key = some (keys.takeWhile (· ≠ key)).toFinset.card := by
  obtain ⟨before, after, rfl, hbefore⟩ := List.eq_append_cons_of_mem h
  have hothers : (before ++ key :: after).takeWhile (· ≠ key) = before := by
    rw [List.takeWhile_append_of_pos, List.takeWhile_cons_of_neg, List.append_nil]
    · simp
    · intro other hother
      exact decide_eq_true fun heq => hbefore (heq ▸ hother)
  have hnew : key ∉ (ofKeys before).keys := mt ((holds_ofKeys before).mem_keys key).1 hbefore
  rw [hothers, ← (holds_ofKeys before).size_eq, List.append_cons, id?_ofKeys_append (by simp),
    ofKeys_concat, id?_add, add_of_not_mem hnew]

theorem exists_id_iff (h : table.Holds added) :
    id < table.size ↔ ∃ key ∈ added, table.id? key = some id := by
  simp only [← h.mem_keys, h.id?_eq_some_iff]
  constructor
  · intro hlt
    exact ⟨table.keys[id], List.getElem_mem hlt, List.getElem?_eq_getElem hlt⟩
  · rintro ⟨key, -, hkey⟩
    exact (List.getElem?_eq_some_iff.1 hkey).1

theorem map_id_entries (table : LogTable) :
    table.entries.map LogEntry.id = (List.range table.size).map fun (id : Nat) => (id : Int) := by
  rw [entries, List.map_map, size, List.range_eq_range', ← List.zipIdx_map_snd 0 table.keys,
    List.map_map]
  rfl

end LogTable

/-! ## 2. Rows -/

namespace LogKey

theorem lookup_present (name : String) (value : Option Text) (sought : Text) :
    (attributes.present name value).lookup sought =
      if sought = name then Event.nonempty? value else none := by
  rcases value with _ | _ | ⟨c, t⟩
  · exact (ite_self _).symm
  · exact (ite_self _).symm
  · by_cases h : sought = name
    · simp [attributes.present, Event.nonempty?, h]
    · simp [attributes.present, h, List.lookup_cons, beq_false_of_ne h]

/-- Each field of a key that is not empty is found under its name. -/
theorem lookup_attributes (key : LogKey) :
    key.attributes.lookup ("source" : Text) = Event.nonempty? key.serverHost ∧
      key.attributes.lookup ("logfile" : Text) = Event.nonempty? key.logfile ∧
      key.attributes.lookup ("parser" : Text) = Event.nonempty? key.parser := by
  have hsource : ("source" : Text) ≠ "logfile" ∧ ("source" : Text) ≠ "parser" := by decide
  have hlogfile : ("logfile" : Text) ≠ "parser" := by decide
  simp [attributes, List.lookup_append, lookup_present, hsource, hlogfile, hsource.1.symm,
    hsource.2.symm, hlogfile.symm]

end LogKey

namespace Event

/-- Two events that were logged in the same place, as far as their fields say. -/
def SameOrigin (a b : Event) : Prop :=
  nonempty? a.logfile = nonempty? b.logfile ∧ nonempty? a.serverHost = nonempty? b.serverHost ∧
    nonempty? a.parser = nonempty? b.parser

theorem logKey_eq_iff {a b : Event} : a.logKey = b.logKey ↔ a.SameOrigin b := by
  simp [logKey, SameOrigin]

theorem nonempty?_nonempty? (value : Option Text) :
    nonempty? (nonempty? value) = nonempty? value := by
  rcases value with _ | _ | ⟨c, t⟩ <;> rfl

/-- Rows of different keys differ in some attribute. -/
theorem exists_lookup_ne {a b : Event} (h : a.logKey ≠ b.logKey) :
    ∃ name, a.logKey.attributes.lookup name ≠ b.logKey.attributes.lookup name := by
  by_contra hsame
  simp only [not_exists, not_not] at hsame
  obtain ⟨hsource, hlogfile, hparser⟩ := a.logKey.lookup_attributes
  obtain ⟨hsource', hlogfile', hparser'⟩ := b.logKey.lookup_attributes
  rw [hsame] at hsource hlogfile hparser
  apply h
  rw [logKey_eq_iff, SameOrigin, ← nonempty?_nonempty? a.logfile, ← nonempty?_nonempty? b.logfile,
    ← nonempty?_nonempty? a.serverHost, ← nonempty?_nonempty? b.serverHost,
    ← nonempty?_nonempty? a.parser, ← nonempty?_nonempty? b.parser]
  exact ⟨hlogfile.symm.trans hlogfile', hsource.symm.trans hsource', hparser.symm.trans hparser'⟩

end Event

/-! ## 3. Tables of events -/

namespace LogTable

variable {events : List Event} {event : Event}

theorem mem_keys_ofEvents {key : LogKey} :
    key ∈ (ofEvents events).keys ↔ ∃ event ∈ events, event.logKey = key := by
  rw [ofEvents, (holds_ofKeys _).mem_keys, List.mem_map]

theorem idFor?_ofEvents (h : event ∈ events) :
    (ofEvents events).idFor? event =
      some ((events.map Event.logKey).takeWhile (· ≠ event.logKey)).toFinset.card :=
  id?_ofKeys (List.mem_map_of_mem h)

/-- No two rows have the same attributes. -/
theorem pairwise_attributes (events : List Event) :
    (ofEvents events).entries.Pairwise fun a b =>
      ∃ name, a.attributes.lookup name ≠ b.attributes.lookup name := by
  have hnodup : ((ofEvents events).keys.zipIdx.map Prod.fst).Nodup := by
    rw [List.zipIdx_map_fst]
    exact (holds_ofKeys _).nodup
  rw [entries, List.pairwise_map]
  refine (List.pairwise_map.1 hnodup).imp_of_mem ?_
  rintro ⟨key, id⟩ ⟨key', id'⟩ hkey hkey' hne
  obtain ⟨event, -, rfl⟩ := mem_keys_ofEvents.1 (List.fst_mem_of_mem_zipIdx hkey)
  obtain ⟨event', -, rfl⟩ := mem_keys_ofEvents.1 (List.fst_mem_of_mem_zipIdx hkey')
  exact Event.exists_lookup_ne hne

/-- In the table of some events two of them have the same id exactly if they have the same origin,
and their ids are the numbers below that of the rows: an id is the number of origins that occur
before that of its event.  The rows are numbered in order, no two are the same, and that of an
event holds its origin.  Further events do not change the ids of the ones before. -/
theorem ofEvents_deduplicates (events : List Event) :
    let table := ofEvents events
    (∀ a ∈ events, ∀ b ∈ events, table.idFor? a = table.idFor? b ↔ a.SameOrigin b) ∧
    (∀ id, id < table.size ↔ ∃ event ∈ events, table.idFor? event = some id) ∧
    (∀ event ∈ events, table.idFor? event =
      some ((events.map Event.logKey).takeWhile (· ≠ event.logKey)).toFinset.card) ∧
    (table.entries.map LogEntry.id = (List.range table.size).map fun (id : Nat) => (id : Int)) ∧
    (table.entries.Pairwise fun a b =>
      ∃ name, a.attributes.lookup name ≠ b.attributes.lookup name) ∧
    (∀ event ∈ events, ∃ id entry, table.idFor? event = some id ∧
      table.entries[id]? = some entry ∧
      entry.attributes.map (fun (name, value) => (name, Json.text value)) = event.origin) ∧
    ∀ later, ∀ event ∈ events,
      (ofEvents (events ++ later)).idFor? event = table.idFor? event := by
  intro table
  have hholds : table.Holds (events.map Event.logKey) := holds_ofKeys _
  refine ⟨fun a ha b hb => ?_, fun id => ?_, fun event => idFor?_ofEvents, map_id_entries table,
    pairwise_attributes events, fun event hevent => ?_, fun later event hevent => ?_⟩
  · rw [← Event.logKey_eq_iff]
    -- One id stands for one place, and at one place there is one key.
    refine ⟨fun hids => ?_, fun hkeys => by rw [idFor?, idFor?, hkeys]⟩
    have hid := idFor?_ofEvents ha
    have hplace := getElem?_of_id? (hids.symm.trans hid)
    rw [getElem?_of_id? hid] at hplace
    exact Option.some.inj hplace
  · rw [exists_id_iff hholds]
    simp [idFor?]
  · have hid := idFor?_ofEvents hevent
    exact ⟨_, _, hid, entries_getElem? hid, Event.origin_eq event⟩
  · rw [idFor?, ofEvents, List.map_append]
    exact id?_ofKeys_append (List.mem_map_of_mem hevent) _

def originless : Event where
  streamId := []
  partition := 0
  sequenceOffset := 0
  timestampNanos := 0

def hosted (logfile : Option Text) : Event :=
  { originless with serverHost := some "h", logfile := logfile }

def sampleEvents : List Event :=
  [hosted (some []), originless, hosted none, { originless with parser := some "h" }]

/-- The third event has the origin of the first.  The last one differs from it only in the name of
the one attribute, and has a row of its own. -/
theorem sample_deduplicates :
    let table := ofEvents sampleEvents
    table.idFor? (hosted none) = table.idFor? (hosted (some [])) ∧
      table.idFor? originless = some 1 ∧
      (ofEvents (sampleEvents ++ sampleEvents.reverse)).idFor? originless = some 1 ∧
      ∃ event ∈ sampleEvents, table.idFor? event = some 2 := by
  intro table
  obtain ⟨hsame, hids, hcount, -, -, -, hlater⟩ := ofEvents_deduplicates sampleEvents
  have hsecond : originless ∈ sampleEvents := List.mem_cons_of_mem _ List.mem_cons_self
  have hthird : hosted none ∈ sampleEvents :=
    List.mem_cons_of_mem _ (List.mem_cons_of_mem _ List.mem_cons_self)
  have hone : table.idFor? originless = some 1 := (hcount _ hsecond).trans (by decide +kernel)
  have hsize : 2 < table.size := by decide +kernel
  refine ⟨?_, hone, ?_, (hids 2).1 hsize⟩
  · exact (hsame _ hthird _ List.mem_cons_self).2 ⟨rfl, rfl, rfl⟩
  · rw [hlater _ _ hsecond, hone]

end LogTable

end LogShipper
