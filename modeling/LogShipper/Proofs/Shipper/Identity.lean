import LogShipper.Proofs.Run.Resending
import LogShipper.Proofs.Yaml.Literal

/-!
# Places in a stream

The server drops an event that it has seen before by the id of its sequence and its place in it.
The id joins the name of a stream and a partition by a dash.  Dashes and digits may stand in the
name as well, but a partition that is not negative has only digits, so the last dash is the one that
joins the two.
-/

namespace LogShipper

/-! ## 1. Ids of sequences -/

def CodePoint.IsDigit (c : CodePoint) : Prop :=
  ∃ d : Char, c = .char d ∧ d.isDigit = true

theorem CodePoint.not_isDigit_dash : ¬ IsDigit (.char '-') := by
  rintro ⟨d, hd, hdigit⟩
  rw [← CodePoint.char.inj hd] at hdigit
  cases hdigit

theorem Integer.isDigit_of_mem_toText {n : Int} (hn : 0 ≤ n) {c : CodePoint}
    (h : c ∈ toText n) : c.IsDigit := by
  rw [toText, if_neg (by omega), List.nil_append] at h
  obtain ⟨d, hd, rfl⟩ := List.mem_map.1 h
  exact ⟨d, rfl, Json.isDigit_of_mem_toDigits _ d hd⟩

/-- Digits can be told from what stands before the dash before them. -/
theorem Text.append_dash_inj {lead lead' digits digits' : Text} (h : ∀ c ∈ digits, c.IsDigit)
    (h' : ∀ c ∈ digits', c.IsDigit) (hsame : lead ++ "-" ++ digits = lead' ++ "-" ++ digits') :
    lead = lead' ∧ digits = digits' := by
  -- Read from the end, the digits are a run that the dash ends.
  have hreversed := congrArg List.reverse hsame
  simp only [List.reverse_append] at hreversed
  have hdash (lead : Text) :
      ∀ c ∈ (("-" : Text).reverse ++ lead.reverse).head?, ¬ c.IsDigit := by
    rintro c ⟨⟩
    exact CodePoint.not_isDigit_dash
  obtain ⟨hdigits, hlead⟩ := Text.append_inj_of_run (p := CodePoint.IsDigit)
    (by simpa using h) (by simpa using h') (hdash lead) (hdash lead') hreversed
  have hlead : lead.reverse = lead'.reverse := List.append_cancel_left hlead
  exact ⟨List.reverse_injective hlead, List.reverse_injective hdigits⟩

theorem Event.sequenceId_eq_iff {event other : Event} (h : 0 ≤ event.partition)
    (h' : 0 ≤ other.partition) :
    event.sequenceId = other.sequenceId ↔
      event.streamId = other.streamId ∧ event.partition = other.partition := by
  constructor
  · intro hsame
    obtain ⟨hstream, hpartition⟩ := Text.append_dash_inj
      (fun _ => Integer.isDigit_of_mem_toText h) (fun _ => Integer.isDigit_of_mem_toText h') hsame
    exact ⟨hstream, Integer.toText_injective hpartition⟩
  · rintro ⟨hstream, hpartition⟩
    rw [sequenceId, sequenceId, hstream, hpartition]

/-- The sign of a partition could be a dash at the end of the name. -/
example : ({ (default : Event) with streamId := "t", partition := -1 }).sequenceId =
    ({ (default : Event) with streamId := "t-", partition := 1 }).sequenceId := rfl

/-! ## 2. Records as they are sent -/

/-- The pair by which the server knows an event again. -/
def Sighting.place (sighting : Sighting) : Option Json × Option Json :=
  (sighting.sequenceId, sighting.sequenceOffset)

namespace Record

/-- A record of a batch that is put, and an event as it is seen at the place of the record in a
request that the put sends. -/
def IsSentAs (record : Record) (sighting : Sighting) : Prop :=
  ∃ (shipper : Shipper) (batch : List Record) (services : Services) (request : Request)
    (place : Nat),
    request ∈ (shipper.put batch services).services.transport.sent.drop
      services.transport.sent.length ∧
    batch[place]? = some record ∧ request.sightings[place]? = some sighting

variable {fields : FieldNames} {now : Int} {record other : Record} {event : Event}
  {sighting sighting' : Sighting}

/-- What is sent for a record is the event that it makes under the names of the shipper, at some
time. -/
theorem exists_toEvent_of_isSentAs (h : record.IsSentAs sighting) :
    ∃ fields now event, toEvent fields now record = .ok event ∧ sighting = event.sighting := by
  obtain ⟨shipper, batch, services, request, place, hsent, hrecord, hseen⟩ := h
  rcases shipper.put_sends batch services with
    ⟨hsilent, -⟩ | ⟨client, target, events, -, -, hevents, hpayload, htransport⟩
  · rw [hsilent, List.drop_length] at hsent
    cases hsent
  · rw [htransport, List.drop_left, List.mem_singleton] at hsent
    subst hsent
    rw [Client.sightings_requestFor hpayload, List.getElem?_map, Option.map_eq_some_iff] at hseen
    obtain ⟨event, hevent, rfl⟩ := hseen
    obtain ⟨hplace, rfl⟩ := List.getElem?_eq_some_iff.1 hrecord
    obtain ⟨hplace', rfl⟩ := List.getElem?_eq_some_iff.1 hevent
    obtain ⟨now, hmade⟩ :=
      (List.forall₂_iff_get.1 (forall₂_of_toEvents hevents)).2 place hplace hplace'
    exact ⟨_, now, _, hmade, rfl⟩

theorem place_eq_iff_of_isSentAs (h : record.IsSentAs sighting) (h' : other.IsSentAs sighting')
    (hpartition : 0 ≤ record.partition) (hpartition' : 0 ≤ other.partition) :
    sighting.place = sighting'.place ↔ record.topic = other.topic ∧
      record.partition = other.partition ∧ record.offset = other.offset := by
  obtain ⟨fields, now, event, hevent, rfl⟩ := exists_toEvent_of_isSentAs h
  obtain ⟨fields', now', event', hevent', rfl⟩ := exists_toEvent_of_isSentAs h'
  obtain ⟨htopic, hpart, hoffset⟩ := place_of_toEvent hevent
  obtain ⟨htopic', hpart', hoffset'⟩ := place_of_toEvent hevent'
  have hnatural : 0 ≤ event.partition := by omega
  have hnatural' : 0 ≤ event'.partition := by omega
  have hid := Event.sequenceId_eq_iff hnatural hnatural'
  rw [htopic, htopic', hpart, hpart'] at hid
  simp only [Sighting.place, Event.sighting, Prod.mk.injEq, Option.some.injEq, Json.text.injEq,
    Json.int.injEq, hid, hoffset, hoffset', and_assoc]

end Record

/-- The ids of two sequences are equal if and only if the streams and the partitions are, whatever
the streams are called.  So two records that are sent, by whichever shippers and in whichever
batches, are taken for one by the server if and only if they have one topic, partition and
offset. -/
theorem sequences_are_identified :
    (∀ event other : Event, 0 ≤ event.partition → 0 ≤ other.partition →
      (event.sequenceId = other.sequenceId ↔
        event.streamId = other.streamId ∧ event.partition = other.partition)) ∧
    (∀ (record other : Record) (sighting sighting' : Sighting),
      record.IsSentAs sighting → other.IsSentAs sighting' →
      0 ≤ record.partition → 0 ≤ other.partition →
      (sighting.place = sighting'.place ↔ record.topic = other.topic ∧
        record.partition = other.partition ∧ record.offset = other.offset)) :=
  ⟨fun _ _ => Event.sequenceId_eq_iff,
    fun _ _ _ _ h h' => Record.place_eq_iff_of_isSentAs h h'⟩

/-! ## 3. A dash in a name -/

/-- A shipper that runs. -/
def Shipper.sampleRunning : Shipper where
  config := { apiKey := "k" }
  metrics := { startTime := .int 0 }
  client := some { url := "https://h/addEvents", apiKey := "k", session := "s" }

def Services.sample : Services where
  timeOfDay := { now := 100 }

/-- A record that is put on its own is sent if its request can be written. -/
theorem Record.isSentAs_sample {record : Record} {event : Event}
    (hevents : (toEvents {} Services.sample.timeOfDay [record]).1 = .ok [event])
    (hsent : (Shipper.sampleRunning.put [record] .sample).services.transport.sent ≠ []) :
    record.IsSentAs event.sighting := by
  rcases Shipper.sampleRunning.put_sends [record] .sample with
    ⟨hsilent, -⟩ | ⟨client, target, events, -, -, hmade, hpayload, htransport⟩
  · exact absurd (congrArg Transport.sent hsilent) hsent
  · obtain rfl : [event] = events := Except.ok.inj (hevents.symm.trans hmade)
    refine ⟨Shipper.sampleRunning, [record], .sample, client.requestFor target [event], 0, ?_, rfl,
      ?_⟩
    · rw [htransport]
      exact List.mem_singleton_self _
    · rw [Client.sightings_requestFor hpayload]
      rfl

/-- A record whose id begins with that of the next one. -/
def Record.sampleDashed : Record := ⟨"t-1", 0, 7, .object [], none⟩

def Record.samplePlain : Record := ⟨"t", 1, 7, .object [], none⟩

theorem sample_identified :
    ∃ sighting sighting', Record.sampleDashed.IsSentAs sighting ∧
      Record.samplePlain.IsSentAs sighting' ∧ sighting.place ≠ sighting'.place := by
  have hdashed : Record.sampleDashed.IsSentAs _ := Record.isSentAs_sample rfl (by decide +kernel)
  have hplain : Record.samplePlain.IsSentAs _ := Record.isSentAs_sample rfl (by decide +kernel)
  refine ⟨_, _, hdashed, hplain, fun hsame => ?_⟩
  obtain ⟨htopic, -, -⟩ :=
    (sequences_are_identified.2 _ _ _ _ hdashed hplain (by decide) (by decide)).1 hsame
  exact absurd htopic (by decide)

end LogShipper
