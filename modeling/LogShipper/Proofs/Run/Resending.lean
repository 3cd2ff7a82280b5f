import LogShipper.Proofs.Client.Wire
import LogShipper.Proofs.Run.Delivery
import LogShipper.Proofs.Shipper.Agreement

/-!
# Sending again

Two runs over one input show the server the same events in the same order, up to the end of the
shorter one, wherever the borders of their batches are and however the server answers.  An event is
known again by its place in the input, and no two events of a run have the same place.
-/

namespace LogShipper

/-! ## 1. Records as they are seen -/

namespace Record

variable {fields : FieldNames} {now : Int} {time : TimeOfDay} {record : Record} {event : Event}

/-- How a record is to be seen, if it makes an event.  The time at which it does is not seen. -/
def sighting? (fields : FieldNames) (record : Record) : Option Sighting :=
  (record.toEvent fields 0).toOption.map Event.sighting

/-- The event of a record has the place of the record. -/
theorem place_of_toEvent (h : toEvent fields now record = .ok event) :
    event.streamId = record.topic ∧ event.partition = record.partition ∧
      event.sequenceOffset = record.offset := by
  unfold toEvent at h
  split at h
  · obtain ⟨message, -, h⟩ := bind_eq_ok_iff.1 h
    obtain ⟨logfile, -, h⟩ := bind_eq_ok_iff.1 h
    obtain ⟨serverHost, -, h⟩ := bind_eq_ok_iff.1 h
    obtain ⟨parser, -, h⟩ := bind_eq_ok_iff.1 h
    cases h
    exact ⟨rfl, rfl, rfl⟩
  · cases h

theorem sighting?_of_toEvent (h : toEvent fields now record = .ok event) :
    record.sighting? fields = some event.sighting := by
  unfold sighting?
  unfold toEvent at h ⊢
  split at h
  · obtain ⟨message, hmessage, h⟩ := bind_eq_ok_iff.1 h
    obtain ⟨logfile, hlogfile, h⟩ := bind_eq_ok_iff.1 h
    obtain ⟨serverHost, hserverHost, h⟩ := bind_eq_ok_iff.1 h
    obtain ⟨parser, hparser, h⟩ := bind_eq_ok_iff.1 h
    cases h
    rw [hmessage, ok_bind, hlogfile, ok_bind, hserverHost, ok_bind, hparser, ok_bind]
    rfl
  · cases h

theorem sightings_of_toEvents {batch : List Record} {events : List Event}
    (h : (toEvents fields time batch).1 = .ok events) :
    events.map Event.sighting = batch.filterMap (sighting? fields) := by
  have hall := forall₂_of_toEvents h
  clear h
  induction hall with
  | nil => rfl
  | cons hfirst _ ih =>
    obtain ⟨now, hevent⟩ := hfirst
    rw [List.map_cons, List.filterMap_cons_some (sighting?_of_toEvent hevent), ih]

theorem sequenceOffset_of_sighting? {sighting : Sighting}
    (h : record.sighting? fields = some sighting) :
    sighting.sequenceOffset = some (.int record.offset) := by
  unfold sighting? at h
  cases hevent : record.toEvent fields 0 with
  | error fault =>
    rw [hevent] at h
    cases h
  | ok event =>
    rw [hevent] at h
    cases h
    rw [Event.sighting, (place_of_toEvent hevent).2.2]

end Record

/-- One event stands before another in the sequence. -/
def Sighting.Precedes (earlier later : Sighting) : Prop :=
  ∃ m n : Int, earlier.sequenceOffset = some (.int m) ∧ later.sequenceOffset = some (.int n) ∧
    m < n

/-- Events in the order of their sequence, each of which is known by the pair of its sequence and
its place. -/
structure IsSequence (sightings : List Sighting) : Prop where
  increasing : sightings.Pairwise Sighting.Precedes
  distinct : (sightings.map fun sighting =>
    (sighting.sequenceId, sighting.sequenceOffset)).Nodup

theorem IsSequence.of_increasing {sightings : List Sighting}
    (h : sightings.Pairwise Sighting.Precedes) : IsSequence sightings where
  increasing := h
  distinct := by
    rw [List.Nodup, List.pairwise_map]
    refine h.imp ?_
    rintro earlier later ⟨m, n, hm, hn, hlt⟩ hsame
    have hplace := (Prod.mk.inj hsame).2
    rw [hm, hn] at hplace
    obtain rfl : m = n := Json.int.inj (Option.some.inj hplace)
    exact Int.lt_irrefl m hlt

theorem Record.pairwise_sighting? {records : List Record} (fields : FieldNames)
    (h : records.Pairwise fun earlier later => earlier.offset < later.offset) :
    (records.filterMap (sighting? fields)).Pairwise Sighting.Precedes := by
  rw [List.pairwise_filterMap]
  refine h.imp ?_
  intro earlier later hlt first hfirst second hsecond
  exact ⟨_, _, sequenceOffset_of_sighting? hfirst, sequenceOffset_of_sighting? hsecond, hlt⟩

namespace Run

variable {config : Config} {state : State} {attempt : Attempt State Record}
  {attempts : List (Attempt State Record)} {fields : FieldNames}

/-! ## 2. Attempts -/

/-- An attempt that was refused and sent nothing, or that sent exactly the events of its batch. -/
def Conveys (fields : FieldNames) (attempt : Attempt State Record) : Prop :=
  (depot.accepts attempt = false ∧ requestsOf attempt = []) ∨
    (requestsOf attempt).flatMap Request.sightings =
      attempt.batch.filterMap (Record.sighting? fields)

/-- What an attempt adds to what was sent: nothing, and then it was refused, or one request. -/
theorem sent_put (attempt : Attempt State Record) :
    (depot.put attempt.batch attempt.before).2.2.transport.sent =
        attempt.before.2.transport.sent ++ requestsOf attempt ∧
      ((requestsOf attempt = [] ∧ (attempt.batch ≠ [] → depot.accepts attempt = false)) ∨
        ∃ (client : Client) (target : Url) (events : List Event),
          (Record.toEvents attempt.before.1.config.fields attempt.before.2.timeOfDay
            attempt.batch).1 = .ok events ∧
          (client.payload events).produce.fault = none ∧
          requestsOf attempt = [client.requestFor target events]) := by
  rw [requestsOf, Depot.accepts, put_eq]
  dsimp only
  rcases Shipper.put_sends attempt.before.1 attempt.batch attempt.before.2 with
    ⟨h, hfailed⟩ | ⟨client, target, events, -, -, hevents, hpayload, h⟩
  · rw [h, List.drop_length, List.append_nil]
    refine ⟨rfl, .inl ⟨rfl, fun hbatch => ?_⟩⟩
    -- Nothing was sent for a batch that is not empty, so the put failed.
    obtain ⟨fault, hresult⟩ := hfailed hbatch
    rw [hresult]
    rfl
  · rw [h, List.drop_left]
    exact ⟨rfl, .inr ⟨client, target, events, hevents, hpayload, rfl⟩⟩

theorem conveys_put (hbatch : attempt.batch ≠ []) :
    Conveys attempt.before.1.config.fields attempt := by
  rcases (sent_put attempt).2 with
    ⟨hnone, hrefused⟩ | ⟨client, target, events, hevents, hpayload, hone⟩
  · exact .inl ⟨hrefused hbatch, hnone⟩
  · right
    have hseen : (client.requestFor target events).sightings = events.map Event.sighting :=
      Client.sightings_requestFor hpayload
    rw [hone, List.flatMap_singleton, hseen, Record.sightings_of_toEvents hevents]

/-- What is kept while batches are put: the settings, and that what was sent is what the attempts
sent. -/
structure Conveyed (begun : State) (state : State) (attempts : List (Attempt State Record)) :
    Prop where
  config : state.1.config = begun.1.config
  sent : state.2.transport.sent = begun.2.transport.sent ++ requests attempts
  attempts : ∀ attempt ∈ attempts, Conveys begun.1.config.fields attempt

theorem Conveyed.put (attempt : Attempt State Record) {begun : State}
    (h : Conveyed begun attempt.before attempts) (hbatch : attempt.batch ≠ []) :
    Conveyed begun (depot.put attempt.batch attempt.before).2 (attempts ++ [attempt]) where
  config := by
    have hagrees := Shipper.agrees_put attempt.before.1 attempt.batch attempt.before.2
    exact hagrees.config.trans h.config
  sent := by
    rw [(sent_put attempt).1, h.sent, requests_append, List.append_assoc]
  attempts := by
    rw [List.forall_mem_append, List.forall_mem_singleton]
    refine ⟨h.attempts, ?_⟩
    rw [← h.config]
    exact conveys_put hbatch

theorem conveyed_record {source : Source} (hsize : 0 < config.batchSize) (begun : State) :
    let record := depot.record config.batchSize (supply source) begun
    depot.IsRecord config.batchSize (supply source) record.1 record.2.1 record.2.2 ∧
      Conveyed begun record.2.1 record.2.2 := by
  refine Depot.isRecord_record hsize ?_ ?_ ?_
  · exact ⟨rfl, (List.append_nil _).symm, List.forall_mem_nil _⟩
  · intro change hchange state attempts h
    obtain ⟨notice, -, rfl⟩ := eq_report_of_mem_supply hchange
    exact ⟨h.config, h.sent, h.attempts⟩
  · intro batch before attempts h haccepted hgoing hbatch hitems
    exact Conveyed.put ⟨batch, before⟩ h hbatch

theorem sightings_of_accepted (h : ∀ attempt ∈ attempts, Conveys fields attempt)
    (haccepted : ∀ attempt ∈ attempts, depot.accepts attempt = true) :
    (requests attempts).flatMap Request.sightings =
      (Attempt.items attempts).filterMap (Record.sighting? fields) := by
  -- Batch by batch: ids begin anew in each request, but sightings have them resolved.
  induction attempts with
  | nil => rfl
  | cons attempt attempts ih =>
    rw [List.forall_mem_cons] at h haccepted
    have hfirst : (requestsOf attempt).flatMap Request.sightings =
        attempt.batch.filterMap (Record.sighting? fields) := by
      rcases h.1 with ⟨hrefused, -⟩ | hconveyed
      · rw [haccepted.1] at hrefused
        cases hrefused
      · exact hconveyed
    have hrest := ih h.2 haccepted.2
    rw [requests, Attempt.items] at hrest ⊢
    rw [List.flatMap_cons, List.flatMap_cons, List.flatMap_append, List.filterMap_append, hfirst,
      hrest]

/-- All attempts but the last were accepted, and the last one may have sent nothing. -/
theorem prefix_sightings (h : ∀ attempt ∈ attempts, Conveys fields attempt)
    (haccepted : ∀ attempt ∈ attempts.dropLast, depot.accepts attempt = true) :
    (requests attempts).flatMap Request.sightings <+:
      (Attempt.items attempts).filterMap (Record.sighting? fields) := by
  rcases List.eq_nil_or_concat attempts with rfl | ⟨before, last, hlast⟩
  · exact List.prefix_rfl
  · rw [List.concat_eq_append] at hlast
    subst hlast
    rw [List.dropLast_concat] at haccepted
    rw [List.forall_mem_append, List.forall_mem_singleton] at h
    have hbefore := sightings_of_accepted h.1 haccepted
    -- Only the end of the list is open: the last batch, as a whole or not at all.
    rw [requests_append, Attempt.items_append, List.flatMap_append, List.filterMap_append, hbefore]
    rcases h.2 with ⟨-, hnone⟩ | hconveyed
    · rw [hnone, List.flatMap_nil, List.append_nil]
      exact List.prefix_append _ _
    · rw [hconveyed]

/-! ## 3. Runs -/

/-- A run that gets as far as shipping, from a source that can be read to its end. -/
structure Begins (situation : Situation) (config : Config) (source : Source) : Prop where
  loads : ∃ arguments, Arguments.read situation.words = .ok arguments ∧
    (Config.load arguments situation.environment situation.openFile).result = .ok config
  starts : ∃ url, Endpoint.ofJson config.url = .ok url
  opens : Run.source config situation = .ok source
  decodes : source.file.fault = none
  reads : source.reading.fault = none

theorem Ships.begins {situation : Situation} {url : Text} {target : Url} {source : Source}
    (h : Ships situation config url target source) : Begins situation config source :=
  ⟨h.loads, ⟨url, h.starts⟩, h.opens, h.decodes, h.reads⟩

/-- The events that a run sends, as they are seen, request after request. -/
def sightingsOf (situation : Situation) (services : Services) : List Sighting :=
  ((run situation services).2.transport.sent.drop services.transport.sent.length).flatMap
    Request.sightings

/-- However a run goes, the events that it sends are the first ones of its source. -/
theorem prefix_sightingsOf {situation : Situation} {source : Source}
    (h : Begins situation config source) (services : Services) :
    sightingsOf situation services <+:
      source.reading.records.filterMap (Record.sighting? config.fields) := by
  obtain ⟨arguments, -, hload⟩ := h.loads
  obtain ⟨url, hurl⟩ := h.starts
  obtain ⟨notices, hrun, -⟩ := run_eq_finish h.loads hurl h.opens services
  generalize hfirst : ({ services with notices := services.notices ++ notices } : Services) = first
    at hrun
  obtain ⟨hrecord, hconveyed⟩ :=
    @conveyed_record config source (Config.usable_of_load hload).2 (opened config first)
  have hbegun : opened config first = _ := opened_eq hurl
  have hconfig : (opened config first).1.config = config := by rw [hbegun]
  have hunsent : (opened config first).2.transport.sent = services.transport.sent := by
    rw [hbegun, ← hfirst]
    rfl
  have hsent : (run situation services).2.transport.sent = services.transport.sent ++
      requests (depot.record config.batchSize (supply source) (opened config first)).2.2 := by
    rw [hrun, transport_finish h.opens, hconveyed.sent, hunsent]
  -- What was sent begins the events of the batches, which begin those of the source.
  have hseen := prefix_sightings hconveyed.attempts hrecord.accepted
  have hitems := hrecord.items_prefix
  rw [hconfig] at hseen
  rw [items_supply source] at hitems
  rw [sightingsOf, hsent, List.drop_left]
  exact hseen.trans (hitems.filterMap _)

theorem isSequence_sightingsOf {situation : Situation} {source : Source}
    (h : Begins situation config source) (services : Services) :
    IsSequence (sightingsOf situation services) := by
  have hrecords := RecordReading.pairwise_offset source.topic source.file.lines
  have hall := Record.pairwise_sighting? config.fields hrecords
  apply IsSequence.of_increasing
  exact hall.sublist (prefix_sightingsOf h services).sublist

/-- Two runs over one source, with one set of names for the fields.  Whatever else is different, the
events of each are a sequence, and what one run sends is the beginning of what the other does. -/
theorem run_resends {situation₁ situation₂ : Situation} {config₁ config₂ : Config}
    {source : Source} (h₁ : Begins situation₁ config₁ source)
    (h₂ : Begins situation₂ config₂ source) (hfields : config₁.fields = config₂.fields)
    (services₁ services₂ : Services) :
    IsSequence (sightingsOf situation₁ services₁) ∧ IsSequence (sightingsOf situation₂ services₂) ∧
      (sightingsOf situation₁ services₁ <+: sightingsOf situation₂ services₂ ∨
        sightingsOf situation₂ services₂ <+: sightingsOf situation₁ services₁) := by
  refine ⟨isSequence_sightingsOf h₁ services₁, isSequence_sightingsOf h₂ services₂, ?_⟩
  have hfirst := prefix_sightingsOf h₁ services₁
  have hsecond := prefix_sightingsOf h₂ services₂
  -- Both begin the one list of all events that the source holds.
  rw [hfields] at hfirst
  exact List.prefix_or_prefix_of_prefix hfirst hsecond

/-- The sample with another server, another key and one batch for all records. -/
def resentSituation : Situation :=
  { sampleSituation [] with
    environment := [("ADDEVENTS_URL", "https://b.c"), ("ADDEVENTS_API_KEY", "l")] }

/-- The first run sends two of three events before it fails, and the second one sends all. -/
theorem sample_resends :
    (sightingsOf (sampleSituation "https://a.b") sampleServices).length = 2 ∧
      (sightingsOf resentSituation { timeOfDay := { now := 200 } }).length = 3 ∧
      sightingsOf (sampleSituation "https://a.b") sampleServices <+:
        sightingsOf resentSituation { timeOfDay := { now := 200 } } := by
  have hships : Ships (sampleSituation "https://a.b") (sampleConfig "https://a.b")
      "https://a.b/addEvents" ⟨"https", [], "a.b", none, "/addEvents", none, none⟩ sampleSource :=
    ships_sample rfl (by decide +kernel)
  have hresent : Begins resentSituation { url := .text "https://b.c", apiKey := "l" }
      sampleSource := {
    loads := ⟨{}, rfl, rfl⟩
    starts := ⟨_, rfl⟩
    opens := rfl
    decodes := hships.decodes
    reads := hships.reads }
  have htwo : (sightingsOf (sampleSituation "https://a.b") sampleServices).length = 2 := by
    decide +kernel
  have hthree : (sightingsOf resentSituation { timeOfDay := { now := 200 } }).length = 3 := by
    decide +kernel
  obtain ⟨-, -, hprefix | hprefix⟩ := run_resends hships.begins hresent rfl sampleServices
    { timeOfDay := { now := 200 } }
  · exact ⟨htwo, hthree, hprefix⟩
  · have hlength := hprefix.length_le
    rw [htwo, hthree] at hlength
    exact absurd hlength (by decide)

end Run

end LogShipper
