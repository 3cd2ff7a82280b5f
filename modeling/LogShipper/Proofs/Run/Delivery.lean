import LogShipper.Proofs.Config.Loading
import LogShipper.Proofs.Run.Attempts

/-!
# What a run delivers

The batches that a run hands to its shipper are blocks of the records in its input, from the first
one on.  Each is sent as one request at most, and none follows a batch that failed or a request
during which a signal arrived.  If the server's name is in ASCII the exit code tells whether the
last batch failed; else nothing can be sent, and the run breaks off at its first batch.
-/

namespace LogShipper.Run

variable {config : Config} {client : Client} {target : Url} {first : Services}
  {attempts : List (Attempt State Record)}

/-! ## 1. Runs -/

/-- The state in which a run begins to ship. -/
def opened (config : Config) (services : Services) : State :=
  let (shipper, services) := Shipper.create config services
  let started := shipper.start services
  (started.shipper, started.services)

/-- The batches that a run hands to its shipper, each with the state in which it does.  Recording
them changes nothing, by `Depot.erase_record`. -/
def attemptsOf (situation : Situation) (services : Services) : List (Attempt State Record) :=
  match Arguments.read situation.words with
  | .error _ => []
  | .ok arguments =>
    let loaded := Config.load arguments situation.environment situation.openFile
    match loaded.result with
    | .error _ => []
    | .ok config =>
      match source config situation with
      | .error _ => []
      | .ok source =>
        let state := opened config (loaded.notices.foldl Services.report services)
        (depot.record config.batchSize (supply source) state).2.2

/-- A run that gets as far as shipping, from a source that can be read to its end. -/
structure Ships (situation : Situation) (config : Config) (url : Text) (target : Url)
    (source : Source) : Prop where
  loads : ∃ arguments, Arguments.read situation.words = .ok arguments ∧
    (Config.load arguments situation.environment situation.openFile).result = .ok config
  names : config.fields.AreTexts
  starts : Endpoint.ofJson config.url = .ok url
  parses : Url.parse url = .ok target
  opens : Run.source config situation = .ok source
  decodes : source.file.fault = none
  reads : source.reading.fault = none

def clientOf (config : Config) (url : Text) (services : Services) : Client :=
  ⟨url, config.apiKey, services.sessions.take.1, config.requestTimeout, false, 0⟩

variable {url : Text} {source : Source} {situation : Situation} {services : Services}

theorem opened_eq (hurl : Endpoint.ofJson config.url = .ok url) :
    opened config services =
      (⟨config, { startTime := services.clock.read.1 }, some (clientOf config url services), false⟩,
        { services with
          clock := services.clock.read.2
          sessions := services.sessions.take.2 }.report
            (.shipperStarted url services.sessions.take.1)) :=
  congrArg (fun step : ShipperStep => (step.shipper, step.services)) (Shipper.start_create hurl)

theorem kept_opened (hurl : Endpoint.ofJson config.url = .ok url) (hfirst : first.AreOrdinary) :
    Kept config (clientOf config url first) target first (opened config first) [] := by
  have hclock := hfirst.clock.read
  rw [opened_eq hurl]
  exact {
    ready := {
      config := rfl
      isStopped := rfl
      client := ⟨0, rfl⟩
      clock := hclock.2 }
    puts := fun attempt ha => absurd ha List.not_mem_nil
    timeOfDay := rfl
    times := fun before attempt after hnil => absurd hnil.symm (by simp)
    transport := by simp [requests]
    stopRequested := by simp [requests, hfirst.stopRequested]
    quiet := fun place hplace => absurd hplace (Nat.not_lt_zero _)
    metrics := .of_new hclock.1 }

theorem isRecord_opened (h : Ships situation config url target source)
    (hfirst : first.AreOrdinary) :
    let record := depot.record config.batchSize (supply source) (opened config first)
    depot.IsRecord config.batchSize (supply source) record.1 record.2.1 record.2.2 ∧
      Kept config (clientOf config url first) target first record.2.1 record.2.2 := by
  obtain ⟨arguments, -, hload⟩ := h.loads
  refine Depot.isRecord_record (Config.usable_of_load hload).2 (kept_opened h.starts hfirst)
    ?_ ?_
  · intro change hchange state attempts hkept
    obtain ⟨notice, -, rfl⟩ := eq_report_of_mem_supply hchange
    exact hkept.report notice
  · intro batch before attempts hkept haccepted hgoing hbatch hitems
    rw [items_supply source] at hitems
    -- A record that was read makes an event, so no batch fails for its records.
    exact Kept.put ⟨batch, before⟩ hkept hfirst rfl h.parses h.names hgoing hbatch
      fun record hrecord => RecordReading.isSound_of_mem (hitems record hrecord)

theorem transport_conclude (result : Except RunFault Nat) (services : Services) :
    (conclude result services).2.transport = services.transport := by
  cases result <;> rfl

/-- Nothing is sent when the shipper is stopped. -/
theorem transport_finish_eq (config : Config) (situation : Situation) (state : State) :
    (finish config situation state).2.transport =
      (ship config situation state).2.2.transport := by
  unfold finish
  dsimp only
  split
  · exact Shipper.stop_transport
  · exact (transport_conclude _ _).trans Shipper.stop_transport

theorem ship_eq (hsource : Run.source config situation = .ok source) (state : State) :
    ship config situation state =
      Depot.erase (depot.record config.batchSize (supply source) state) := by
  rw [Depot.erase_record, ship, hsource]

theorem finish_eq (hsource : Run.source config situation = .ok source) (state : State) :
    finish config situation state =
      let record := depot.record config.batchSize (supply source) state
      let stopped := record.2.1.1.stop record.2.1.2
      match stopped.result with
      | .error fault => (.broken (.shipper fault), stopped.services)
      | .ok () => conclude record.1 stopped.services := by
  rw [finish, ship_eq hsource]
  rfl

theorem transport_finish (hsource : Run.source config situation = .ok source) (state : State) :
    (finish config situation state).2.transport =
      (depot.record config.batchSize (supply source) state).2.1.2.transport := by
  rw [transport_finish_eq, ship_eq hsource]
  rfl

/-- A run whose shipper can be started ships, from the state in which the shipper is. -/
theorem run_of_starts {arguments : Arguments}
    (harguments : Arguments.read situation.words = .ok arguments)
    (hload : (Config.load arguments situation.environment situation.openFile).result = .ok config)
    (hstarts : Endpoint.ofJson config.url = .ok url) (services : Services) :
    run situation services = finish config situation (opened config
      ((Config.load arguments situation.environment situation.openFile).notices.foldl
        Services.report services)) := by
  rw [run, harguments]
  dsimp only
  rw [hload]
  dsimp only
  rw [withConfig]
  dsimp only
  rw [Shipper.start_create hstarts, opened_eq hstarts]
  rfl

theorem run_eq_finish
    (hloads : ∃ arguments, Arguments.read situation.words = .ok arguments ∧
      (Config.load arguments situation.environment situation.openFile).result = .ok config)
    (hstarts : Endpoint.ofJson config.url = .ok url)
    (hopens : Run.source config situation = .ok source) (services : Services) :
    ∃ notices : List Notice,
      let first : Services := { services with notices := services.notices ++ notices }
      run situation services = finish config situation (opened config first) ∧
        attemptsOf situation services =
          (depot.record config.batchSize (supply source) (opened config first)).2.2 := by
  obtain ⟨arguments, harguments, hload⟩ := hloads
  refine ⟨(Config.load arguments situation.environment situation.openFile).notices, ?_, ?_⟩
  · rw [run_of_starts harguments hload hstarts, Services.foldl_report]
  · rw [attemptsOf, harguments]
    dsimp only
    rw [hload, Services.foldl_report]
    dsimp only
    rw [hopens]

theorem run_eq (h : Ships situation config url target source) (services : Services) :
    ∃ notices : List Notice,
      let first : Services := { services with notices := services.notices ++ notices }
      run situation services = finish config situation (opened config first) ∧
        attemptsOf situation services =
          (depot.record config.batchSize (supply source) (opened config first)).2.2 :=
  run_eq_finish h.loads h.starts h.opens services

/-! ## 2. Delivery -/

/-- What a run delivers.  The batches are blocks of the records, one after the other from the first;
all but the last are full and were accepted.  A batch makes one request at most, for the events that
its records make at the time; nothing is put or sent after a request during which a signal arrived.
The time of day goes on from record to record and from batch to batch.  The exit code tells whether
the last batch failed, and without a signal all records are delivered if it did not.  To a server
whose name is not in ASCII nothing can be sent, and the first batch breaks off the run. -/
structure Delivery (config : Config) (client : Client) (target : Url) (records : List Record)
    (services : Services) (attempts : List (Attempt State Record)) (ended : Ending × Services) :
    Prop where
  blocks : Attempt.items attempts <+: records
  sized : ∀ attempt ∈ attempts,
    attempt.batch ≠ [] ∧ (attempt.batch.length : Int) ≤ config.batchSize
  full : ∀ attempt ∈ attempts.dropLast, (attempt.batch.length : Int) = config.batchSize
  accepted : ∀ attempt ∈ attempts.dropLast, depot.accepts attempt = true
  going : ∀ attempt ∈ attempts, attempt.before.2.stopRequested = false
  acceptance : ∀ attempt ∈ attempts, depot.accepts attempt = true →
    requestsOf attempt ≠ [] ∧ attempt.before.2.transport.nextOutcome.IsAcceptance
  request : ∀ attempt ∈ attempts, requestsOf attempt = [] ∨
    ∃ events,
      (Record.toEvents config.fields attempt.before.2.timeOfDay attempt.batch).1 = .ok events ∧
      requestsOf attempt = [client.requestFor target events]
  times : ∀ before attempt after, attempts = before ++ attempt :: after →
    attempt.before.2.timeOfDay = Record.timeAfter services.timeOfDay (Attempt.items before)
  sent : ended.2.transport.sent = services.transport.sent ++ requests attempts
  quiet : ∀ place, place + 1 < (requests attempts).length → services.signalAt place = none
  exit : target.server.isAscii = true →
    ended.1 = .exit (if attempts.getLast?.all depot.accepts then 0 else 1)
  complete : attempts.getLast?.all depot.accepts = true →
    (∀ place < (requests attempts).length, services.signalAt place = none) →
      Attempt.items attempts = records
  unsendable : target.server.isAscii = false → requests attempts = [] ∧
    (records = [] → attempts = [] ∧ ended.1 = .exit 0) ∧
    (records ≠ [] → ∃ attempt fault, attempts = [attempt] ∧
      ended.1 = .broken (.shipper (.client (.unsendableHost fault))))

section Endings

variable {result : Except RunFault Nat} {final : State}

theorem all_accepts_iff
    (hrecord : depot.IsRecord config.batchSize (supply source) result final attempts)
    (hfaults : ∀ e, .fault e ∉ supply source) :
    attempts.getLast?.all depot.accepts = true ↔ ∃ batches, result = .ok batches := by
  cases result with
  | ok batches =>
    refine ⟨fun _ => ⟨batches, rfl⟩, fun _ => ?_⟩
    obtain ⟨-, haccepted, -⟩ := hrecord.ok batches rfl
    rw [Option.all_eq_true]
    exact fun last hlast => haccepted last (List.mem_of_getLast? hlast)
  | error e =>
    refine ⟨fun hall => ?_, nofun⟩
    obtain ⟨hfault, -⟩ | ⟨last, hlast, hput⟩ := hrecord.error e rfl
    · exact absurd hfault (hfaults e)
    · rw [hlast, Option.all_some, Depot.accepts_of_error hput] at hall
      cases hall

theorem exit_conclude (h : Kept config client target first final attempts)
    (hrecord : depot.IsRecord config.batchSize (supply source) result final attempts)
    (hfaults : ∀ e, .fault e ∉ supply source) (hserver : target.server.isAscii = true)
    (services : Services) : (conclude result services).1 =
      .exit (if attempts.getLast?.all depot.accepts then 0 else 1) := by
  have hall := all_accepts_iff hrecord hfaults
  cases result with
  | ok batches =>
    rw [if_pos (hall.2 ⟨batches, rfl⟩)]
    rfl
  | error e =>
    rw [if_neg fun h => nomatch hall.1 h]
    obtain ⟨hfault, -⟩ | ⟨last, hlast, hput⟩ := hrecord.error e rfl
    · exact absurd hfault (hfaults e)
    · have hfailure := (h.puts last (List.mem_of_getLast? hlast)).isBatchFailure hserver hput
      show (if isBatchFailure e then Ending.exit 1 else .broken e) = .exit 1
      rw [if_pos hfailure]

theorem items_of_complete (h : Kept config client target first final attempts)
    (hrecord : depot.IsRecord config.batchSize (supply source) result final attempts)
    (hfaults : ∀ e, .fault e ∉ supply source)
    (hall : attempts.getLast?.all depot.accepts = true)
    (hquiet : ∀ place < (requests attempts).length, first.signalAt place = none) :
    Attempt.items attempts = Supply.items (supply source) := by
  obtain ⟨batches, rfl⟩ := (all_accepts_iff hrecord hfaults).1 hall
  obtain ⟨-, -, hitems | hstop⟩ := hrecord.ok batches rfl
  · exact hitems
  · obtain ⟨place, hplace, hsignal⟩ := h.stopRequested.1 hstop
    rw [hquiet place hplace] at hsignal
    cases hsignal

theorem unsendable_conclude (h : Kept config client target first final attempts)
    (hrecord : depot.IsRecord config.batchSize (supply source) result final attempts)
    (hfaults : ∀ e, .fault e ∉ supply source) (hserver : target.server.isAscii = false)
    (services : Services) :
    requests attempts = [] ∧
      (Supply.items (supply source) = [] → attempts = [] ∧
        (conclude result services).1 = .exit 0) ∧
      (Supply.items (supply source) ≠ [] → ∃ attempt fault, attempts = [attempt] ∧
        (conclude result services).1 = .broken (.shipper (.client (.unsendableHost fault)))) := by
  have hrequests : requests attempts = [] :=
    List.flatMap_eq_nil_iff.2 fun attempt ha => ((h.puts attempt ha).unsendable hserver).1
  have hunaccepted : ∀ attempt ∈ attempts, depot.accepts attempt ≠ true := by
    intro attempt ha haccepts
    have hother := ((h.puts attempt ha).of_accepts haccepts).1
    rw [hserver] at hother
    cases hother
  cases result with
  | ok batches =>
    obtain ⟨-, haccepted, hend⟩ := hrecord.ok batches rfl
    have hnone : attempts = [] := List.eq_nil_iff_forall_not_mem.2 fun attempt ha =>
      hunaccepted attempt ha (haccepted attempt ha)
    refine ⟨hrequests, fun _ => ⟨hnone, rfl⟩, fun hitems => ?_⟩
    rcases hend with hall | hstop
    · rw [hnone] at hall
      exact absurd hall.symm hitems
    · obtain ⟨place, hplace, -⟩ := h.stopRequested.1 hstop
      rw [hrequests] at hplace
      -- Without a request no signal arrives.
      exact absurd hplace (Nat.not_lt_zero _)
  | error e =>
    obtain ⟨hfault, -⟩ | ⟨last, hlast, hput⟩ := hrecord.error e rfl
    · exact absurd hfault (hfaults e)
    · have hmem := List.mem_of_getLast? hlast
      -- No batch is accepted, so there is none before the last.
      have hone : attempts = [last] := by
        have hbefore : attempts.dropLast = [] := List.eq_nil_iff_forall_not_mem.2 fun attempt ha =>
          hunaccepted attempt (List.dropLast_subset _ ha) (hrecord.accepted attempt ha)
        rw [← List.dropLast_append_getLast? last hlast, hbefore, List.nil_append]
      obtain ⟨-, fault, after, hunsendable⟩ := (h.puts last hmem).unsendable hserver
      obtain ⟨he, -⟩ := Prod.mk.inj (hput.symm.trans hunsendable)
      obtain rfl := Except.error.inj he
      refine ⟨hrequests, fun hitems => ?_, fun _ => ⟨last, fault, hone, rfl⟩⟩
      have hblocks := hrecord.items_prefix
      rw [hitems, List.prefix_nil, hone] at hblocks
      simp [Attempt.items, (hrecord.sized last hmem).1] at hblocks

end Endings

/-- A run delivers its records.  The records, and the bytes of each body, are fewer than the
`placeBound` places of a sequence. -/
theorem run_delivery (h : Ships situation config url target source)
    (hservices : services.AreOrdinary) (hrecords : source.reading.records.length < 2 ^ 63)
    (hbodies : ∀ request ∈ (run situation services).2.transport.sent,
      request.body.length < 2 ^ 63) :
    Delivery config (clientOf config url services) target source.reading.records services
      (attemptsOf situation services) (run situation services) := by
  obtain ⟨notices, hrun, hattempts⟩ := run_eq h services
  generalize hfirst : ({ services with notices := services.notices ++ notices } : Services) = first
    at hrun hattempts
  have hordinary : first.AreOrdinary := by
    rw [← hfirst]
    exact ⟨hservices.clock, hservices.stopRequested, hservices.answers⟩
  obtain ⟨hrecord, hkept⟩ := isRecord_opened h hordinary
  have hfinish := finish_eq h.opens (opened config first)
  have htransport := transport_finish h.opens (opened config first)
  have hfaults := not_fault_mem_supply h.decodes h.reads
  have hitems := items_supply source
  rw [hrun] at hbodies ⊢
  rw [hattempts]
  generalize depot.record config.batchSize (supply source) (opened config first) = record
    at hrecord hkept hfinish htransport ⊢
  obtain ⟨result, final, attempts⟩ := record
  have hsent : (finish config situation (opened config first)).2.transport.sent =
      first.transport.sent ++ requests attempts := by
    rw [htransport, hkept.transport]
  have hblocks := hitems ▸ hrecord.items_prefix
  -- The shipper is stopped without a fault, so that the run ends as shipping did.
  have hstopped : (final.1.stop final.2).result = .ok () := by
    refine Shipper.stop_of_isShowable ?_ hkept.ready.clock
    refine hkept.isShowable (fun attempt ha => (hrecord.sized attempt ha).1)
      (hblocks.length_le.trans_lt hrecords) fun request hr => hbodies request ?_
    rw [hsent]
    exact List.mem_append_right _ hr
  dsimp only at hfinish
  rw [hstopped] at hfinish
  dsimp only at hfinish
  rw [← hitems]
  subst hfirst
  exact {
    blocks := hrecord.items_prefix
    sized := hrecord.sized
    full := hrecord.full
    accepted := hrecord.accepted
    going := hrecord.going
    acceptance := fun attempt ha haccepts => ((hkept.puts attempt ha).of_accepts haccepts).2
    request := fun attempt ha => (hkept.puts attempt ha).requestsOf_eq
    times := hkept.times
    sent := hsent
    quiet := hkept.quiet
    exit := fun hserver => by
      rw [hfinish]
      exact exit_conclude hkept hrecord hfaults hserver _
    complete := fun hall hquiet => items_of_complete hkept hrecord hfaults hall fun place hplace =>
      hquiet place hplace
    unsendable := fun hserver => by
      rw [hfinish]
      exact unsendable_conclude hkept hrecord hfaults hserver _ }

/-- Three records, each a batch of its own. -/
def sampleSituation (url : Text) : Situation where
  words := []
  environment := [("ADDEVENTS_URL", url), ("ADDEVENTS_API_KEY", "k"), ("BATCH_SIZE", "1")]
  openFile := fun path => .error (.missing path)
  input := ["\x7b\x7d\n\x7b\x7d\n\x7b\x7d".toList.flatMap Utf8.encodeChar]

/-- A server that accepts the first batch and does not answer to the second. -/
def sampleServices : Services where
  timeOfDay := { now := 100 }
  transport := { answers := [.accepted, { outcome := .failed "timed out" }] }

def sampleConfig (url : Text) : Config where
  url := .text url
  apiKey := "k"
  batchSize := 1

def sampleSource : Source :=
  ⟨inputTopic, .ofPortions (sampleSituation []).input⟩

theorem ships_sample {given url : Text} {target : Url} (hurl : Endpoint.ofText given = .ok url)
    (htarget : Url.parse url = .ok target) :
    Ships (sampleSituation given) (sampleConfig given) url target sampleSource where
  loads := ⟨{}, rfl, rfl⟩
  names := ⟨_, _, _, _, rfl⟩
  starts := hurl
  parses := htarget
  opens := rfl
  decodes := by decide +kernel
  reads := by decide +kernel

/-- The second of three batches fails, or nothing can be sent at all. -/
theorem sample_deliveries :
    ((run (sampleSituation "https://a.b") sampleServices).1 = .exit 1 ∧
      (attemptsOf (sampleSituation "https://a.b") sampleServices).length = 2) ∧
    ∃ fault, (run (sampleSituation "https://[fe80::1%é]") sampleServices).1 =
      .broken (.shipper (.client (.unsendableHost fault))) := by
  have hservices : sampleServices.AreOrdinary := {
    clock := ⟨⟨_, rfl⟩, nofun⟩
    stopRequested := rfl
    answers := by
      intro answer ha
      rcases List.mem_pair.1 ha with rfl | rfl
      · exact Answer.isOrdinary_accepted
      · exact trivial }
  have hplain : Ships (sampleSituation "https://a.b") (sampleConfig "https://a.b")
      "https://a.b/addEvents" ⟨"https", [], "a.b", none, "/addEvents", none, none⟩ sampleSource :=
    ships_sample rfl (by decide +kernel)
  have hzoned : Ships (sampleSituation "https://[fe80::1%é]") (sampleConfig "https://[fe80::1%é]")
      "https://[fe80::1%é]/addEvents" ⟨"https", [], "fe80::1%é", none, "/addEvents", none, none⟩
      sampleSource :=
    ships_sample rfl (by decide +kernel)
  have hrecords : sampleSource.reading.records.length = 3 := by decide +kernel
  have hfailed : (attemptsOf (sampleSituation "https://a.b") sampleServices).getLast?.all
      depot.accepts = false := by decide +kernel
  refine ⟨⟨?_, by decide +kernel⟩, ?_⟩
  · have hdelivery := run_delivery hplain hservices (by rw [hrecords]; decide) (by decide +kernel)
    rw [hdelivery.exit (by decide +kernel), hfailed]
    rfl
  · have hdelivery := run_delivery hzoned hservices (by rw [hrecords]; decide) (by decide +kernel)
    have hsome : sampleSource.reading.records ≠ [] := by
      intro hnone
      rw [hnone] at hrecords
      cases hrecords
    obtain ⟨attempt, fault, -, hended⟩ := (hdelivery.unsendable (by decide +kernel)).2.2 hsome
    exact ⟨fault, hended⟩

end LogShipper.Run
