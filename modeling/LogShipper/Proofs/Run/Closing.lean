import LogShipper.Proofs.Run.Failing

/-!
# How a run ends

However shipping ends, the shipper is stopped once.  What it reports then is reported after the last
request, and counts the requests that were accepted and their bytes.  A run ends with code 0 only if
every request was accepted; the number of batches that it reports is the number of requests.
-/

namespace LogShipper

/-! ## 1. Accepted requests -/

/-- Whether an outcome says that the batch was accepted. -/
def Outcome.isAcceptance : Outcome → Bool
  | .reply httpStatus body =>
    match Json.readBytes body with
    | .ok (.object members) => httpStatus = 200 && (Response.ofMembers members).isSuccess
    | _ => false
  | .failed _ | .broken _ _ => false

theorem Outcome.isAcceptance_iff {outcome : Outcome} :
    outcome.isAcceptance = true ↔ outcome.IsAcceptance := by
  cases outcome with
  | failed message => exact iff_of_false Bool.false_ne_true id
  | broken cause message => exact iff_of_false Bool.false_ne_true id
  | reply httpStatus body =>
    show Outcome.isAcceptance (.reply httpStatus body) = true ↔
      Response.IsAcceptance httpStatus body
    rw [isAcceptance]
    split
    next members hbody =>
      rw [Response.isAcceptance_iff hbody, Bool.and_eq_true, decide_eq_true_iff]
    next hnone =>
      -- Without an object there is no status that could be a success.
      apply iff_of_false Bool.false_ne_true
      rintro ⟨-, members, hbody, -⟩
      exact hnone members hbody

theorem Client.exists_conclude_iff {client : Client} {outcome : Outcome} :
    (∃ response, client.conclude outcome = .ok response) ↔ outcome.isAcceptance = true := by
  constructor
  · rintro ⟨response, h⟩
    exact Outcome.isAcceptance_iff.2 (isAcceptance_of_conclude h)
  · intro h
    have hacceptance := Outcome.isAcceptance_iff.1 h
    cases outcome with
    | failed message => exact hacceptance.elim
    | broken cause message => exact hacceptance.elim
    | reply httpStatus body =>
      obtain ⟨-, members, hbody, -⟩ := id hacceptance
      refine ⟨Response.ofMembers members, ?_⟩
      show Response.judge httpStatus body = _
      rw [Response.judge_of_object httpStatus hbody,
        if_pos ((Response.isAcceptance_iff hbody).1 hacceptance)]

namespace Transport

/-- The outcome of a request that is to come, by the number of requests before it. -/
def outcomeAt (transport : Transport) (place : Nat) : Outcome :=
  (transport.answers.getD place .accepted).outcome

/-- Those of the requests to come that are accepted. -/
def acceptedOf (transport : Transport) (requests : List Request) : List Request :=
  (requests.zipIdx.filter fun sent => (transport.outcomeAt sent.2).isAcceptance).map Prod.fst

theorem acceptedOf_append (transport : Transport) (requests : List Request) (last : Request) :
    transport.acceptedOf (requests ++ [last]) = transport.acceptedOf requests ++
      if (transport.outcomeAt requests.length).isAcceptance = true then [last] else [] := by
  rw [acceptedOf, List.zipIdx_append, List.filter_append, List.map_append, acceptedOf]
  congr 1
  rw [List.zipIdx_singleton, List.filter_singleton, Nat.zero_add]
  cases (transport.outcomeAt requests.length).isAcceptance <;> rfl

end Transport

/-- Metrics that count some requests, and the bytes in their bodies. -/
structure Metrics.Tallies (metrics : Metrics) (requests : List Request) : Prop where
  batchesSent : metrics.batchesSent = requests.length
  totalBytes : metrics.totalBytes = ((requests.map fun request => request.body.length).sum : Nat)

/-- Whether a notice belongs to the end of a run. -/
def Notice.isClosing : Notice → Bool
  | .finalMetrics _ | .shipped _ => true
  | _ => false

theorem Notice.isClosing_of_isOfBatch {notice : Notice} (h : notice.isOfBatch = true) :
    notice.isClosing = false := by
  cases notice <;> first | rfl | cases h

theorem Notice.isClosing_of_level {notice : Notice} (h : notice.level = .warning) :
    notice.isClosing = false := by
  cases notice <;> first | rfl | cases h

theorem Notice.isClosing_of_channel {notice : Notice} (h : notice.channel = .settings) :
    notice.isClosing = false := by
  cases notice <;> first | rfl | cases h

/-! ## 2. One put -/

namespace Run

variable {config : Config} {client : Client} {first : Services} {state : State}
  {attempt : Attempt State Record} {attempts : List (Attempt State Record)}

/-- A put sends nothing and fails, or it sends one request, and succeeds exactly if that is
accepted. -/
theorem wire_put (hbatch : attempt.batch ≠ []) (hclock : attempt.before.2.clock.IsReal) :
    let after := (depot.put attempt.batch attempt.before).2.2.transport
    (requestsOf attempt = [] ∧ after = attempt.before.2.transport ∧
      depot.accepts attempt = false) ∨
    ∃ request, requestsOf attempt = [request] ∧
      after = ⟨attempt.before.2.transport.answers.tail,
        attempt.before.2.transport.sent ++ [request]⟩ ∧
      depot.accepts attempt = attempt.before.2.transport.nextOutcome.isAcceptance := by
  have hput := Shipper.put_cases attempt.before.1 attempt.batch hclock
  rw [requestsOf, Depot.accepts, put_eq]
  dsimp only
  generalize attempt.before.1.put attempt.batch attempt.before.2 = step at hput
  cases hput with
  | refused hidle => exact .inl ⟨List.drop_length, rfl, rfl⟩
  | passed hrunning hempty => exact absurd hempty hbatch
  | unmappable hrunning _ hevents notice =>
    rw [Shipper.fail_transport, Shipper.fail_result]
    exact .inl ⟨List.drop_length, rfl, rfl⟩
  | @failed hrunning _ used events logged fault hclient hevents hlogged hresult notice =>
    rw [Shipper.fail_transport, Shipper.fail_result, Shipper.transport_servicesAfter]
    subst hlogged
    rcases used.log_sends events attempt.before.2.transport with
      ⟨hsilent, -⟩ | ⟨target, -, -, hsent, hconclude⟩
    · rw [hsilent]
      exact .inl ⟨List.drop_length, rfl, rfl⟩
    · right
      rw [hsent]
      refine ⟨_, List.drop_left, rfl, ?_⟩
      -- The put failed, so that the outcome was no acceptance.
      have hrefused : ¬ attempt.before.2.transport.nextOutcome.isAcceptance = true := by
        intro haccepted
        obtain ⟨response, hok⟩ := Client.exists_conclude_iff.2 haccepted
        rw [hconclude, hok] at hresult
        cases hresult
      exact (Bool.not_eq_true _ ▸ hrefused).symm
  | @sent hrunning _ used events logged response hclient hevents hlogged hresult millis notice =>
    rw [Services.transport_report]
    subst hlogged
    rcases used.log_sends events attempt.before.2.transport with
      ⟨-, fault, hfailed⟩ | ⟨target, -, -, hsent, hconclude⟩
    · rw [hresult] at hfailed
      cases hfailed
    · right
      let mapped := attempt.before.2.afterMapping attempt.before.1.config.fields attempt.batch
      have hafter := (@Shipper.transport_servicesAfter mapped _).trans hsent
      have haccepted : attempt.before.2.transport.nextOutcome.isAcceptance = true :=
        Client.exists_conclude_iff.1 ⟨response, hconclude.symm.trans hresult⟩
      refine ⟨used.requestFor target events, ?_, hafter, haccepted.symm⟩
      exact (congrArg (fun transport : Transport => transport.sent.drop _) hafter).trans
        List.drop_left

theorem isAccepted_eventOf (hbatch : attempt.batch ≠ []) :
    (attempt.before.1.eventOf attempt.before.2 (.put attempt.batch)).isAccepted =
      depot.accepts attempt := by
  have hsome : (!attempt.batch.isEmpty) = true := by simpa using hbatch
  rw [Depot.accepts, put_eq]
  show ShipperEvent.isAccepted ⟨.put attempt.batch, _, _, _⟩ = _
  unfold ShipperEvent.isAccepted Shipper.perform
  dsimp only
  cases (attempt.before.1.put attempt.batch attempt.before.2).result with
  | ok _ => exact hsome
  | error fault => rfl

/-- The requests of an attempt, if it was accepted. -/
def acceptedBy (attempt : Attempt State Record) : List Request :=
  if depot.accepts attempt = true then requestsOf attempt else []

theorem tallies_put {accepted : List Request} (hbatch : attempt.batch ≠ [])
    (hclock : attempt.before.2.clock.IsReal) (h : attempt.before.1.metrics.Tallies accepted) :
    (depot.put attempt.batch attempt.before).2.1.metrics.Tallies
      (accepted ++ acceptedBy attempt) := by
  have hadds := @Shipper.adds_put attempt.before.1 attempt.before.2 attempt.batch hclock
  have hbatches := hadds.batchesSent
  have hbytes := hadds.totalBytes
  rw [isAccepted_eventOf hbatch] at hbatches hbytes
  rw [acceptedBy]
  cases haccepts : depot.accepts attempt with
  | false =>
    rw [haccepts] at hbatches hbytes
    rw [if_neg Bool.false_ne_true, List.append_nil]
    exact ⟨hbatches.trans h.batchesSent, hbytes.trans ((Int.add_zero _).trans h.totalBytes)⟩
  | true =>
    rw [haccepts, if_pos rfl] at hbatches hbytes
    have hcount : (attempt.before.1.eventOf attempt.before.2 (.put attempt.batch)).byteCount =
        ((requestsOf attempt).map fun request => request.body.length).sum := rfl
    -- What was accepted was sent, as the only request of the put.
    have hone : (requestsOf attempt).length = 1 := by
      rcases wire_put hbatch hclock with ⟨-, -, hrefused⟩ | ⟨request, hone, -, -⟩
      · rw [haccepts] at hrefused
        cases hrefused
      · rw [hone]
        rfl
    rw [if_pos rfl]
    constructor
    · rw [List.length_append, hone]
      exact hbatches.trans (congrArg (· + 1) h.batchesSent)
    · rw [List.map_append, List.sum_append, Nat.cast_add, ← hcount]
      exact hbytes.trans (congrArg (· + _) h.totalBytes)

/-! ## 3. What is kept while shipping -/

/-- How a state came about by some attempts, and what can be counted then. -/
structure Tallied (config : Config) (client : Client) (first : Services) (state : State)
    (attempts : List (Attempt State Record)) : Prop where
  ready : IsReady config client state
  batches : ∀ attempt ∈ attempts, attempt.batch ≠ []
  transport : state.2.transport = ⟨first.transport.answers.drop (requests attempts).length,
    first.transport.sent ++ requests attempts⟩
  length : (requests attempts).length ≤ attempts.length
  within : HasWithin state attempts
  accepted : first.transport.acceptedOf (requests attempts) = attempts.flatMap acceptedBy
  tallies : state.1.metrics.Tallies (attempts.flatMap acceptedBy)
  quiet : first.Reports (·.isClosing = false) state.2

theorem Tallied.nextOutcome (h : Tallied config client first state attempts) :
    state.2.transport.nextOutcome = first.transport.outcomeAt (requests attempts).length := by
  rw [Transport.nextOutcome, Transport.outcomeAt, h.transport]
  simp [List.headD_eq_head?_getD, List.getD_eq_getElem?_getD]

theorem Tallied.accepted_put (h : Tallied config client first attempt.before attempts)
    (hbatch : attempt.batch ≠ []) :
    first.transport.acceptedOf (requests attempts ++ requestsOf attempt) =
      (attempts ++ [attempt]).flatMap acceptedBy := by
  rw [List.flatMap_append, List.flatMap_singleton, ← h.accepted, acceptedBy]
  rcases wire_put hbatch h.ready.clock with ⟨hnone, -, hrefused⟩ | ⟨request, hone, -, haccepts⟩
  · rw [hnone, ite_self]
    simp
  · rw [hone, Transport.acceptedOf_append, haccepts, h.nextOutcome]

theorem Tallied.put (attempt : Attempt State Record)
    (h : Tallied config client first attempt.before attempts) (hbatch : attempt.batch ≠ []) :
    Tallied config client first (depot.put attempt.batch attempt.before).2 (attempts ++ [attempt])
    where
  ready := h.ready.put attempt.batch
  batches := by
    rw [List.forall_mem_append, List.forall_mem_singleton]
    exact ⟨h.batches, hbatch⟩
  transport := by
    have hbefore := h.transport
    rw [requests_append]
    rcases wire_put hbatch h.ready.clock with ⟨hnone, hsilent, -⟩ | ⟨request, hone, hsent, -⟩
    · rw [hsilent, hnone, List.append_nil, hbefore]
    · rw [hsent, hone, hbefore]
      simp [List.tail_drop]
  length := length_requests_append h.length
  within := hasWithin_put h.ready.clock h.within
  accepted := by
    rw [requests_append]
    exact h.accepted_put hbatch
  tallies := by
    rw [List.flatMap_append, List.flatMap_singleton]
    exact tallies_put hbatch h.ready.clock h.tallies
  quiet := by
    have hput := Shipper.reports_put attempt.before.1 attempt.batch attempt.before.2
    exact h.quiet.trans (hput.mono fun _ => Notice.isClosing_of_isOfBatch)

theorem Tallied.report (h : Tallied config client first state attempts) {notice : Notice}
    (hnotice : notice.isClosing = false) :
    Tallied config client first (state.1, state.2.report notice) attempts where
  ready := ⟨h.ready.config, h.ready.isStopped, h.ready.client, h.ready.clock⟩
  batches := h.batches
  transport := h.transport
  length := h.length
  within := h.within
  accepted := h.accepted
  tallies := h.tallies
  quiet := h.quiet.trans (.of_report hnotice rfl)

/-! ## 4. Shipping -/

variable {url : Text} {source : Source} {situation : Situation} {arguments : Arguments}
  {services : Services}

theorem tallied_opened (hurl : Endpoint.ofJson config.url = .ok url) (hclock : first.clock.IsReal) :
    Tallied config (clientOf config url first) first (opened config first) [] := by
  have hstarted : (Notice.shipperStarted url first.sessions.take.1).isClosing = false := rfl
  rw [opened_eq hurl]
  exact {
    ready := {
      config := rfl
      isStopped := rfl
      client := ⟨0, rfl⟩
      clock := hclock.read.2 }
    batches := List.forall_mem_nil _
    transport := by simp [requests]
    length := Nat.le_refl _
    within := .of_new hclock.read.1
    accepted := rfl
    tallies := ⟨rfl, rfl⟩
    quiet := .of_report hstarted rfl }

/-- What is known when shipping has ended, whether the source could be opened or not: how the state
came about, that few batches were put, and, if all went well, that all of them were accepted. -/
structure Shipped (config : Config) (client : Client) (first : Services) (bound : Nat)
    (shipped : Except RunFault Nat × State) (attempts : List (Attempt State Record)) : Prop where
  tallied : Tallied config client first shipped.2 attempts
  length_items : (Attempt.items attempts).length ≤ bound
  ok : ∀ batches, shipped.1 = .ok batches →
    batches = attempts.length ∧ ∀ attempt ∈ attempts, depot.accepts attempt = true

/-- The number of records in the source of a run; none if it cannot be opened. -/
def recordCount (config : Config) (situation : Situation) : Nat :=
  match Run.source config situation with
  | .ok source => source.reading.records.length
  | .error _ => 0

theorem exists_shipped (hsize : 0 < config.batchSize)
    (hurl : Endpoint.ofJson config.url = .ok url) (hclock : first.clock.IsReal)
    (situation : Situation) :
    ∃ attempts, Shipped config (clientOf config url first) first (recordCount config situation)
      (ship config situation (opened config first)) attempts := by
  have hopened := tallied_opened hurl hclock
  unfold recordCount ship
  cases source config situation with
  -- A source that does not open leaves everything as it was.
  | error fault => exact ⟨[], hopened, Nat.le_refl _, nofun⟩
  | ok source =>
    have hevent : ∀ change, .event change ∈ supply source → ∀ state attempts,
        Tallied config (clientOf config url first) first state attempts →
          Tallied config (clientOf config url first) first (change state) attempts := by
      intro change hchange state attempts htallied
      obtain ⟨notice, hlevel, rfl⟩ := eq_report_of_mem_supply hchange
      exact htallied.report (Notice.isClosing_of_level hlevel)
    obtain ⟨hrecord, htallied⟩ := Depot.isRecord_record hsize hopened hevent
      fun batch before attempts htallied _ _ hbatch _ =>
        Tallied.put ⟨batch, before⟩ htallied hbatch
    refine ⟨(depot.record config.batchSize (supply source) (opened config first)).2.2, ?_⟩
    dsimp only
    rw [← Depot.erase_record]
    exact {
      tallied := htallied
      length_items := by
        rw [← items_supply]
        exact hrecord.items_prefix.length_le
      ok := by
        intro batches hbatches
        obtain ⟨hcount, haccepts, -⟩ := hrecord.ok batches hbatches
        exact ⟨hcount, haccepts⟩ }

/-! ## 5. Runs -/

/-- A run that starts its shipper. -/
structure Starts (situation : Situation) (arguments : Arguments) (config : Config) (url : Text) :
    Prop where
  reads : Arguments.read situation.words = .ok arguments
  loads : (Config.load arguments situation.environment situation.openFile).result = .ok config
  starts : Endpoint.ofJson config.url = .ok url

/-- The services when the settings have been loaded. -/
def loaded (situation : Situation) (arguments : Arguments) (services : Services) : Services :=
  (Config.load arguments situation.environment situation.openFile).notices.foldl Services.report
    services

theorem loaded_eq (situation : Situation) (arguments : Arguments) (services : Services) :
    loaded situation arguments services = { services with
      notices := services.notices ++
        (Config.load arguments situation.environment situation.openFile).notices } :=
  Services.foldl_report _ _

theorem quiet_loaded (situation : Situation) (arguments : Arguments) (services : Services) :
    services.Reports (·.isClosing = false) (loaded situation arguments services) := by
  rw [loaded_eq]
  refine ⟨_, rfl, fun notice hnotice => ?_⟩
  exact Notice.isClosing_of_channel (Config.channel_of_load hnotice)

/-- How a run ends, by the services when it begins and when it has shipped, and by the requests that
it has sent.  All requests were sent when it has shipped, and only what closes the run is reported
after that: the last metrics, which count the accepted requests and their bytes, and, if the run
ends with code 0, the number of batches.  Then all requests were accepted, and the number is
theirs. -/
structure Closes (services shipped : Services) (made : List Request) (snapshot : Snapshot)
    (ended : Ending × Services) : Prop where
  sent : shipped.transport.sent = services.transport.sent ++ made
  last : ended.2.transport = shipped.transport
  quiet : services.Reports (·.isClosing = false) shipped
  batchesSent : snapshot.batchesSent = (services.transport.acceptedOf made).length
  totalBytes : snapshot.totalBytes =
    (((services.transport.acceptedOf made).map fun request => request.body.length).sum : Nat)
  ending : (ended.1 = .exit 0 ∧ snapshot.batchesSent = made.length ∧
      ended.2.notices = shipped.notices ++ [.finalMetrics snapshot, .shipped made.length]) ∨
    (ended.1 = .exit 1 ∨ ∃ fault, ended.1 = .broken fault) ∧
      ended.2.notices = shipped.notices ++ [.finalMetrics snapshot]

/-- What is reported before the run begins to ship closes nothing either. -/
theorem Closes.of_first {shipped : Services} {made : List Request} {snapshot : Snapshot}
    {ended : Ending × Services} (h : Closes first shipped made snapshot ended)
    (htransport : first.transport = services.transport)
    (hquiet : services.Reports (·.isClosing = false) first) :
    Closes services shipped made snapshot ended where
  sent := htransport ▸ h.sent
  last := h.last
  quiet := hquiet.trans h.quiet
  batchesSent := htransport ▸ h.batchesSent
  totalBytes := htransport ▸ h.totalBytes
  ending := h.ending

theorem flatMap_acceptedBy (h : ∀ attempt ∈ attempts, depot.accepts attempt = true) :
    attempts.flatMap acceptedBy = requests attempts := by
  apply List.flatMap_congr
  intro attempt hattempt
  rw [acceptedBy, if_pos (h attempt hattempt)]

theorem length_requests_of_accepts (hbatches : ∀ attempt ∈ attempts, attempt.batch ≠ [])
    (h : ∀ attempt ∈ attempts, depot.accepts attempt = true) :
    (requests attempts).length = attempts.length := by
  induction attempts with
  | nil => rfl
  | cons attempt attempts ih =>
    rw [List.forall_mem_cons] at hbatches h
    have hone : (requestsOf attempt).length = 1 := by
      rcases (sent_put attempt).2 with ⟨-, hrefused⟩ | ⟨_, _, _, -, -, hone⟩
      · -- A batch for which nothing is sent is not accepted.
        rw [h.1] at hrefused
        cases hrefused hbatches.1
      · rw [hone]
        rfl
    have hrest := ih hbatches.2 h.2
    rw [requests] at hrest
    rw [requests, List.flatMap_cons, List.length_append, hone, hrest, List.length_cons]
    omega

theorem closes_finish {bound : Nat}
    (h : Shipped config client first bound (ship config situation state) attempts)
    (hbound : bound < 2 ^ 63)
    (hbodies : ∀ request ∈ (ship config situation state).2.2.transport.sent,
      request.body.length < 2 ^ 63) :
    ∃ snapshot, Closes first (ship config situation state).2.2 (requests attempts) snapshot
      (finish config situation state) := by
  have hsent := congrArg Transport.sent h.tallied.transport
  have hcount := Attempt.length_le_length_items h.tallied.batches
  have hitems := h.length_items
  -- So few records were put that the metrics can be shown.
  have hshowable : (ship config situation state).2.1.metrics.IsShowable := by
    apply isShowable_of_hasWithin h.tallied.within h.tallied.length (by omega) (by omega)
    intro request hrequest
    apply hbodies
    rw [hsent]
    exact List.mem_append_right _ hrequest
  obtain ⟨snapshot, hstop, hbatches, hbytes⟩ :=
    Shipper.exists_stop_eq hshowable h.tallied.ready.clock h.tallied.ready.isStopped
  have hbatchesSent := hbatches.trans h.tallied.tallies.batchesSent
  have htotalBytes := hbytes.trans h.tallied.tallies.totalBytes
  have hfinish : finish config situation state =
      conclude (ship config situation state).1
        ({ (ship config situation state).2.2 with
          clock := (ship config situation state).2.2.clock.read.2 }.report
            (.finalMetrics snapshot)) := by
    rw [finish]
    dsimp only
    rw [hstop]
  refine ⟨snapshot, ?_⟩
  rw [hfinish]
  exact {
    sent := hsent
    last := transport_conclude _ _
    quiet := h.tallied.quiet
    batchesSent := by rw [h.tallied.accepted, hbatchesSent]
    totalBytes := by rw [h.tallied.accepted, htotalBytes]
    ending := by
      cases hresult : (ship config situation state).1 with
      | ok batches =>
        obtain ⟨rfl, haccepts⟩ := h.ok batches hresult
        left
        rw [flatMap_acceptedBy haccepts] at hbatchesSent
        rw [conclude, ← length_requests_of_accepts h.tallied.batches haccepts]
        refine ⟨rfl, hbatchesSent, ?_⟩
        simp
      | error fault =>
        right
        rw [conclude]
        refine ⟨?_, rfl⟩
        cases isBatchFailure fault with
        | true => exact .inl rfl
        | false => exact .inr ⟨fault, rfl⟩ }

/-- A run that starts its shipper closes, however shipping ends.  The records, and the bytes of each
body, are fewer than the `placeBound` places of a sequence. -/
theorem run_closes (h : Starts situation arguments config url) (hclock : services.clock.IsReal)
    (hrecords : recordCount config situation < 2 ^ 63)
    (hbodies : ∀ request ∈ (run situation services).2.transport.sent,
      request.body.length < 2 ^ 63) :
    let state := opened config (loaded situation arguments services)
    ∃ made snapshot, Closes services (ship config situation state).2.2 made snapshot
      (run situation services) := by
  intro state
  have hsize := (Config.usable_of_load h.loads).2
  have hrun := run_of_starts h.reads h.loads h.starts services
  have hclockLoaded : (loaded situation arguments services).clock.IsReal := by
    rw [loaded_eq]
    exact hclock
  obtain ⟨attempts, hshipped⟩ := exists_shipped hsize h.starts hclockLoaded situation
  rw [hrun, transport_finish_eq] at hbodies
  rw [hrun]
  obtain ⟨snapshot, hcloses⟩ := closes_finish hshipped hrecords hbodies
  refine ⟨requests attempts, snapshot, hcloses.of_first ?_ (quiet_loaded _ _ _)⟩
  rw [loaded_eq]

/-- A record in the first portion of the input, and a second portion that is no text. -/
def brokenSituation : Situation :=
  { sampleSituation "https://a.b" with
    input := ["\x7b\x7d\n".toList.flatMap Utf8.encodeChar, [0xFF]] }

/-- The fault of an input that is no text, if it ended the run. -/
def encodingFault? : Ending → Option DecodeFault
  | .broken (.encoding fault) => some fault
  | _ => none

theorem eq_broken_of_encodingFault? {ending : Ending} {fault : DecodeFault}
    (h : encodingFault? ending = some fault) : ending = .broken (.encoding fault) := by
  unfold encodingFault? at h
  split at h
  · rw [Option.some.inj h]
  · cases h

/-- A run that sends two requests, of which one is accepted, reports one batch as sent.  So does one
whose only request is accepted before its input breaks off. -/
theorem sample_closes :
    ((run (sampleSituation "https://a.b") sampleServices).2.transport.sent.length = 2 ∧
      ∃ snapshot before, (run (sampleSituation "https://a.b") sampleServices).2.notices =
        before ++ [.finalMetrics snapshot] ∧ snapshot.batchesSent = 1) ∧
    (run brokenSituation sampleServices).1 =
        .broken (.encoding ⟨.utf8, 0, [0xFF], .startByte⟩) ∧
      (run brokenSituation sampleServices).2.transport.sent.length = 1 ∧
      ∃ snapshot before, (run brokenSituation sampleServices).2.notices =
        before ++ [.finalMetrics snapshot] ∧ snapshot.batchesSent = 1 := by
  have hclock : sampleServices.clock.IsReal := ⟨⟨_, rfl⟩, nofun⟩
  -- There were no requests before a run, so that those that it made are all that were sent.
  have hreports (situation : Situation)
      (hstarts : Starts situation {} (sampleConfig "https://a.b") "https://a.b/addEvents")
      (hcount : recordCount (sampleConfig "https://a.b") situation < 2 ^ 63)
      (hbodies : ∀ request ∈ (run situation sampleServices).2.transport.sent,
        request.body.length < 2 ^ 63)
      (haccepted : (sampleServices.transport.acceptedOf
        (run situation sampleServices).2.transport.sent).length = 1)
      (hended : (run situation sampleServices).1 ≠ .exit 0 ∨
        (run situation sampleServices).2.transport.sent.length ≠ 1) :
      ∃ snapshot before, (run situation sampleServices).2.notices =
        before ++ [.finalMetrics snapshot] ∧ snapshot.batchesSent = 1 := by
    obtain ⟨made, snapshot, hcloses⟩ := run_closes hstarts hclock hcount hbodies
    have hmade : (run situation sampleServices).2.transport.sent = made := by
      rw [hcloses.last, hcloses.sent]
      rfl
    have hbatches := hcloses.batchesSent
    rw [hmade] at haccepted hended
    rw [haccepted] at hbatches
    rcases hcloses.ending with ⟨hexit, hall, -⟩ | ⟨-, hnotices⟩
    · rw [hbatches] at hall
      exact hended.elim (absurd hexit) fun hlength => absurd hall.symm hlength
    · exact ⟨snapshot, _, hnotices, hbatches⟩
  have hcount :
      recordCount (sampleConfig "https://a.b") (sampleSituation "https://a.b") = 3 := by
    decide +kernel
  have htwo : (run (sampleSituation "https://a.b") sampleServices).2.transport.sent.length = 2 := by
    decide +kernel
  have hbroken := eq_broken_of_encodingFault? (show encodingFault?
    (run brokenSituation sampleServices).1 = some ⟨.utf8, 0, [0xFF], .startByte⟩ by decide +kernel)
  have hone : recordCount (sampleConfig "https://a.b") brokenSituation = 1 := by decide +kernel
  refine ⟨⟨htwo, ?_⟩, hbroken, by decide +kernel, ?_⟩
  · apply hreports _ ⟨rfl, rfl, eq_ok_of_toOption (by decide +kernel)⟩ (by rw [hcount]; decide)
      (by decide +kernel) (by decide +kernel)
    right
    rw [htwo]
    decide
  · apply hreports _ ⟨rfl, rfl, eq_ok_of_toOption (by decide +kernel)⟩ (by rw [hone]; decide)
      (by decide +kernel) (by decide +kernel)
    left
    rw [hbroken]
    nofun

end Run

end LogShipper
