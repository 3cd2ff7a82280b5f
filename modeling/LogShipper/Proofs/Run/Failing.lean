import LogShipper.Proofs.Client.Reporting
import LogShipper.Proofs.Run.Resending
import LogShipper.Proofs.Shipper.Lifecycle

/-!
# What becomes of failed batches

A shipper counts a batch that failed under the name of the failure, and a run that put it ends with
code 1.  A fault that escapes the report of the client is not counted, and it breaks off the run.
-/

namespace LogShipper

/-- What is expected of what surrounds a run: the clock counts in floating point numbers, and no
body is nested too deeply.  The way to the server may break off. -/
structure Services.AreLegible (services : Services) : Prop where
  clock : services.clock.IsReal
  answers : ∀ answer ∈ services.transport.answers, answer.outcome.IsLegible

theorem Outcome.IsOrdinary.isLegible {outcome : Outcome} (h : outcome.IsOrdinary) :
    outcome.IsLegible := by
  cases outcome with
  | reply httpStatus body => exact h
  | failed message => trivial
  | broken cause message => exact h.elim

theorem Services.AreLegible.nextOutcome {services : Services} (h : services.AreLegible) :
    services.transport.nextOutcome.IsLegible := by
  unfold Transport.nextOutcome
  cases hanswers : services.transport.answers with
  | nil => exact Answer.isOrdinary_accepted.isLegible
  | cons answer rest =>
    apply h.answers
    rw [hanswers]
    exact List.mem_cons_self

/-! ## 1. Batches that are put -/

namespace Shipper

variable {shipper : Shipper} {client : Client} {records : List Record} {services : Services}

/-- What becomes of a batch.  It is accepted; or it fails under a name and is counted under it; or
it is not counted, because the name of a field is no text or because a fault escapes. -/
inductive Fate (shipper : Shipper) (client : Client) (records : List Record) (services : Services)
    (step : ShipperStep) : Prop
  | accepted {events : List Event} {response : Response}
      (hevents : (Record.toEvents shipper.config.fields services.timeOfDay records).1 = .ok events)
      (hreports : client.Reports events services.transport.nextOutcome (.ok response))
      (hresult : step.result = .ok ())
  | counted {fault : ShipperFault} {kind : Text} (hresult : step.result = .error fault)
      (hname : fault.failureName? = some kind)
      (hmetrics : step.shipper.metrics = shipper.metrics.recordFailure kind)
  | unnamed {name : Json} (hresult : step.result = .error (.mapping (.notName name)))
      (hmetrics : step.shipper.metrics = shipper.metrics)
  | escaped {events : List Event} {fault : ClientFault}
      (hevents : (Record.toEvents shipper.config.fields services.timeOfDay records).1 = .ok events)
      (hescapes : client.Escapes events services.transport.nextOutcome fault)
      (hresult : step.result = .error (.client fault))
      (hmetrics : step.shipper.metrics = shipper.metrics)

/-- A batch that is put while the shipper runs has one of these fates. -/
theorem fate_put {t : Text} (hurl : Endpoint.ofText t = .ok client.url)
    (hopen : client.isClosed = false) (hrunning : shipper.isRunning = true)
    (hclient : shipper.client = some client) (hbatch : records ≠ [])
    (hservices : services.AreLegible) :
    shipper.Fate client records services (shipper.put records services) := by
  have hput := put_cases shipper records hservices.clock
  generalize shipper.put records services = step at hput
  cases hput with
  | refused hidle =>
    rw [hrunning] at hidle
    cases hidle
  | passed _ hempty => exact absurd hempty hbatch
  | @unmappable _ _ fault hevents notice =>
    cases hname : fault.countedAs? with
    | some kind =>
      apply Fate.counted (fail_result ..)
      · rw [ShipperFault.failureName?_mapping]
        exact hname
      · exact fail_metrics ..
    | none =>
      cases fault with
      | notName name => exact .unnamed (fail_result ..) (fail_metrics ..)
      | notObject record => cases hname
      | oversized cause => cases hname
  | @failed _ _ used events logged fault hused hevents hlogged hresult notice =>
    obtain rfl := Option.some.inj (hused.symm.trans hclient)
    subst hlogged
    rcases Client.log_reports hurl hopen events hservices.nextOutcome with
      hreports | ⟨cause, hcause, hescapes⟩
    · rw [hresult] at hreports
      obtain ⟨kind, hkind⟩ := hreports.exists_name
      rw [hkind]
      apply Fate.counted (fail_result ..)
      · rw [ShipperFault.failureName?_client]
        exact hkind
      · exact fail_metrics ..
    · obtain rfl := Except.error.inj (hcause.symm.trans hresult)
      rw [hescapes.countedAs?_eq_none]
      exact .escaped hevents hescapes (fail_result ..) (fail_metrics ..)
  | @sent _ _ used events logged response hused hevents hlogged hresult millis notice =>
    obtain rfl := Option.some.inj (hused.symm.trans hclient)
    subst hlogged
    rcases Client.log_reports hurl hopen events hservices.nextOutcome with
      hreports | ⟨cause, hcause, -⟩
    · rw [hresult] at hreports
      exact .accepted hevents hreports rfl
    · rw [hresult] at hcause
      cases hcause

/-- Events that were made fail at the client only. -/
theorem exists_cause {events : List Event} {fault : ShipperFault}
    (hclock : services.clock.IsReal) (hrunning : shipper.isRunning = true) (hbatch : records ≠ [])
    (hevents : (Record.toEvents shipper.config.fields services.timeOfDay records).1 = .ok events)
    (hresult : (shipper.put records services).result = .error fault) :
    ∃ cause, fault = .client cause := by
  have hput := put_cases shipper records hclock
  generalize shipper.put records services = step at hput hresult
  cases hput with
  | refused hidle =>
    rw [hrunning] at hidle
    cases hidle
  | passed _ hempty => exact absurd hempty hbatch
  | unmappable _ _ hunmapped notice =>
    rw [hevents] at hunmapped
    cases hunmapped
  | failed _ _ hused hmade hlogged hcause notice =>
    rw [fail_result] at hresult
    exact ⟨_, (Except.error.inj hresult).symm⟩
  | sent => cases hresult

end Shipper

/-! ## 2. What is kept while shipping -/

namespace Run

variable {config : Config} {client : Client} {first : Services} {state : State}
  {attempt : Attempt State Record} {attempts : List (Attempt State Record)}

/-- Metrics of as many puts as there are attempts, with the events and the bytes that these sent. -/
abbrev HasWithin (state : State) (attempts : List (Attempt State Record)) : Prop :=
  state.1.metrics.IsWithin attempts.length (Attempt.items attempts).length
    ((requests attempts).map fun request => request.body.length).sum

theorem length_requests_append (h : (requests attempts).length ≤ attempts.length) :
    (requests (attempts ++ [attempt])).length ≤ (attempts ++ [attempt]).length := by
  rw [requests_append, List.length_append, List.length_append, List.length_singleton]
  have hlast : (requestsOf attempt).length ≤ 1 := by
    rcases (sent_put attempt).2 with ⟨hnone, -⟩ | ⟨_, _, _, -, -, hone⟩
    · rw [hnone]
      exact Nat.zero_le _
    · rw [hone]
      exact Nat.le_refl _
  omega

theorem hasWithin_put (hclock : attempt.before.2.clock.IsReal)
    (h : HasWithin attempt.before attempts) :
    HasWithin (depot.put attempt.batch attempt.before).2 (attempts ++ [attempt]) := by
  have hput := Shipper.isWithin_put hclock h attempt.batch
  unfold HasWithin
  rw [requests_append, Attempt.items_append, List.length_append, List.length_append,
    List.length_singleton, List.map_append, List.sum_append]
  exact hput

theorem isShowable_of_hasWithin (h : HasWithin state attempts)
    (hlength : (requests attempts).length ≤ attempts.length) (hattempts : attempts.length < 2 ^ 63)
    (hitems : (Attempt.items attempts).length < 2 ^ 63)
    (hbodies : ∀ request ∈ requests attempts, request.body.length < 2 ^ 63) :
    state.1.metrics.IsShowable := by
  apply h.isShowable hattempts (by omega)
  apply Metrics.sum_lt
  · rw [List.length_map]
    exact hlength.trans_lt hattempts
  · exact List.forall_mem_map.2 hbodies

/-- How a state came about by some attempts, whatever becomes of them. -/
structure Held (config : Config) (client : Client) (first : Services) (state : State)
    (attempts : List (Attempt State Record)) : Prop where
  ready : IsReady config client state
  answers : ∀ answer ∈ state.2.transport.answers, answer.outcome.IsLegible
  sent : state.2.transport.sent = first.transport.sent ++ requests attempts
  length : (requests attempts).length ≤ attempts.length
  metrics : state.1.metrics.IsWithin attempts.length (Attempt.items attempts).length
    ((requests attempts).map fun request => request.body.length).sum
  begun : ∀ attempt ∈ attempts,
    IsReady config client attempt.before ∧ attempt.before.2.AreLegible

theorem Held.areLegible (h : Held config client first state attempts) : state.2.AreLegible :=
  ⟨h.ready.clock, h.answers⟩

theorem Held.put (attempt : Attempt State Record)
    (h : Held config client first attempt.before attempts) :
    Held config client first (depot.put attempt.batch attempt.before).2 (attempts ++ [attempt])
    where
  ready := h.ready.put attempt.batch
  answers := by
    rw [put_eq]
    dsimp only
    intro answer hanswer
    rcases Shipper.put_sends attempt.before.1 attempt.batch attempt.before.2 with
      ⟨hsilent, -⟩ | ⟨_, _, _, -, -, -, -, hsent⟩
    · rw [hsilent] at hanswer
      exact h.answers answer hanswer
    · rw [hsent] at hanswer
      exact h.answers answer (List.mem_of_mem_tail hanswer)
  sent := by rw [(sent_put attempt).1, h.sent, requests_append, List.append_assoc]
  length := length_requests_append h.length
  metrics := hasWithin_put h.ready.clock h.metrics
  begun := by
    rw [List.forall_mem_append, List.forall_mem_singleton]
    exact ⟨h.begun, h.ready, h.areLegible⟩

theorem Held.report (h : Held config client first state attempts) (notice : Notice) :
    Held config client first (state.1, state.2.report notice) attempts where
  ready := ⟨h.ready.config, h.ready.isStopped, h.ready.client, h.ready.clock⟩
  answers := h.answers
  sent := h.sent
  length := h.length
  metrics := h.metrics
  begun := h.begun

variable {url : Text} {source : Source} {situation : Situation}

theorem held_opened (hurl : Endpoint.ofJson config.url = .ok url) (hfirst : first.AreLegible) :
    Held config (clientOf config url first) first (opened config first) [] := by
  have hclock := hfirst.clock.read
  rw [opened_eq hurl]
  exact {
    ready := {
      config := rfl
      isStopped := rfl
      client := ⟨0, rfl⟩
      clock := hclock.2 }
    answers := hfirst.answers
    sent := (List.append_nil _).symm
    length := Nat.le_refl _
    metrics := .of_new hclock.1
    begun := List.forall_mem_nil _ }

theorem held_record (hsize : 0 < config.batchSize) (hurl : Endpoint.ofJson config.url = .ok url)
    (hfirst : first.AreLegible) :
    let record := depot.record config.batchSize (supply source) (opened config first)
    depot.IsRecord config.batchSize (supply source) record.1 record.2.1 record.2.2 ∧
      Held config (clientOf config url first) first record.2.1 record.2.2 := by
  apply Depot.isRecord_record hsize (held_opened hurl hfirst)
  · intro change hchange state attempts hheld
    obtain ⟨notice, -, rfl⟩ := eq_report_of_mem_supply hchange
    exact hheld.report notice
  · intro batch before attempts hheld haccepted hgoing hbatch hitems
    exact Held.put ⟨batch, before⟩ hheld

/-! ## 3. Runs -/

/-- A run that gets as far as shipping, with texts as the names of the fields. -/
structure Launches (situation : Situation) (config : Config) (url : Text) (source : Source) :
    Prop where
  loads : ∃ arguments, Arguments.read situation.words = .ok arguments ∧
    (Config.load arguments situation.environment situation.openFile).result = .ok config
  names : config.fields.AreTexts
  starts : Endpoint.ofJson config.url = .ok url
  opens : Run.source config situation = .ok source

/-- The records of an attempt are sound, as they were read from lines. -/
theorem exists_toEvents {result : Except RunFault Nat} {final : State} (time : TimeOfDay)
    (hnames : config.fields.AreTexts)
    (h : depot.IsRecord config.batchSize (supply source) result final attempts)
    (hattempt : attempt ∈ attempts) :
    ∃ events, (Record.toEvents config.fields time attempt.batch).1 = .ok events := by
  apply Record.exists_toEvents hnames
  intro record hrecord
  apply RecordReading.isSound_of_mem
  show record ∈ source.reading.records
  rw [← items_supply]
  apply h.items_prefix.subset
  exact List.mem_flatMap.2 ⟨attempt, hattempt, hrecord⟩

theorem finish_of_failed (hstarts : Endpoint.ofJson config.url = .ok url)
    (hopens : Run.source config situation = .ok source) (hsize : 0 < config.batchSize)
    (hfirst : first.AreLegible) (hrecords : source.reading.records.length < 2 ^ 63)
    (hbodies : ∀ request ∈ (finish config situation (opened config first)).2.transport.sent,
      request.body.length < 2 ^ 63) {fault : ShipperFault}
    (hattempt : attempt ∈
      (depot.record config.batchSize (supply source) (opened config first)).2.2)
    (hfailed : (attempt.before.1.put attempt.batch attempt.before.2).result = .error fault) :
    (finish config situation (opened config first)).1 =
      if isBatchFailure (.shipper fault) then .exit 1 else .broken (.shipper fault) := by
  obtain ⟨hrecord, hheld⟩ := held_record hsize hstarts hfirst
  have hput : depot.put attempt.batch attempt.before =
      (.error (.shipper fault), (depot.put attempt.batch attempt.before).2) := by
    rw [put_eq, hfailed]
    rfl
  obtain ⟨-, hresult, -⟩ := hrecord.of_failed hattempt hput
  have htransport := transport_finish hopens (opened config first)
  rw [finish_eq hopens] at htransport hbodies ⊢
  generalize depot.record config.batchSize (supply source) (opened config first) = record
    at hrecord hheld hresult htransport hbodies hattempt ⊢
  obtain ⟨result, final, attempts⟩ := record
  -- The metrics of so few records can be shown, so that the shipper is stopped without a fault.
  have hblocks := hrecord.items_prefix.length_le
  rw [items_supply] at hblocks
  have hcount := Attempt.length_le_length_items fun attempt ha => (hrecord.sized attempt ha).1
  have hstopped : (final.1.stop final.2).result = .ok () := by
    apply Shipper.stop_of_isShowable _ hheld.ready.clock
    apply isShowable_of_hasWithin hheld.metrics hheld.length (by omega) (by omega)
    intro request hrequest
    apply hbodies
    rw [htransport]
    show request ∈ final.2.transport.sent
    rw [hheld.sent]
    exact List.mem_append_right _ hrequest
  dsimp only at hresult ⊢
  rw [hstopped, hresult]
  rfl

/-- Where a URL is accepted, every failure of a batch is reported, but for the faults that escape.
`Client.log` accepts the batch or reports why it fails, unless one of three faults escapes, and each
of these does so when it can.  A shipper that puts the batch counts what is reported under its name,
and nothing that escapes.  A run ends with code 1 at the first batch whose failure is reported, and
breaks off at the first fault that escapes. -/
theorem failures_are_reported {t url : Text} (hurl : Endpoint.ofText t = .ok url) :
    (∀ (client : Client) (events : List Event) (transport : Transport),
      client.url = url → client.isClosed = false → transport.nextOutcome.IsLegible →
      (client.Reports events transport.nextOutcome (client.log events transport).result ∨
        ∃ fault, (client.log events transport).result = .error fault ∧
          client.Escapes events transport.nextOutcome fault) ∧
      ∀ fault, client.Escapes events transport.nextOutcome fault →
        (client.log events transport).result = .error fault) ∧
    (∀ (client : Client) (shipper : Shipper) (records : List Record) (services : Services),
      client.url = url → client.isClosed = false → shipper.isRunning = true →
      shipper.client = some client → records ≠ [] → services.AreLegible →
      shipper.Fate client records services (shipper.put records services)) ∧
    ∀ situation config source services, Launches situation config url source →
      services.AreLegible → source.reading.records.length < 2 ^ 63 →
      (∀ request ∈ (run situation services).2.transport.sent, request.body.length < 2 ^ 63) →
      ∀ attempt ∈ attemptsOf situation services,
        let step := attempt.before.1.put attempt.batch attempt.before.2
        (∃ client, attempt.before.1.client = some client ∧ client.url = url ∧
          attempt.before.1.Fate client attempt.batch attempt.before.2 step) ∧
        ∀ fault, step.result = .error fault → ∃ cause, fault = .client cause ∧
          (run situation services).1 =
            if cause.countedAs?.isSome then .exit 1 else .broken (.shipper (.client cause)) := by
  refine ⟨?_, ?_, ?_⟩
  · rintro client events transport rfl hopen hlegible
    exact ⟨Client.log_reports hurl hopen events hlegible,
      fun fault => Client.log_of_escapes hopen⟩
  · rintro client shipper records services rfl hopen hrunning hclient hbatch hservices
    exact Shipper.fate_put hurl hopen hrunning hclient hbatch hservices
  · intro situation config source services h hservices hrecords hbodies attempt hattempt
    obtain ⟨arguments, -, hload⟩ := h.loads
    have hsize := (Config.usable_of_load hload).2
    obtain ⟨notices, hrun, hattempts⟩ := run_eq_finish h.loads h.starts h.opens services
    have hfirst : ({ services with notices := services.notices ++ notices } :
        Services).AreLegible := ⟨hservices.clock, hservices.answers⟩
    rw [hattempts] at hattempt
    rw [hrun] at hbodies ⊢
    obtain ⟨hrecord, hheld⟩ := held_record hsize h.starts hfirst
    obtain ⟨hready, hlegible⟩ := hheld.begun attempt hattempt
    obtain ⟨bytes, hclient⟩ := hready.client
    have hrunning : attempt.before.1.isRunning = true :=
      Shipper.isRunning_iff.2 ⟨hready.isStopped, _, hclient⟩
    -- The shipper runs at every attempt, and no batch is empty.
    have hbatch := (hrecord.sized attempt hattempt).1
    refine ⟨⟨_, hclient, rfl, Shipper.fate_put hurl rfl hrunning hclient hbatch hlegible⟩, ?_⟩
    intro fault hfailed
    -- Records that were read are events, so what fails is the client.
    obtain ⟨events, hevents⟩ :=
      exists_toEvents attempt.before.2.timeOfDay h.names hrecord hattempt
    rw [← hready.config] at hevents
    obtain ⟨cause, rfl⟩ :=
      Shipper.exists_cause hready.clock hrunning hbatch hevents hfailed
    refine ⟨cause, rfl, ?_⟩
    exact finish_of_failed h.starts h.opens hsize hfirst hrecords hbodies hattempt hfailed

/-- A way to the server that breaks off at the first request. -/
def brokenServices : Services where
  timeOfDay := { now := 100 }
  transport := { answers := [{ outcome := .broken .system "disk full" }] }

/-- Whether a batch fails without a name. -/
def failsUnnamed (attempt : Attempt State Record) : Bool :=
  match (attempt.before.1.put attempt.batch attempt.before.2).result with
  | .error fault => fault.failureName?.isNone
  | .ok () => false

/-- What breaks off is no failure of the batch: the client hands it on, the shipper does not count
it, and the run ends with it. -/
theorem sample_failures :
    (Client.plainSample.log [default] brokenServices.transport).result =
      .error (.broken .system "disk full") ∧
    (let state := opened (sampleConfig "https://a.b") brokenServices
      ∃ client, state.1.Fate client [default] state.2 (state.1.put [default] state.2)) ∧
    ∃ cause, (run (sampleSituation "https://a.b") brokenServices).1 =
      .broken (.shipper (.client cause)) := by
  have hurl : Endpoint.ofText "https://example.com" = .ok Client.plainSample.url :=
    eq_ok_of_toOption (by decide +kernel)
  have hstarts : Endpoint.ofText "https://a.b" = .ok "https://a.b/addEvents" :=
    eq_ok_of_toOption (by decide +kernel)
  have hservices : brokenServices.AreLegible := {
    clock := ⟨⟨_, rfl⟩, nofun⟩
    answers := List.forall_mem_singleton.2 trivial }
  obtain ⟨hlogs, -, -⟩ := failures_are_reported hurl
  obtain ⟨-, hputs, hruns⟩ := failures_are_reported hstarts
  refine ⟨?_, ?_, ?_⟩
  · have hparse : Url.parse Client.plainSample.url =
        .ok ⟨"https", [], "example.com", none, "/addEvents", none, none⟩ := by decide +kernel
    apply (hlogs _ [default] brokenServices.transport rfl rfl trivial).2
    exact .broken hparse rfl (by decide +kernel) rfl
  · have hheld := @held_opened (sampleConfig "https://a.b") _ _ hstarts hservices
    obtain ⟨bytes, hclient⟩ := hheld.ready.client
    refine ⟨_, hputs _ _ [default] _ rfl rfl ?_ hclient (List.cons_ne_nil _ _) hheld.areLegible⟩
    exact Shipper.isRunning_iff.2 ⟨rfl, _, hclient⟩
  · have hships : Ships (sampleSituation "https://a.b") (sampleConfig "https://a.b")
        "https://a.b/addEvents" ⟨"https", [], "a.b", none, "/addEvents", none, none⟩
        sampleSource := ships_sample hstarts (by decide +kernel)
    have hrecords : sampleSource.reading.records.length = 3 := by decide +kernel
    have hfails : (attemptsOf (sampleSituation "https://a.b") brokenServices).any
        failsUnnamed = true := by decide +kernel
    obtain ⟨attempt, hattempt, hunnamed⟩ := List.any_eq_true.1 hfails
    obtain ⟨-, hended⟩ := hruns _ _ _ _
      ⟨hships.loads, hships.names, hships.starts, hships.opens⟩ hservices
      (by rw [hrecords]; decide) (by decide +kernel) attempt hattempt
    unfold failsUnnamed at hunnamed
    split at hunnamed
    · rename_i fault hfault
      obtain ⟨cause, rfl, hending⟩ := hended fault hfault
      rw [ShipperFault.failureName?_client, Option.isNone_iff_eq_none] at hunnamed
      rw [hunnamed] at hending
      exact ⟨cause, hending⟩
    · cases hunnamed

end Run

end LogShipper
