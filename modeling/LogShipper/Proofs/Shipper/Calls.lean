import LogShipper.Proofs.Client.Logging
import LogShipper.Shipper

/-!
# What the calls on a shipper do

Each call is described once: what it answers, what it changes, and what it sends.  The clock gives
floating point readings, so that times can always be computed and shown.
-/

namespace LogShipper

/-! ## 1. Clocks and services -/

namespace Clock

/-- A clock all readings of which are floating point numbers. -/
structure IsReal (clock : Clock) : Prop where
  now : ∃ x, clock.now = .float x
  later : ∀ reading ∈ clock.later, ∃ x, reading = .float x

theorem IsReal.read {clock : Clock} (h : clock.IsReal) :
    (∃ x, clock.read.1 = .float x) ∧ clock.read.2.IsReal := by
  obtain ⟨now, later⟩ := clock
  cases later with
  | nil => exact ⟨h.now, h⟩
  | cons next later =>
    exact ⟨h.now, h.later next List.mem_cons_self,
      fun reading hr => h.later reading (List.mem_cons_of_mem _ hr)⟩

theorem millisBetween_float (x y : Binary64) :
    ∃ millis, millisBetween (.float x) (.float y) = .ok (.float millis) := by
  have hthousand : Number.ofIntRounded 1000 = .ok (.ofInt 1000) := by decide +kernel
  refine ⟨.mul (.sub y x) (.ofInt 1000), ?_⟩
  show (do return Number.float (.mul (.sub y x) (← Number.ofIntRounded 1000))) = _
  rw [hthousand]
  rfl

end Clock

namespace Services

variable (services : Services) (signal : Option Signal)

@[simp] theorem transport_receive : (services.receive signal).transport = services.transport := by
  cases signal <;> rfl

@[simp] theorem clock_receive : (services.receive signal).clock = services.clock := by
  cases signal <;> rfl

@[simp] theorem timeOfDay_receive : (services.receive signal).timeOfDay = services.timeOfDay := by
  cases signal <;> rfl

@[simp] theorem stopRequested_receive :
    (services.receive signal).stopRequested = (services.stopRequested || signal.isSome) := by
  cases signal <;> simp [receive]

@[simp] theorem clock_report (notice : Notice) :
    (services.report notice).clock = services.clock := rfl

@[simp] theorem stopRequested_report (notice : Notice) :
    (services.report notice).stopRequested = services.stopRequested := rfl

@[simp] theorem transport_report? (notice? : Option Notice) :
    (services.report? notice?).transport = services.transport := by
  cases notice? <;> rfl

@[simp] theorem notices_report? (notice? : Option Notice) :
    (services.report? notice?).notices = services.notices ++ notice?.toList := by
  cases notice? with
  | none => exact (List.append_nil _).symm
  | some notice => rfl

@[simp] theorem clock_report? (notice? : Option Notice) :
    (services.report? notice?).clock = services.clock := by
  cases notice? <;> rfl

@[simp] theorem timeOfDay_report? (notice? : Option Notice) :
    (services.report? notice?).timeOfDay = services.timeOfDay := by
  cases notice? <;> rfl

@[simp] theorem sessions_report? (notice? : Option Notice) :
    (services.report? notice?).sessions = services.sessions := by
  cases notice? <;> rfl

@[simp] theorem stopRequested_report? (notice? : Option Notice) :
    (services.report? notice?).stopRequested = services.stopRequested := by
  cases notice? <;> rfl

theorem foldl_report (notices : List Notice) :
    notices.foldl report services = { services with notices := services.notices ++ notices } := by
  induction notices generalizing services with
  | nil => simp
  | cons notice notices ih => simp [ih, report]

/-- The services behind the making of the events of records, for which the time of day is read. -/
def afterMapping (fields : FieldNames) (records : List Record) : Services :=
  { services with timeOfDay := (Record.toEvents fields services.timeOfDay records).2 }

@[simp] theorem clock_afterMapping (fields : FieldNames) (records : List Record) :
    (services.afterMapping fields records).clock = services.clock := rfl

@[simp] theorem transport_afterMapping (fields : FieldNames) (records : List Record) :
    (services.afterMapping fields records).transport = services.transport := rfl

@[simp] theorem stopRequested_afterMapping (fields : FieldNames) (records : List Record) :
    (services.afterMapping fields records).stopRequested = services.stopRequested := rfl

end Services

namespace Shipper

variable {shipper : Shipper} {services : Services} {client : Client} {events : List Event}
  {records : List Record}

/-! ## 2. Failing and succeeding -/

section Fail

variable (shipper services) (countedAs? : Option Text) (notice : Notice) (fault : ShipperFault)

@[simp] theorem fail_result :
    (shipper.fail services countedAs? notice fault).result = .error fault := by
  cases countedAs? <;> rfl

@[simp] theorem fail_metrics :
    (shipper.fail services countedAs? notice fault).shipper.metrics =
      countedAs?.elim shipper.metrics shipper.metrics.recordFailure := by
  cases countedAs? <;> rfl

@[simp] theorem fail_client :
    (shipper.fail services countedAs? notice fault).shipper.client = shipper.client := by
  cases countedAs? <;> rfl

@[simp] theorem fail_transport :
    (shipper.fail services countedAs? notice fault).services.transport = services.transport := by
  cases countedAs? <;> rfl

@[simp] theorem fail_clock :
    (shipper.fail services countedAs? notice fault).services.clock = services.clock := by
  cases countedAs? <;> rfl

@[simp] theorem fail_stopRequested :
    (shipper.fail services countedAs? notice fault).services.stopRequested =
      services.stopRequested := by
  cases countedAs? <;> rfl

@[simp] theorem fail_config :
    (shipper.fail services countedAs? notice fault).shipper.config = shipper.config := by
  cases countedAs? <;> rfl

@[simp] theorem fail_isStopped :
    (shipper.fail services countedAs? notice fault).shipper.isStopped = shipper.isStopped := by
  cases countedAs? <;> rfl

@[simp] theorem fail_timeOfDay :
    (shipper.fail services countedAs? notice fault).services.timeOfDay = services.timeOfDay := by
  cases countedAs? <;> rfl

end Fail

theorem succeed_of_isReal (shipper : Shipper) (hclock : services.clock.IsReal) (count bytes : Nat)
    (began : Binary64) :
    ∃ millis notice, shipper.succeed services count bytes (.float began) =
      ⟨.ok (), { shipper with
          metrics := shipper.metrics.recordBatch count bytes (.float millis) },
        { services with clock := services.clock.read.2 }.report notice⟩ := by
  obtain ⟨⟨now, hnow⟩, -⟩ := hclock.read
  obtain ⟨millis, hmillis⟩ := Clock.millisBetween_float began now
  refine ⟨millis, .batchSent count bytes millis, ?_⟩
  simp only [succeed, Services.readClock, hnow, hmillis]
  rfl

/-! ## 3. Putting -/

theorem isRunning_iff :
    shipper.isRunning = true ↔
      shipper.isStopped = false ∧ ∃ client, shipper.client = some client := by
  cases hclient : shipper.client <;> simp [isRunning, hclient]

theorem put_of_not_isRunning (h : shipper.isRunning = false) :
    shipper.put records services = ⟨.error .notRunning, shipper, services⟩ := by
  unfold put
  cases hclient : shipper.client with
  | none => rfl
  | some client =>
    have hstopped : shipper.isStopped = true := by simpa [isRunning, hclient] using h
    exact if_pos hstopped

theorem put_of_isRunning (hrunning : shipper.isRunning = true)
    (hclient : shipper.client = some client) (hbatch : records ≠ []) :
    shipper.put records services =
      match (Record.toEvents shipper.config.fields services.timeOfDay records).1 with
      | .error fault =>
        shipper.fail (services.afterMapping shipper.config.fields records) fault.countedAs?
          (.batchUnmappable records.length fault.message) (.mapping fault)
      | .ok events =>
        shipper.deliver client events
          (services.afterMapping shipper.config.fields records) := by
  have hgoing : ¬ shipper.isStopped = true := Bool.eq_false_iff.1 (isRunning_iff.1 hrunning).1
  have hsome : ¬ records.isEmpty = true := fun hempty => hbatch (List.isEmpty_iff.1 hempty)
  unfold put
  rw [hclient]
  exact (if_neg hgoing).trans (if_neg hsome)

theorem put_of_isEmpty (hrunning : shipper.isRunning = true) :
    shipper.put [] services = ⟨.ok (), shipper, services⟩ := by
  obtain ⟨hstopped, client, hclient⟩ := isRunning_iff.1 hrunning
  have hgoing : ¬ shipper.isStopped = true := Bool.eq_false_iff.1 hstopped
  unfold put
  rw [hclient]
  exact (if_neg hgoing).trans (if_pos rfl)

/-- The branch that a put takes: it is refused, passes over an empty batch, or has records that make
no events, or it delivers the events. -/
inductive Branch (shipper : Shipper) (records : List Record) (services : Services) :
    ShipperStep → Prop
  | refused (hidle : shipper.isRunning = false) :
      Branch shipper records services ⟨.error .notRunning, shipper, services⟩
  | passed (hrunning : shipper.isRunning = true) (hempty : records = []) :
      Branch shipper records services ⟨.ok (), shipper, services⟩
  | unmappable (hrunning : shipper.isRunning = true) (hbatch : records ≠ []) {fault : MappingFault}
      (hevents : (Record.toEvents shipper.config.fields services.timeOfDay records).1 =
        .error fault) :
      Branch shipper records services
        (shipper.fail (services.afterMapping shipper.config.fields records) fault.countedAs?
          (.batchUnmappable records.length fault.message) (.mapping fault))
  | delivered (hrunning : shipper.isRunning = true) (hbatch : records ≠ []) {client : Client}
      {events : List Event} (hclient : shipper.client = some client)
      (hevents : (Record.toEvents shipper.config.fields services.timeOfDay records).1 =
        .ok events) :
      Branch shipper records services
        (shipper.deliver client events (services.afterMapping shipper.config.fields records))

theorem branch_put (shipper : Shipper) (records : List Record) (services : Services) :
    Branch shipper records services (shipper.put records services) := by
  cases hrunning : shipper.isRunning with
  | false =>
    rw [put_of_not_isRunning hrunning]
    exact .refused hrunning
  | true =>
    obtain ⟨-, client, hclient⟩ := isRunning_iff.1 hrunning
    by_cases hbatch : records = []
    · rw [hbatch, put_of_isEmpty hrunning]
      exact .passed hrunning rfl
    · rw [put_of_isRunning hrunning hclient hbatch]
      cases hevents : (Record.toEvents shipper.config.fields services.timeOfDay records).1 with
      | error fault => exact .unmappable hrunning hbatch hevents
      | ok events => exact .delivered hrunning hbatch hclient hevents

/-- The services behind a call of `Client.log`, before which the clock was read. -/
def servicesAfter (services : Services) (logged : Client.Logged) : Services :=
  { services with clock := services.clock.read.2, transport := logged.transport }.receive
    logged.signal

theorem clock_servicesAfter (logged : Client.Logged) :
    (servicesAfter services logged).clock = services.clock.read.2 := by
  simp [servicesAfter]

theorem transport_servicesAfter (logged : Client.Logged) :
    (servicesAfter services logged).transport = logged.transport := by
  simp [servicesAfter]

theorem stopRequested_servicesAfter (logged : Client.Logged) :
    (servicesAfter services logged).stopRequested =
      (services.stopRequested || logged.signal.isSome) := by
  simp [servicesAfter]

theorem timeOfDay_servicesAfter (logged : Client.Logged) :
    (servicesAfter services logged).timeOfDay = services.timeOfDay := by
  simp [servicesAfter]

/-- What a call of `put` may do: it is refused, passes over an empty batch, or fails with a batch or
sends it. -/
inductive Put (shipper : Shipper) (records : List Record) (services : Services) :
    ShipperStep → Prop
  | refused (hidle : shipper.isRunning = false) :
      Put shipper records services ⟨.error .notRunning, shipper, services⟩
  | passed (hrunning : shipper.isRunning = true) (hempty : records = []) :
      Put shipper records services ⟨.ok (), shipper, services⟩
  | unmappable (hrunning : shipper.isRunning = true) (hbatch : records ≠ []) {fault : MappingFault}
      (hevents : (Record.toEvents shipper.config.fields services.timeOfDay records).1 =
        .error fault)
      (notice : Notice) :
      Put shipper records services
        (shipper.fail (services.afterMapping shipper.config.fields records) fault.countedAs?
          notice (.mapping fault))
  | failed (hrunning : shipper.isRunning = true) (hbatch : records ≠ []) {client : Client}
      {events : List Event} {logged : Client.Logged} {fault : ClientFault}
      (hclient : shipper.client = some client)
      (hevents : (Record.toEvents shipper.config.fields services.timeOfDay records).1 =
        .ok events)
      (hlogged : client.log events services.transport = logged)
      (hresult : logged.result = .error fault) (notice : Notice) :
      Put shipper records services
        ({ shipper with client := some logged.client }.fail
          (servicesAfter (services.afterMapping shipper.config.fields records) logged)
          fault.countedAs? notice (.client fault))
  | sent (hrunning : shipper.isRunning = true) (hbatch : records ≠ []) {client : Client}
      {events : List Event} {logged : Client.Logged} {response : Response}
      (hclient : shipper.client = some client)
      (hevents : (Record.toEvents shipper.config.fields services.timeOfDay records).1 =
        .ok events)
      (hlogged : client.log events services.transport = logged)
      (hresult : logged.result = .ok response) (millis : Binary64) (notice : Notice) :
      Put shipper records services
        ⟨.ok (), { shipper with
            client := some logged.client
            metrics := shipper.metrics.recordBatch events.length logged.client.lastPayloadBytes
              (.float millis) },
          { servicesAfter (services.afterMapping shipper.config.fields records) logged with
            clock := services.clock.read.2.read.2 }.report notice⟩

theorem put_cases (shipper : Shipper) (records : List Record) (hclock : services.clock.IsReal) :
    Put shipper records services (shipper.put records services) := by
  have hbranch := branch_put shipper records services
  generalize shipper.put records services = step at hbranch
  cases hbranch with
  | refused hidle => exact .refused hidle
  | passed hrunning hempty => exact .passed hrunning hempty
  | unmappable hrunning hbatch hevents => exact .unmappable hrunning hbatch hevents _
  | @delivered hrunning hbatch client events hclient hevents =>
    have hmapped : (services.afterMapping shipper.config.fields records).clock.IsReal := hclock
    obtain ⟨⟨began, hbegan⟩, hread⟩ := hmapped.read
    -- The clock was read before the request; what the call answers decides.
    generalize hlogged : client.log events
      (services.afterMapping shipper.config.fields records).transport = logged
    cases hresult : logged.result with
    | error fault =>
      have hdeliver := Put.failed hrunning hbatch hclient hevents hlogged hresult
        (.batchFailed events.length fault.message)
      simpa only [deliver, servicesAfter, Services.readClock, hlogged, hresult] using hdeliver
    | ok response =>
      have hafter : (servicesAfter (services.afterMapping shipper.config.fields records)
          logged).clock.IsReal := by
        rw [clock_servicesAfter]
        exact hread
      -- The time that it took can be computed, so the batch is counted and reported.
      obtain ⟨millis, notice, hsucceed⟩ := succeed_of_isReal
        { shipper with client := some logged.client } hafter events.length
        logged.client.lastPayloadBytes began
      have hdeliver := Put.sent hrunning hbatch hclient hevents hlogged hresult millis notice
      rw [clock_servicesAfter, Services.clock_afterMapping] at hsucceed
      rw [← hsucceed] at hdeliver
      simpa only [deliver, servicesAfter, Services.readClock, hlogged, hresult, hbegan]
        using hdeliver

theorem isReal_put (shipper : Shipper) (records : List Record) (hclock : services.clock.IsReal) :
    (shipper.put records services).services.clock.IsReal := by
  have hput := put_cases shipper records hclock
  generalize shipper.put records services = step at hput
  cases hput with
  | refused hidle => exact hclock
  | passed hrunning hempty => exact hclock
  | unmappable hrunning hbatch hevents notice =>
    rw [fail_clock]
    exact hclock
  | failed hrunning hbatch hclient hevents hlogged hresult notice =>
    rw [fail_clock, clock_servicesAfter]
    exact hclock.read.2
  | sent hrunning hbatch hclient hevents hlogged hresult millis notice =>
    exact hclock.read.2.read.2

/-! ## 4. Starting and stopping -/

/-- What a call of `start` may do: it is refused, finds no endpoint, or makes a client. -/
inductive Start (shipper : Shipper) (services : Services) : ShipperStep → Prop
  | refused (hbefore : shipper.client.isSome = true ∨ shipper.isStopped = true) :
      Start shipper services ⟨.error .startedBefore, shipper, services⟩
  | failed (hclient : shipper.client = none) (hstopped : shipper.isStopped = false)
      {fault : EndpointFault} (hurl : Endpoint.ofJson shipper.config.url = .error fault) :
      Start shipper services ⟨.error (.endpoint fault), shipper, services⟩
  | started (hclient : shipper.client = none) (hstopped : shipper.isStopped = false) {url : Text}
      (hurl : Endpoint.ofJson shipper.config.url = .ok url) :
      Start shipper services
        ⟨.ok (), { shipper with
            client := some ⟨url, shipper.config.apiKey, services.sessions.take.1,
              shipper.config.requestTimeout, false, 0⟩ },
          { services with sessions := services.sessions.take.2 }.report
            (.shipperStarted url services.sessions.take.1)⟩

theorem start_cases (shipper : Shipper) (services : Services) :
    Start shipper services (shipper.start services) := by
  unfold start Client.connect
  split
  next hbefore => exact .refused ((Bool.or_eq_true _ _).mp hbefore)
  next hnew =>
    rw [Bool.or_eq_true, not_or, Bool.not_eq_true, Bool.not_eq_true, Option.isSome_eq_false_iff,
      Option.isNone_iff_eq_none] at hnew
    dsimp only
    cases hurl : Endpoint.ofJson shipper.config.url with
    | error fault => exact .failed hnew.1 hnew.2 hurl
    | ok url => exact .started hnew.1 hnew.2 hurl

theorem start_metrics : (shipper.start services).shipper.metrics = shipper.metrics := by
  have hstart := start_cases shipper services
  generalize shipper.start services = step at hstart
  cases hstart <;> rfl

theorem start_clock : (shipper.start services).services.clock = services.clock := by
  have hstart := start_cases shipper services
  generalize shipper.start services = step at hstart
  cases hstart <;> rfl

theorem start_create {config : Config} {url : Text} (h : Endpoint.ofJson config.url = .ok url) :
    (create config services).1.start (create config services).2 =
      let client : Client :=
        ⟨url, config.apiKey, services.sessions.take.1, config.requestTimeout, false, 0⟩
      ⟨.ok (), ⟨config, { startTime := services.clock.read.1 }, some client, false⟩,
        { services with
          clock := services.clock.read.2
          sessions := services.sessions.take.2 }.report (.shipperStarted url client.session)⟩ := by
  have hconnect : Client.connect config.url config.apiKey services.sessions.take.1
      config.requestTimeout =
        .ok ⟨url, config.apiKey, services.sessions.take.1, config.requestTimeout, false, 0⟩ := by
    rw [Client.connect, h]
    rfl
  unfold start
  rw [if_neg (by simp [create])]
  simp only [create, Services.readClock, hconnect]

/-- The shipper, stopped for good. -/
def stopped (shipper : Shipper) : Shipper :=
  { shipper with isStopped := true, client := shipper.client.map Client.close }

theorem stop_again (h : shipper.isStopped = true) :
    shipper.stop services = ⟨.ok (), shipper, services⟩ :=
  if_pos h

theorem stop_eq (h : shipper.isStopped = false) :
    shipper.stop services =
      match shipper.metrics.snapshot services.clock with
      | (.error fault, clock) =>
        ⟨.error (.arithmetic fault), shipper.stopped, { services with clock }⟩
      | (.ok snapshot, clock) =>
        ⟨.ok (), shipper.stopped,
          { services with clock }.report? (metricsNotice? snapshot)⟩ :=
  if_neg (Bool.eq_false_iff.1 h)

/-- What a call of `stop` may do: nothing, if the shipper was stopped before; else it stops the
shipper, and reports the last metrics if there are any and they can be shown. -/
inductive Stop (shipper : Shipper) (services : Services) : ShipperStep → Prop
  | again (hstopped : shipper.isStopped = true) :
      Stop shipper services ⟨.ok (), shipper, services⟩
  | unmeasured (hstopped : shipper.isStopped = false) {fault : ShipperFault} (clock : Clock) :
      Stop shipper services ⟨.error fault, shipper.stopped, { services with clock }⟩
  | measured (hstopped : shipper.isStopped = false) (notice? : Option Notice) (clock : Clock) :
      Stop shipper services
        ⟨.ok (), shipper.stopped, { services with clock }.report? notice?⟩

theorem stop_cases (shipper : Shipper) (services : Services) :
    Stop shipper services (shipper.stop services) := by
  cases hstopped : shipper.isStopped with
  | true =>
    rw [stop_again hstopped]
    exact .again hstopped
  | false =>
    rw [stop_eq hstopped]
    rcases shipper.metrics.snapshot services.clock with ⟨fault | snapshot, clock⟩
    · exact .unmeasured hstopped clock
    · exact .measured hstopped _ clock

theorem stop_metrics : (shipper.stop services).shipper.metrics = shipper.metrics := by
  have hstop := stop_cases shipper services
  generalize shipper.stop services = step at hstop
  cases hstop <;> rfl

theorem stop_transport :
    (shipper.stop services).services.transport = services.transport := by
  have hstop := stop_cases shipper services
  generalize shipper.stop services = step at hstop
  cases hstop with
  | again hstopped => rfl
  | unmeasured hstopped clock => rfl
  | measured hstopped notice? clock => exact Services.transport_report? _ notice?

end Shipper

theorem Metrics.isReal_snapshot (metrics : Metrics) {clock : Clock} (hclock : clock.IsReal) :
    (metrics.snapshot clock).2.IsReal := by
  unfold snapshot
  split
  · exact hclock
  · exact hclock.read.2

theorem Shipper.isReal_stop {shipper : Shipper} {services : Services}
    (hclock : services.clock.IsReal) : (shipper.stop services).services.clock.IsReal := by
  have hsnapshot := Metrics.isReal_snapshot shipper.metrics hclock
  unfold stop
  split
  · exact hclock
  · dsimp only
    split
    next fault clock heq =>
      rw [heq] at hsnapshot
      exact hsnapshot
    next snapshot clock heq =>
      rw [heq] at hsnapshot
      rw [Services.clock_report?]
      exact hsnapshot

end LogShipper
