import LogShipper.Proofs.Metrics.Snapshot
import LogShipper.Proofs.Record.Mapping
import LogShipper.Proofs.Shipper.Agreement
import LogShipper.Proofs.Shipping.Recording
import LogShipper.Run

/-!
# Putting batches in a run

While a run ships, its shipper keeps the settings and the client with which it started.  A batch of
records that was read makes events, so that only four things may happen to it: the server cannot be
named, the payload cannot be written, or the one request is refused or accepted.
-/

namespace LogShipper.Run

/-! ## 1. States of a run -/

/-- A state in which the shipper runs, with the settings and the client that it was started with. -/
structure IsReady (config : Config) (client : Client) (state : State) : Prop where
  config : state.1.config = config
  isStopped : state.1.isStopped = false
  client : ∃ bytes, state.1.client = some { client with lastPayloadBytes := bytes }
  clock : state.2.clock.IsReal

/-- No request is sent, and no signal arrives. -/
structure IsSilent (before after : State) : Prop where
  transport : after.2.transport = before.2.transport
  stopRequested : after.2.stopRequested = before.2.stopRequested

/-- One request is sent, and a signal may arrive before the answer. -/
structure Sends (request : Request) (before after : State) : Prop where
  transport : after.2.transport =
    ⟨before.2.transport.answers.tail, before.2.transport.sent ++ [request]⟩
  stopRequested : after.2.stopRequested =
    (before.2.stopRequested || (before.2.transport.answers.headD .accepted).signal.isSome)

/-- What putting a batch does when it makes events. -/
inductive Putting (client : Client) (target : Url) (events : List Event) (before : State) :
    Except RunFault Unit × State → Prop
  | unsendable (hserver : target.server.isAscii = false) {fault : Ascii.Fault} {after : State}
      (hsilent : IsSilent before after) (hmetrics : after.1.metrics = before.1.metrics) :
      Putting client target events before
        (.error (.shipper (.client (.unsendableHost fault))), after)
  | unserializable (hserver : target.server.isAscii = true) {fault : SerializationFault}
      {after : State} (hpayload : (client.payload events).produce.fault = some fault)
      (hsilent : IsSilent before after) {kind : Text}
      (hmetrics : after.1.metrics = before.1.metrics.recordFailure kind) :
      Putting client target events before
        (.error (.shipper (.client (.serialization fault))), after)
  | refused (hserver : target.server.isAscii = true) {fault : ClientFault} {after : State}
      (hpayload : (client.payload events).produce.fault = none)
      (hsends : Sends (client.requestFor target events) before after) {kind : Text}
      (hkind : fault.countedAs? = some kind)
      (hmetrics : after.1.metrics = before.1.metrics.recordFailure kind) :
      Putting client target events before (.error (.shipper (.client fault)), after)
  | accepted (hserver : target.server.isAscii = true) {after : State}
      (hpayload : (client.payload events).produce.fault = none)
      (hsends : Sends (client.requestFor target events) before after)
      (haccepted : before.2.transport.nextOutcome.IsAcceptance) {millis : Binary64}
      (hmetrics : after.1.metrics = before.1.metrics.recordBatch events.length
        (client.requestFor target events).body.length (.float millis)) :
      Putting client target events before (.ok (), after)

variable {config : Config} {client : Client} {target : Url} {before : State}
  {batch : List Record} {events : List Event}

/-! ## 2. Putting -/

theorem put_eq (batch : List Record) (before : State) :
    depot.put batch before =
      ((before.1.put batch before.2).result.mapError .shipper,
        (before.1.put batch before.2).shipper, (before.1.put batch before.2).services) := rfl

theorem IsReady.isRunning (hready : IsReady config client before) :
    before.1.isRunning = true := by
  obtain ⟨bytes, hclient⟩ := hready.client
  exact Shipper.isRunning_iff.2 ⟨hready.isStopped, _, hclient⟩

theorem IsReady.put (hready : IsReady config client before) (batch : List Record) :
    IsReady config client (depot.put batch before).2 := by
  have hagrees := Shipper.agrees_put before.1 batch before.2
  have hclock := Shipper.isReal_put before.1 batch hready.clock
  rw [put_eq]
  refine ⟨?_, ?_, ?_, hclock⟩
  · exact hagrees.config.trans hready.config
  · exact hagrees.isStopped.trans hready.isStopped
  · -- Only the size of the last payload is new.
    obtain ⟨bytes, hclient⟩ := hready.client
    obtain ⟨other, hother, hfixed⟩ := hagrees.symm.exists_client hclient
    have heq := Client.eq_of_fixed hfixed
    exact ⟨other.lastPayloadBytes, hother.trans (congrArg some heq)⟩

theorem putting_of_failed {after : State} {logged : Client.Logged} {fault : ClientFault}
    {bytes : Nat} (hopen : client.isClosed = false) (hurl : Url.parse client.url = .ok target)
    (hordinary : before.2.transport.nextOutcome.IsOrdinary)
    (hlogged : ({ client with lastPayloadBytes := bytes } : Client).log events
      before.2.transport = logged)
    (hresult : logged.result = .error fault) (htransport : after.2.transport = logged.transport)
    (hstop : after.2.stopRequested = (before.2.stopRequested || logged.signal.isSome))
    (hmetrics : after.1.metrics =
      fault.countedAs?.elim before.1.metrics before.1.metrics.recordFailure) :
    Putting client target events before (.error (.shipper (.client fault)), after) := by
  let used : Client := { client with lastPayloadBytes := bytes }
  -- The client has sent before, but the size of its last payload decides nothing.
  have husedOpen : used.isClosed = false := hopen
  have husedUrl : Url.parse used.url = .ok target := hurl
  cases hserver : target.server.isAscii with
  | false =>
    obtain ⟨host, htarget⟩ := used.target_of_not_isAscii husedUrl hserver
    have hlog := hlogged.symm.trans (Client.log_of_untargeted husedOpen htarget)
    subst hlog
    obtain rfl := Except.error.inj hresult
    exact .unsendable hserver ⟨htransport, by simpa using hstop⟩ hmetrics
  | true =>
    have htarget := used.target_of_isAscii husedUrl hserver
    cases hpayload : (client.payload events).produce.fault with
    | some cause =>
      have hlog := hlogged.symm.trans
        (Client.log_of_unserializable husedOpen htarget hpayload)
      subst hlog
      obtain rfl := Except.error.inj hresult
      exact .unserializable hserver hpayload ⟨htransport, by simpa using hstop⟩ hmetrics
    | none =>
      have hlog := hlogged.symm.trans
        (Client.log_of_sent husedOpen htarget hpayload)
      subst hlog
      obtain ⟨kind, hkind⟩ := Client.countedAs?_of_conclude hordinary hresult
      -- Whatever a server answers is a failure with a name.
      rw [hkind] at hmetrics
      exact .refused hserver hpayload ⟨htransport, hstop⟩ hkind hmetrics

theorem putting_of_sent {after : State} {logged : Client.Logged} {response : Response}
    {bytes : Nat} {millis : Binary64} (hurl : Url.parse client.url = .ok target)
    (hlogged : ({ client with lastPayloadBytes := bytes } : Client).log events
      before.2.transport = logged)
    (hresult : logged.result = .ok response) (htransport : after.2.transport = logged.transport)
    (hstop : after.2.stopRequested = (before.2.stopRequested || logged.signal.isSome))
    (hmetrics : after.1.metrics = before.1.metrics.recordBatch events.length
      logged.client.lastPayloadBytes (.float millis)) :
    Putting client target events before (.ok (), after) := by
  subst hlogged
  obtain ⟨found, hopen, htarget, hpayload⟩ := Client.exists_target_of_log hresult
  obtain ⟨rfl, hserver⟩ := Client.target_eq_ok hurl htarget
  rw [Client.log_of_sent hopen htarget hpayload] at hresult htransport hstop hmetrics
  exact .accepted hserver hpayload ⟨htransport, hstop⟩ (Client.isAcceptance_of_conclude hresult)
    hmetrics

theorem putting_put (hready : IsReady config client before) (hopen : client.isClosed = false)
    (hurl : Url.parse client.url = .ok target) (hbatch : batch ≠ [])
    (hevents : (Record.toEvents config.fields before.2.timeOfDay batch).1 = .ok events)
    (hordinary : before.2.transport.nextOutcome.IsOrdinary) :
    Putting client target events before (depot.put batch before) := by
  have hput := Shipper.put_cases before.1 batch hready.clock
  have hrunning := hready.isRunning
  obtain ⟨bytes, hclient⟩ := hready.client
  rw [← hready.config] at hevents
  rw [put_eq]
  generalize before.1.put batch before.2 = step at hput
  cases hput with
  | refused hidle =>
    -- A shipper that runs, a batch that is not empty and records that are events leave two cases.
    rw [hrunning] at hidle
    cases hidle
  | passed _ hempty => exact absurd hempty hbatch
  | unmappable _ _ hfault notice =>
    rw [hevents] at hfault
    cases hfault
  | @failed _ _ used found logged fault hused hfound hlogged hresult notice =>
    obtain rfl := Option.some.inj (hused.symm.trans hclient)
    obtain rfl := Except.ok.inj (hfound.symm.trans hevents)
    rw [Shipper.fail_result]
    exact putting_of_failed hopen hurl hordinary hlogged hresult
      ((Shipper.fail_transport ..).trans (Shipper.transport_servicesAfter logged))
      ((Shipper.fail_stopRequested ..).trans (Shipper.stopRequested_servicesAfter logged))
      (Shipper.fail_metrics ..)
  | @sent _ _ used found logged response hused hfound hlogged hresult millis notice =>
    obtain rfl := Option.some.inj (hused.symm.trans hclient)
    obtain rfl := Except.ok.inj (hfound.symm.trans hevents)
    exact putting_of_sent hurl hlogged hresult (Shipper.transport_servicesAfter logged)
      (Shipper.stopRequested_servicesAfter logged) rfl

end LogShipper.Run
