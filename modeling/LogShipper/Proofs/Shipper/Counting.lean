import LogShipper.Proofs.Client.Wire
import LogShipper.Proofs.Shipper.Calls

/-!
# Metrics and the wire

A history of calls on a shipper keeps, for each call, what it answered and the requests that it
sent.  The metrics count this history: the batches that were accepted, with the events and the bytes
of exactly their requests, and the batches that failed, by the name of the failure.
-/

namespace LogShipper

/-! ## 1. Histories -/

inductive ShipperCall where
  | start
  | put (records : List Record)
  | stop
  | snapshot

/-- A call that was made: whether the shipper was running before it, the answer, and the requests
that were sent by it. -/
structure ShipperEvent where
  call : ShipperCall
  wasRunning : Bool
  result : Except ShipperFault Unit
  sent : List Request

namespace Shipper

def takeSnapshot (shipper : Shipper) (services : Services) : ShipperStep :=
  let (snapshot, clock) := shipper.metrics.snapshot services.clock
  ⟨(snapshot.map fun _ => ()).mapError .arithmetic, shipper, { services with clock }⟩

def perform (shipper : Shipper) (services : Services) : ShipperCall → ShipperStep
  | .start => shipper.start services
  | .put records => shipper.put records services
  | .stop => shipper.stop services
  | .snapshot => shipper.takeSnapshot services

/-- What a step was, seen from outside. -/
def eventOf (shipper : Shipper) (services : Services) (call : ShipperCall) : ShipperEvent :=
  let step := shipper.perform services call
  ⟨call, shipper.isRunning, step.result,
    step.services.transport.sent.drop services.transport.sent.length⟩

def history (shipper : Shipper) (services : Services) :
    List ShipperCall → List ShipperEvent × Shipper × Services
  | [] => ([], shipper, services)
  | call :: calls =>
    let step := shipper.perform services call
    let (events, final) := history step.shipper step.services calls
    (shipper.eventOf services call :: events, final)

end Shipper

/-- The name of the class of failures under which a fault is counted.  Any other fault is no failure
of a batch. -/
def ShipperFault.failureName? : ShipperFault → Option Text
  | .mapping (.notObject _) | .mapping (.oversized _) => some "ValueError"
  | .client (.serialization _) => some "SerializationError"
  | .client (.transport _ _) => some "TransportError"
  | .client (.refused _ _ _) => some "ProtocolError"
  | _ => none

namespace ShipperEvent

/-- Whether the call put a batch that was accepted. -/
def isAccepted (event : ShipperEvent) : Bool :=
  match event.call, event.result with
  | .put records, .ok () => !records.isEmpty
  | _, _ => false

/-- The name of the failure of a batch, if the call put one that failed so. -/
def failureName? (event : ShipperEvent) : Option Text :=
  match event.call, event.result with
  | .put _, .error fault => fault.failureName?
  | _, _ => none

/-- Whether the call put a batch that is not empty while the shipper ran, and the batch was accepted
or failed under some name. -/
def isCounted (event : ShipperEvent) : Bool :=
  match event.call with
  | .put records =>
    event.wasRunning && !records.isEmpty && (event.isAccepted || event.failureName?.isSome)
  | _ => false

def eventCount (event : ShipperEvent) : Nat :=
  (event.sent.map fun request => request.events.length).sum

def byteCount (event : ShipperEvent) : Nat :=
  (event.sent.map fun request => request.body.length).sum

end ShipperEvent

namespace Metrics

def failuresOf (metrics : Metrics) (kind : Text) : Nat :=
  (metrics.failures.lookup kind).getD 0

def failureTotal (metrics : Metrics) : Nat :=
  (metrics.failures.map Prod.snd).sum

/-! ## 2. Counting -/

theorem lookup_count (kind name : Text) (failures : List (Text × Nat)) :
    ((count kind failures).lookup name).getD 0 =
      (failures.lookup name).getD 0 + if kind = name then 1 else 0 := by
  -- Along the list, by whether the entry is of the name looked up or of the kind counted.
  induction failures with
  | nil =>
    by_cases h : kind = name
    · subst h
      simp [count]
    · have hne : (name == kind) = false := beq_false_of_ne (Ne.symm h)
      simp [count, List.lookup_cons, hne, h]
  | cons entry rest ih =>
    obtain ⟨other, n⟩ := entry
    rw [count]
    by_cases hname : name = other
    · subst hname
      by_cases h : name = kind
      · subst h
        simp
      · rw [if_neg h, if_neg (Ne.symm h)]
        simp
    · have hne : (name == other) = false := beq_false_of_ne hname
      split
      next h =>
        rw [if_neg (fun hk => hname (hk.symm.trans h.symm))]
        simp [List.lookup_cons, hne]
      next h => simpa [List.lookup_cons, hne] using ih

theorem sum_count (kind : Text) (failures : List (Text × Nat)) :
    ((count kind failures).map Prod.snd).sum = (failures.map Prod.snd).sum + 1 := by
  induction failures with
  | nil => rfl
  | cons entry rest ih =>
    obtain ⟨other, n⟩ := entry
    rw [count]
    split
    · simp only [List.map_cons, List.sum_cons]
      omega
    · simp only [List.map_cons, List.sum_cons, ih]
      omega

/-- What a call adds to the metrics. -/
structure Adds (before after : Metrics) (event : ShipperEvent) : Prop where
  batchesSent : after.batchesSent = before.batchesSent + if event.isAccepted then 1 else 0
  totalEvents : after.totalEvents =
    before.totalEvents + if event.isAccepted then (event.eventCount : Int) else 0
  totalBytes : after.totalBytes =
    before.totalBytes + if event.isAccepted then (event.byteCount : Int) else 0
  failuresOf : ∀ kind, after.failuresOf kind =
    before.failuresOf kind + if event.failureName? = some kind then 1 else 0
  total : after.batchesSent + after.failureTotal =
    before.batchesSent + before.failureTotal + if event.isCounted then 1 else 0

/-- What the metrics say after a history of calls. -/
structure Counts (metrics : Metrics) (events : List ShipperEvent) : Prop where
  batchesSent : metrics.batchesSent = events.countP ShipperEvent.isAccepted
  totalEvents : metrics.totalEvents =
    ((events.filter ShipperEvent.isAccepted).map ShipperEvent.eventCount).sum
  totalBytes : metrics.totalBytes =
    ((events.filter ShipperEvent.isAccepted).map ShipperEvent.byteCount).sum
  failuresOf : ∀ kind, metrics.failuresOf kind =
    events.countP fun event => event.failureName? = some kind
  total : metrics.batchesSent + metrics.failureTotal = events.countP ShipperEvent.isCounted

theorem Counts.add {before after : Metrics} {events : List ShipperEvent} {event : ShipperEvent}
    (h : before.Counts events) (hadd : before.Adds after event) :
    after.Counts (events ++ [event]) where
  batchesSent := by
    rw [hadd.batchesSent, h.batchesSent, List.countP_append, List.countP_singleton]
  totalEvents := by
    rw [hadd.totalEvents, h.totalEvents, List.filter_append, List.map_append, List.sum_append]
    cases hacc : event.isAccepted <;> simp [List.filter, hacc]
  totalBytes := by
    rw [hadd.totalBytes, h.totalBytes, List.filter_append, List.map_append, List.sum_append]
    cases hacc : event.isAccepted <;> simp [List.filter, hacc]
  failuresOf kind := by
    rw [hadd.failuresOf, h.failuresOf, List.countP_append, List.countP_singleton]
    simp only [decide_eq_true_eq]
  total := by
    rw [hadd.total, h.total, List.countP_append, List.countP_singleton]

theorem Adds.of_unchanged (metrics : Metrics) {event : ShipperEvent}
    (haccepted : event.isAccepted = false) (hfailed : event.failureName? = none) :
    metrics.Adds metrics event := by
  have hcounted : event.isCounted = false := by
    unfold ShipperEvent.isCounted
    split
    · rw [haccepted, hfailed]
      exact Bool.and_false _
    · rfl
  constructor <;> simp [haccepted, hfailed, hcounted]

theorem Adds.of_failure (metrics : Metrics) {event : ShipperEvent} {kind : Text}
    (haccepted : event.isAccepted = false) (hfailed : event.failureName? = some kind)
    (hcounted : event.isCounted = true) :
    metrics.Adds (metrics.recordFailure kind) event where
  batchesSent := by simp [haccepted, recordFailure]
  totalEvents := by simp [haccepted, recordFailure]
  totalBytes := by simp [haccepted, recordFailure]
  failuresOf name := by
    simp only [hfailed, Option.some.injEq]
    exact lookup_count kind name metrics.failures
  total := by
    rw [if_pos hcounted, failureTotal, recordFailure, sum_count, failureTotal]
    exact (Nat.add_assoc _ _ _).symm

theorem Adds.of_accepted (metrics : Metrics) {event : ShipperEvent} (millis : Number)
    (haccepted : event.isAccepted = true) (hfailed : event.failureName? = none)
    (hcounted : event.isCounted = true) :
    metrics.Adds (metrics.recordBatch event.eventCount event.byteCount millis) event where
  batchesSent := by rw [haccepted]; rfl
  totalEvents := by rw [haccepted]; rfl
  totalBytes := by rw [haccepted]; rfl
  failuresOf kind := by
    simp only [hfailed, reduceCtorEq, if_false, Nat.add_zero]
    rfl
  total := by
    rw [if_pos hcounted]
    exact Nat.add_right_comm _ _ _

end Metrics

/-! ## 3. Calls -/

namespace ShipperFault

theorem failureName?_mapping (fault : MappingFault) :
    (mapping fault).failureName? = fault.countedAs? := by
  cases fault <;> rfl

theorem failureName?_client (fault : ClientFault) :
    (client fault).failureName? = fault.countedAs? := by
  cases fault <;> rfl

end ShipperFault

namespace Shipper

variable {shipper : Shipper} {services : Services} {records : List Record}

theorem adds_of_failure (metrics : Metrics) {event : ShipperEvent} {kind? : Option Text}
    {fault : ShipperFault} (hcall : event.call = .put records) (hbatch : records ≠ [])
    (hrunning : event.wasRunning = true) (hresult : event.result = .error fault)
    (hname : fault.failureName? = kind?) :
    metrics.Adds (kind?.elim metrics metrics.recordFailure) event := by
  have haccepted : event.isAccepted = false := by
    simp only [ShipperEvent.isAccepted, hcall, hresult]
  have hfailed : event.failureName? = kind? := by
    simp only [ShipperEvent.failureName?, hcall, hresult, hname]
  cases kind? with
  | none => exact .of_unchanged metrics haccepted hfailed
  | some kind =>
    refine .of_failure metrics haccepted hfailed ?_
    simp [ShipperEvent.isCounted, hcall, hrunning, hfailed, hbatch]

theorem adds_put (hclock : services.clock.IsReal) :
    shipper.metrics.Adds (shipper.put records services).shipper.metrics
      (shipper.eventOf services (.put records)) := by
  have hput := put_cases shipper records hclock
  have hevent : shipper.eventOf services (.put records) =
      ⟨.put records, shipper.isRunning, (shipper.put records services).result,
        (shipper.put records services).services.transport.sent.drop
          services.transport.sent.length⟩ := rfl
  rw [hevent]
  generalize shipper.put records services = step at hput
  cases hput with
  | refused hidle => exact .of_unchanged _ rfl rfl
  | passed hrunning hempty =>
    subst hempty
    exact .of_unchanged _ rfl rfl
  | @unmappable hrunning hbatch fault hevents notice =>
    rw [fail_metrics]
    exact adds_of_failure _ rfl hbatch hrunning (fail_result ..)
      (ShipperFault.failureName?_mapping fault)
  | @failed hrunning hbatch client events logged fault hclient hevents hlogged hresult notice =>
    rw [fail_metrics]
    exact adds_of_failure _ rfl hbatch hrunning (fail_result ..)
      (ShipperFault.failureName?_client fault)
  | @sent hrunning hbatch client events logged response hclient hevents hlogged hresult millis
      notice =>
    subst hlogged
    obtain ⟨target, hfault, hsent, hbytes⟩ := Client.sent_of_log hresult
    -- The one request of this call is what is new on the wire.
    have hnew : (client.log events services.transport).transport.sent.drop
        services.transport.sent.length = [client.requestFor target events] := by
      rw [hsent, List.drop_left]
    let event : ShipperEvent :=
      ⟨.put records, shipper.isRunning, .ok (), [client.requestFor target events]⟩
    have haccepted : event.isAccepted = true := by simp [event, ShipperEvent.isAccepted, hbatch]
    have hcounted : event.isCounted = true := by
      simp [event, ShipperEvent.isCounted, ShipperEvent.isAccepted, hrunning, hbatch]
    have hadds := Metrics.Adds.of_accepted shipper.metrics (.float millis) haccepted rfl hcounted
    -- Its events and bytes are found on the wire, and are the ones that were added.
    have hevents : event.eventCount = events.length := by
      simp [event, ShipperEvent.eventCount, Client.length_events_requestFor hfault]
    have hbody : event.byteCount =
        (client.log events services.transport).client.lastPayloadBytes := by
      simp [event, ShipperEvent.byteCount, hbytes]
    rw [hevents, hbody] at hadds
    simpa only [Services.transport_report, transport_servicesAfter, hnew] using hadds

/-! ## 4. Histories -/

theorem adds_perform (shipper : Shipper) (hclock : services.clock.IsReal) (call : ShipperCall) :
    shipper.metrics.Adds (shipper.perform services call).shipper.metrics
      (shipper.eventOf services call) := by
  cases call with
  | put records => exact adds_put hclock
  | start =>
    rw [perform, start_metrics]
    exact .of_unchanged _ rfl rfl
  | stop =>
    rw [perform, stop_metrics]
    exact .of_unchanged _ rfl rfl
  | snapshot => exact .of_unchanged _ rfl rfl

theorem isReal_perform (shipper : Shipper) (hclock : services.clock.IsReal) (call : ShipperCall) :
    (shipper.perform services call).services.clock.IsReal := by
  cases call with
  | put records => exact isReal_put shipper records hclock
  | start =>
    rw [perform, start_clock]
    exact hclock
  | stop => exact isReal_stop hclock
  | snapshot => exact Metrics.isReal_snapshot shipper.metrics hclock

/-- A put that was refused, was empty, or failed in a way that has no name counts for nothing. -/
theorem metrics_put_of_uncounted (hclock : services.clock.IsReal)
    (h : records = [] ∨ ∃ fault, (shipper.put records services).result = .error fault ∧
      fault.failureName? = none) :
    (shipper.put records services).shipper.metrics = shipper.metrics := by
  have hput := put_cases shipper records hclock
  generalize shipper.put records services = step at hput h
  cases hput with
  | refused hidle => rfl
  | passed hrunning hempty => rfl
  | @unmappable hrunning hbatch fault hevents notice =>
    obtain h | ⟨_, hresult, hname⟩ := h
    · exact absurd h hbatch
    · obtain rfl := Except.error.inj ((fail_result ..).symm.trans hresult)
      rw [ShipperFault.failureName?_mapping] at hname
      rw [fail_metrics, hname]
      rfl
  | @failed hrunning hbatch client events logged fault hclient hevents hlogged hresult notice =>
    obtain h | ⟨_, hresult, hname⟩ := h
    · exact absurd h hbatch
    · obtain rfl := Except.error.inj ((fail_result ..).symm.trans hresult)
      rw [ShipperFault.failureName?_client] at hname
      rw [fail_metrics, hname]
      rfl
  | sent hrunning hbatch hclient hevents hlogged hresult millis notice =>
    obtain h | ⟨fault, hresult, -⟩ := h
    · exact absurd h hbatch
    · cases hresult

def life (config : Config) (services : Services) (calls : List ShipperCall) :
    List ShipperEvent × Shipper × Services :=
  let (shipper, services) := create config services
  shipper.history services calls

/-- What every call keeps is kept by a history of calls. -/
theorem history_induction {kept : List ShipperEvent → Shipper → Services → Prop}
    (hperform : ∀ events shipper services call, kept events shipper services →
      kept (events ++ [shipper.eventOf services call]) (shipper.perform services call).shipper
        (shipper.perform services call).services)
    {earlier : List ShipperEvent} (h : kept earlier shipper services) (calls : List ShipperCall) :
    kept (earlier ++ (shipper.history services calls).1) (shipper.history services calls).2.1
      (shipper.history services calls).2.2 := by
  induction calls generalizing shipper services earlier with
  | nil =>
    rw [history, List.append_nil]
    exact h
  | cons call calls ih =>
    have hnext := ih (hperform earlier shipper services call h)
    rw [List.append_assoc] at hnext
    exact hnext

theorem life_induction (kept : List ShipperEvent → Shipper → Services → Prop)
    {config : Config} {services : Services}
    (hnew : kept [] (create config services).1 (create config services).2)
    (hperform : ∀ events shipper services call, kept events shipper services →
      kept (events ++ [shipper.eventOf services call]) (shipper.perform services call).shipper
        (shipper.perform services call).services) (calls : List ShipperCall) :
    kept (life config services calls).1 (life config services calls).2.1
      (life config services calls).2.2 :=
  history_induction hperform hnew calls

theorem life_counts (config : Config) {services : Services} (hclock : services.clock.IsReal)
    (calls : List ShipperCall) :
    (life config services calls).2.1.metrics.Counts (life config services calls).1 ∧
      (life config services calls).2.2.clock.IsReal := by
  apply life_induction fun events shipper services =>
    shipper.metrics.Counts events ∧ services.clock.IsReal
  · have hnew : (create config services).1.metrics.Counts [] := by
      constructor <;> first | rfl | exact fun _ => rfl
    exact ⟨hnew, hclock.read.2⟩
  · -- Each call adds to the metrics what its own event shows.
    rintro events shipper services call ⟨hcounts, hclock⟩
    exact ⟨hcounts.add (adds_perform shipper hclock call), isReal_perform shipper hclock call⟩

/-- At every moment in the life of a shipper its metrics count what it sent and what failed, and a
put that is not counted leaves them as they are. -/
theorem life_metrics (config : Config) {services : Services} (hclock : services.clock.IsReal)
    (calls : List ShipperCall) :
    (life config services calls).2.1.metrics.Counts (life config services calls).1 ∧
      ∀ records,
        let step := (life config services calls).2.1.put records (life config services calls).2.2
        (records = [] ∨ ∃ fault, step.result = .error fault ∧ fault.failureName? = none) →
          step.shipper.metrics = (life config services calls).2.1.metrics := by
  obtain ⟨hcounts, hnow⟩ := life_counts config hclock calls
  exact ⟨hcounts, fun records h => metrics_put_of_uncounted hnow h⟩

/-- A batch that is accepted, an empty one, one with a record that is no object, one that the server
refuses, and one after the stop. -/
def sampleCalls : List ShipperCall := [
  .start, .put [⟨"t", 0, 0, .object [], none⟩], .put [], .put [⟨"t", 0, 1, .null, none⟩],
  .snapshot, .put [⟨"t", 0, 2, .object [], none⟩], .stop, .put [⟨"t", 0, 3, .object [], none⟩]]

def sampleServices : Services where
  timeOfDay := { now := 100 }
  transport := { answers := [.accepted, { outcome := .reply 503 [] }] }

def sampleLife : List ShipperEvent × Shipper × Services :=
  life { apiKey := "abc123" } sampleServices sampleCalls

theorem sample_life_metrics :
    sampleServices.clock.IsReal ∧ sampleLife.2.1.metrics.batchesSent = 1 ∧
      sampleLife.2.1.metrics.failuresOf "ValueError" = 1 ∧
      sampleLife.2.1.metrics.failuresOf "ProtocolError" = 1 ∧
      sampleLife.2.1.metrics.batchesSent + sampleLife.2.1.metrics.failureTotal = 3 := by
  have hclock : sampleServices.clock.IsReal := ⟨⟨_, rfl⟩, nofun⟩
  have hcounts : sampleLife.2.1.metrics.Counts sampleLife.1 :=
    (life_metrics { apiKey := "abc123" } hclock sampleCalls).1
  refine ⟨hclock, ?_, ?_, ?_, ?_⟩
  · rw [hcounts.batchesSent]
    decide +kernel
  · rw [hcounts.failuresOf]
    decide +kernel
  · rw [hcounts.failuresOf]
    decide +kernel
  · rw [hcounts.total]
    decide +kernel

end Shipper

end LogShipper
