import LogShipper.Proofs.Shipper.Calls

/-!
# Shippers that agree

A put changes nothing of a shipper but its metrics and the size of its client's last payload, and
neither is looked at by a later put.  So shippers that agree in all the rest answer a put alike,
send the same for it and report the same.  None of this depends on the clock.
-/

namespace LogShipper

/-! ## 1. Clients -/

namespace Client

/-- All of a client but the size of its last payload. -/
def fixed (client : Client) : Client :=
  { client with lastPayloadBytes := 0 }

variable {a b : Client} (client : Client) (events : List Event) (transport : Transport)

theorem fixed_log : (client.log events transport).client.fixed = client.fixed := by
  obtain ⟨bytes, hclient⟩ := client.client_log events transport
  rw [hclient]
  rfl

theorem eq_of_fixed (h : a.fixed = b.fixed) :
    b = { a with lastPayloadBytes := b.lastPayloadBytes } := by
  have hbytes : b = { b.fixed with lastPayloadBytes := b.lastPayloadBytes } := rfl
  rw [hbytes, ← h]
  rfl

/-- The size of the last payload does not matter to the next call: a closed client refuses it, and
an open one forgets the size. -/
theorem log_of_fixed (h : a.fixed = b.fixed) :
    a.log events transport = b.log events transport ∨
      a.log events transport = ⟨.error .closed, a, transport, none⟩ ∧
        b.log events transport = ⟨.error .closed, b, transport, none⟩ := by
  have hb := eq_of_fixed h
  generalize b.lastPayloadBytes = bytes at hb
  subst hb
  rcases Bool.eq_false_or_eq_true a.isClosed with hclosed | hopen
  · exact .inr ⟨log_of_closed hclosed, log_of_closed hclosed⟩
  · left
    have hnot : ¬ a.isClosed = true := Bool.eq_false_iff.1 hopen
    unfold log
    rw [if_neg hnot, if_neg hnot]
    rfl

end Client

namespace Shipper

variable {a b c shipper : Shipper} {services : Services}

/-! ## 2. Agreement -/

/-- Two shippers that differ at most in their metrics and in the size of the last payload. -/
structure Agrees (a b : Shipper) : Prop where
  config : a.config = b.config
  isStopped : a.isStopped = b.isStopped
  client : a.client.map Client.fixed = b.client.map Client.fixed

theorem Agrees.refl (shipper : Shipper) : shipper.Agrees shipper :=
  ⟨rfl, rfl, rfl⟩

theorem Agrees.symm (h : a.Agrees b) : b.Agrees a :=
  ⟨h.config.symm, h.isStopped.symm, h.client.symm⟩

theorem Agrees.trans (h : a.Agrees b) (h' : b.Agrees c) : a.Agrees c :=
  ⟨h.config.trans h'.config, h.isStopped.trans h'.isStopped, h.client.trans h'.client⟩

theorem Agrees.exists_client (h : a.Agrees b) {client : Client} (hclient : a.client = some client) :
    ∃ other, b.client = some other ∧ client.fixed = other.fixed := by
  have hfixed := h.client
  rw [hclient, Option.map_some] at hfixed
  obtain ⟨other, hother, heq⟩ := Option.map_eq_some_iff.1 hfixed.symm
  exact ⟨other, hother, heq.symm⟩

theorem Agrees.isSome_client (h : a.Agrees b) : a.client.isSome = b.client.isSome := by
  have hsome := congrArg Option.isSome h.client
  rwa [Option.isSome_map, Option.isSome_map] at hsome

theorem Agrees.session? (h : a.Agrees b) : a.session? = b.session? := by
  have hsession := congrArg (Option.map Client.session) h.client
  rwa [Option.map_map, Option.map_map] at hsession

theorem Agrees.isRunning (h : a.Agrees b) : a.isRunning = b.isRunning := by
  rw [Shipper.isRunning, Shipper.isRunning, h.isStopped, h.isSome_client]

/-! ## 3. What a put leaves as it is -/

section Parts

variable (shipper services) (client : Client) (events : List Event)

theorem agrees_fail (countedAs? : Option Text) (notice : Notice) (fault : ShipperFault) :
    (shipper.fail services countedAs? notice fault).shipper.Agrees shipper := by
  cases countedAs? <;> exact ⟨rfl, rfl, rfl⟩

theorem fail_congr (a b : Shipper) (countedAs? : Option Text) (notice : Notice)
    (fault : ShipperFault) :
    (a.fail services countedAs? notice fault).result =
        (b.fail services countedAs? notice fault).result ∧
      (a.fail services countedAs? notice fault).services =
        (b.fail services countedAs? notice fault).services := by
  cases countedAs? <;> exact ⟨rfl, rfl⟩

theorem succeed_cases (count bytes : Nat) (began : Number) :
    (∃ fault, shipper.succeed services count bytes began =
      ⟨.error (.arithmetic fault), shipper, { services with clock := services.clock.read.2 }⟩) ∨
    ∃ millis, shipper.succeed services count bytes began =
      ⟨.ok (), { shipper with metrics := shipper.metrics.recordBatch count bytes millis },
        { services with clock := services.clock.read.2 }.report?
          (sentNotice? count bytes millis)⟩ := by
  unfold succeed Services.readClock
  dsimp only
  cases Clock.millisBetween began services.clock.read.1 with
  | error fault => exact .inl ⟨fault, rfl⟩
  | ok millis => exact .inr ⟨millis, rfl⟩

section Succeed

variable (count bytes : Nat) (began : Number)

theorem agrees_succeed : (shipper.succeed services count bytes began).shipper.Agrees shipper := by
  rcases succeed_cases shipper services count bytes began with ⟨_, h⟩ | ⟨_, h⟩ <;>
  rw [h] <;> exact ⟨rfl, rfl, rfl⟩

theorem transport_succeed :
    (shipper.succeed services count bytes began).services.transport = services.transport := by
  rcases succeed_cases shipper services count bytes began with ⟨_, h⟩ | ⟨_, h⟩ <;>
  simp [h]

theorem timeOfDay_succeed :
    (shipper.succeed services count bytes began).services.timeOfDay = services.timeOfDay := by
  rcases succeed_cases shipper services count bytes began with ⟨_, h⟩ | ⟨_, h⟩ <;>
  simp [h]

theorem stopRequested_succeed :
    (shipper.succeed services count bytes began).services.stopRequested =
      services.stopRequested := by
  rcases succeed_cases shipper services count bytes began with ⟨_, h⟩ | ⟨_, h⟩ <;>
  simp [h]

theorem succeed_congr (a b : Shipper) :
    (a.succeed services count bytes began).result = (b.succeed services count bytes began).result ∧
      (a.succeed services count bytes began).services =
        (b.succeed services count bytes began).services := by
  unfold succeed Services.readClock
  dsimp only
  cases Clock.millisBetween began services.clock.read.1 <;> exact ⟨rfl, rfl⟩

end Succeed

/-- The clock is read before the call of `Client.log`, whose result decides what follows. -/
theorem deliver_eq : shipper.deliver client events services =
    let logged := client.log events services.transport
    let sender : Shipper := { shipper with client := some logged.client }
    match logged.result with
    | .error fault =>
      sender.fail (servicesAfter services logged) fault.countedAs?
        (.batchFailed events.length fault.message) (.client fault)
    | .ok _ =>
      sender.succeed (servicesAfter services logged) events.length logged.client.lastPayloadBytes
        services.clock.read.1 := rfl

theorem agrees_deliver (hclient : shipper.client = some client) :
    (shipper.deliver client events services).shipper.Agrees shipper := by
  have hsender : ({ shipper with
      client := some (client.log events services.transport).client } : Shipper).Agrees shipper := by
    refine ⟨rfl, rfl, ?_⟩
    rw [hclient, Option.map_some, Option.map_some, Client.fixed_log]
  rw [deliver_eq]
  dsimp only
  split
  · exact (agrees_fail ..).trans hsender
  · exact (agrees_succeed ..).trans hsender

theorem transport_deliver : (shipper.deliver client events services).services.transport =
    (client.log events services.transport).transport := by
  rw [deliver_eq]
  dsimp only
  split
  · rw [fail_transport, transport_servicesAfter]
  · rw [transport_succeed, transport_servicesAfter]

theorem timeOfDay_deliver :
    (shipper.deliver client events services).services.timeOfDay = services.timeOfDay := by
  rw [deliver_eq]
  dsimp only
  split
  · rw [fail_timeOfDay, timeOfDay_servicesAfter]
  · rw [timeOfDay_succeed, timeOfDay_servicesAfter]

theorem stopRequested_deliver :
    (shipper.deliver client events services).services.stopRequested =
      (services.stopRequested || (client.log events services.transport).signal.isSome) := by
  rw [deliver_eq]
  dsimp only
  split
  · rw [fail_stopRequested, stopRequested_servicesAfter]
  · rw [stopRequested_succeed, stopRequested_servicesAfter]

theorem deliver_of_error {fault : ClientFault}
    (h : (client.log events services.transport).result = .error fault) :
    (shipper.deliver client events services).result = .error (.client fault) := by
  rw [deliver_eq]
  dsimp only
  rw [h]
  exact fail_result ..

theorem deliver_of_ok {response : Response}
    (h : (client.log events services.transport).result = .ok response) :
    (shipper.deliver client events services).result = .ok () ∨
      ∃ fault, (shipper.deliver client events services).result = .error (.arithmetic fault) := by
  rw [deliver_eq]
  generalize client.log events services.transport = logged at h
  dsimp only
  rw [h]
  dsimp only
  -- The batch is counted if the time that it took can be computed.
  rcases succeed_cases { shipper with client := some logged.client }
    (servicesAfter services logged) events.length logged.client.lastPayloadBytes
    services.clock.read.1 with ⟨fault, hstep⟩ | ⟨_, hstep⟩
  · exact .inr ⟨fault, congrArg ShipperStep.result hstep⟩
  · exact .inl (congrArg ShipperStep.result hstep)

end Parts

/-! ## 4. Puts -/

theorem agrees_put (shipper : Shipper) (records : List Record) (services : Services) :
    (shipper.put records services).shipper.Agrees shipper := by
  have hbranch := branch_put shipper records services
  generalize shipper.put records services = step at hbranch
  cases hbranch with
  | refused hidle => exact .refl shipper
  | passed hrunning hempty => exact .refl shipper
  | unmappable hrunning hbatch hevents => exact agrees_fail ..
  | delivered hrunning hbatch hclient hevents => exact agrees_deliver _ _ _ _ hclient

/-- The time of day goes on as the events of the records are made, also if they are not sent. -/
theorem timeOfDay_put (hrunning : shipper.isRunning = true) (records : List Record)
    (services : Services) : (shipper.put records services).services.timeOfDay =
      (Record.toEvents shipper.config.fields services.timeOfDay records).2 := by
  have hbranch := branch_put shipper records services
  generalize shipper.put records services = step at hbranch
  cases hbranch with
  | refused hidle =>
    rw [hrunning] at hidle
    cases hidle
  | passed _ hempty =>
    rw [hempty]
    rfl
  | unmappable _ hbatch hevents => exact fail_timeOfDay ..
  | delivered _ hbatch hclient hevents => exact timeOfDay_deliver ..

/-- A put leaves a stop asked for that is. -/
theorem stopRequested_put (h : services.stopRequested = true) (shipper : Shipper)
    (records : List Record) : (shipper.put records services).services.stopRequested = true := by
  have hbranch := branch_put shipper records services
  generalize shipper.put records services = step at hbranch
  cases hbranch with
  | refused hidle => exact h
  | passed hrunning hempty => exact h
  | unmappable hrunning hbatch hevents => exact (fail_stopRequested ..).trans h
  | delivered hrunning hbatch hclient hevents =>
    rw [stopRequested_deliver, Services.stopRequested_afterMapping, h, Bool.true_or]

/-- A put sends nothing, and then it succeeds only with an empty batch, or it sends one request for
the events of its records. -/
theorem put_sends (shipper : Shipper) (records : List Record) (services : Services) :
    ((shipper.put records services).services.transport = services.transport ∧
      (records ≠ [] → ∃ fault, (shipper.put records services).result = .error fault)) ∨
    ∃ client target events, shipper.isRunning = true ∧ shipper.client = some client ∧
      (Record.toEvents shipper.config.fields services.timeOfDay records).1 = .ok events ∧
      (client.payload events).produce.fault = none ∧
      (shipper.put records services).services.transport =
        ⟨services.transport.answers.tail,
          services.transport.sent ++ [client.requestFor target events]⟩ := by
  have hbranch := branch_put shipper records services
  generalize shipper.put records services = step at hbranch
  cases hbranch with
  | refused hidle => exact .inl ⟨rfl, fun _ => ⟨_, rfl⟩⟩
  | passed hrunning hempty => exact .inl ⟨rfl, fun hbatch => absurd hempty hbatch⟩
  | unmappable hrunning hbatch hevents =>
    exact .inl ⟨fail_transport .., fun _ => ⟨_, fail_result ..⟩⟩
  | @delivered hrunning hbatch client events hclient hevents =>
    rw [transport_deliver]
    rcases client.log_sends events services.transport with
      ⟨hsilent, fault, hresult⟩ | ⟨target, -, hpayload, hsent, -⟩
    · exact .inl ⟨hsilent, fun _ => ⟨_, deliver_of_error _ _ _ _ hresult⟩⟩
    · exact .inr ⟨client, target, events, hrunning, hclient, hevents, hpayload, hsent⟩

theorem deliver_congr {client other : Client} (h : client.fixed = other.fixed) (a b : Shipper)
    (events : List Event) (services : Services) :
    (a.deliver client events services).result = (b.deliver other events services).result ∧
      (a.deliver client events services).services =
        (b.deliver other events services).services := by
  rw [deliver_eq, deliver_eq]
  rcases Client.log_of_fixed events services.transport h with hlog | ⟨hlog, hlog'⟩
  · rw [hlog]
    dsimp only
    split
    · exact fail_congr ..
    · exact succeed_congr ..
  · rw [hlog, hlog']
    -- A closed client has sent nothing, and that is no failure of the batch.
    exact ⟨rfl, rfl⟩

/-- Shippers that agree answer a put alike, send the same for it and report the same. -/
theorem put_congr (h : a.Agrees b) (records : List Record) (services : Services) :
    (a.put records services).result = (b.put records services).result ∧
      (a.put records services).services = (b.put records services).services := by
  unfold put
  rw [← h.config, ← h.isStopped]
  -- What the two do is decided by what they share: the settings, and the fixed part of the client.
  cases hclient : a.client with
  | none =>
    have hnone : b.client = none := by
      rw [← Option.isNone_iff_eq_none, ← Option.not_isSome, ← h.isSome_client, hclient]
      rfl
    rw [hnone]
    exact ⟨rfl, rfl⟩
  | some client =>
    obtain ⟨other, hother, hfixed⟩ := h.exists_client hclient
    rw [hother]
    dsimp only
    split
    · exact ⟨rfl, rfl⟩
    · split
      · exact ⟨rfl, rfl⟩
      · split
        · exact fail_congr ..
        · exact deliver_congr hfixed ..

end Shipper

end LogShipper
