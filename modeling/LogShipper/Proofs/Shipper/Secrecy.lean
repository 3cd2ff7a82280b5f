import LogShipper.Proofs.Payload.Token
import LogShipper.Proofs.Shipper.Lifecycle

/-!
# The api key is kept secret

Two shippers are given the same calls, the same answers and the same readings of the clock, but two
api keys that need as many bytes.  Nothing tells the two apart but the tokens in their requests: not
what the calls answer, nor what is reported, nor the metrics.
-/

namespace LogShipper

/-! ## 1. Another key -/

/-- Two keys that need as many bytes, and the bytes that stand for each of them in a request. -/
structure KeysAlike (first second : Text) (mine other : Bytes) : Prop where
  first : Utf8.encode (Json.writeText first) = .ok mine
  second : Utf8.encode (Json.writeText second) = .ok other
  length_eq : other.length = mine.length

/-- Requests that differ at most in the token, with which their bodies begin. -/
structure Request.DifferInToken (mine other : Bytes) (a b : Request) : Prop where
  url : b.url = a.url
  timeout : b.timeout = a.timeout
  body : ∃ rest, a.body = Payload.lead ++ mine ++ rest ∧ b.body = Payload.lead ++ other ++ rest

def Config.withKey (config : Config) (key : Text) : Config :=
  { config with apiKey := key }

def Client.withKey (client : Client) (key : Text) : Client :=
  { client with apiKey := key }

def Shipper.withKey (shipper : Shipper) (key : Text) : Shipper :=
  { shipper with
    config := shipper.config.withKey key
    client := shipper.client.map (·.withKey key) }

def Transport.withSent (transport : Transport) (sent : List Request) : Transport :=
  { transport with sent }

def Services.withSent (services : Services) (sent : List Request) : Services :=
  { services with transport := services.transport.withSent sent }

def Client.Logged.withKey (logged : Client.Logged) (key : Text) (sent : List Request) :
    Client.Logged :=
  ⟨logged.result, logged.client.withKey key, logged.transport.withSent sent, logged.signal⟩

def ShipperStep.withKey (step : ShipperStep) (key : Text) (sent : List Request) : ShipperStep :=
  ⟨step.result, step.shipper.withKey key, step.services.withSent sent⟩

section Parts

variable (shipper : Shipper) (services : Services) (key : Text) (sent : List Request)

@[simp] theorem Shipper.url_withKey :
    (shipper.withKey key).config.url = shipper.config.url := rfl

@[simp] theorem Shipper.fields_withKey :
    (shipper.withKey key).config.fields = shipper.config.fields := rfl

@[simp] theorem Shipper.isStopped_withKey :
    (shipper.withKey key).isStopped = shipper.isStopped := rfl

@[simp] theorem Shipper.metrics_withKey :
    (shipper.withKey key).metrics = shipper.metrics := rfl

@[simp] theorem Shipper.isSome_client_withKey :
    (shipper.withKey key).client.isSome = shipper.client.isSome := Option.isSome_map

@[simp] theorem Shipper.isRunning_withKey :
    (shipper.withKey key).isRunning = shipper.isRunning := by
  rw [isRunning, isSome_client_withKey, isStopped_withKey, ← isRunning]

@[simp] theorem Services.clock_withSent : (services.withSent sent).clock = services.clock := rfl

@[simp] theorem Services.timeOfDay_withSent :
    (services.withSent sent).timeOfDay = services.timeOfDay := rfl

@[simp] theorem Services.afterMapping_withSent (fields : FieldNames) (records : List Record) :
    (services.withSent sent).afterMapping fields records =
      (services.afterMapping fields records).withSent sent := rfl

@[simp] theorem Services.transport_withSent :
    (services.withSent sent).transport = services.transport.withSent sent := rfl

end Parts

/-- What a call sent is added on both sides, and differs at most in the tokens. -/
def Sends (mine other : Bytes) (before before' after after' : List Request) : Prop :=
  ∃ new new', List.Forall₂ (Request.DifferInToken mine other) new new' ∧
    after = before ++ new ∧ after' = before' ++ new'

variable {mine other : Bytes} {key : Text}

theorem Sends.nothing (before before' : List Request) :
    Sends mine other before before' before before' :=
  ⟨[], [], .nil, (List.append_nil _).symm, (List.append_nil _).symm⟩

theorem Sends.one {before before' : List Request} {request request' : Request}
    (h : request.DifferInToken mine other request') :
    Sends mine other before before' (before ++ [request]) (before' ++ [request']) :=
  ⟨[request], [request'], .cons h .nil, rfl, rfl⟩

/-! ## 2. Clients -/

namespace Client

variable {client : Client} {events : List Event} {transport : Transport}

/-- A call of `log` with another key has the same result and sends the same but for the token. -/
theorem log_withKey (hkeys : KeysAlike client.apiKey key mine other)
    (hsession : ∀ c ∈ client.session, c.isSurrogate = false) (events : List Event)
    (transport : Transport) (sent : List Request) :
    ∃ sent', (client.withKey key).log events (transport.withSent sent) =
        (client.log events transport).withKey key sent' ∧
      Sends mine other transport.sent sent (client.log events transport).transport.sent sent' := by
  obtain ⟨rest, fault?, hproduce⟩ := Payload.produce_of_token hsession events
  have hfault : (client.payload events).produce.fault = fault? :=
    (hproduce client.apiKey mine hkeys.first).2
  have hfault' : ((client.withKey key).payload events).produce.fault = fault? :=
    (hproduce key other hkeys.second).2
  have hbody : (client.payload events).produce.chunks.flatten = Payload.lead ++ mine ++ rest :=
    (hproduce client.apiKey mine hkeys.first).1
  have hbody' : ((client.withKey key).payload events).produce.chunks.flatten =
      Payload.lead ++ other ++ rest := (hproduce key other hkeys.second).1
  have hsize : ((client.withKey key).payload events).produce.size =
      (client.payload events).produce.size := by
    unfold Payload.Production.size
    rw [hbody, hbody']
    simp only [List.length_append, hkeys.length_eq]
  rcases Bool.eq_false_or_eq_true client.isClosed with hclosed | hopen
  · have hclosed' : (client.withKey key).isClosed = true := hclosed
    rw [log_of_closed hclosed, log_of_closed hclosed']
    exact ⟨sent, rfl, .nothing _ _⟩
  · have hopen' : (client.withKey key).isClosed = false := hopen
    cases htarget : client.target with
    | error fault =>
      have htarget' : (client.withKey key).target = .error fault := htarget
      rw [log_of_untargeted hopen htarget, log_of_untargeted hopen' htarget']
      exact ⟨sent, rfl, .nothing _ _⟩
    | ok target =>
      have htarget' : (client.withKey key).target = .ok target := htarget
      -- The payload meets one fault on both sides, and has one size.
      cases fault? with
      | some fault =>
        rw [log_of_unserializable hopen htarget hfault,
          log_of_unserializable hopen' htarget' hfault', hsize]
        exact ⟨sent, rfl, .nothing _ _⟩
      | none =>
        rw [log_of_sent hopen htarget hfault, log_of_sent hopen' htarget' hfault', hsize]
        refine ⟨sent ++ [(client.withKey key).requestFor target events], rfl, .one ?_⟩
        exact ⟨rfl, rfl, rest, hbody, hbody'⟩

end Client

/-! ## 3. Calls -/

namespace Shipper

variable {config : Config} {shipper : Shipper} {services : Services}

/-- All that a call does is done with another key, too, and with other requests before it. -/
def Shadows (mine other : Bytes) (key : Text) (services : Services) (sent : List Request)
    (step twin : ShipperStep) : Prop :=
  ∃ sent', twin = step.withKey key sent' ∧
    Sends mine other services.transport.sent sent step.services.transport.sent sent'

theorem fail_withKey (shipper : Shipper) (services : Services) (sent : List Request)
    (countedAs? : Option Text) (notice : Notice) (fault : ShipperFault) :
    (shipper.withKey key).fail (services.withSent sent) countedAs? notice fault =
      (shipper.fail services countedAs? notice fault).withKey key sent := by
  cases countedAs? <;> rfl

theorem succeed_withKey (shipper : Shipper) (services : Services) (sent : List Request)
    (count bytes : Nat) (began : Number) :
    (shipper.withKey key).succeed (services.withSent sent) count bytes began =
      (shipper.succeed services count bytes began).withKey key sent := by
  unfold succeed Services.readClock
  dsimp only
  rw [Services.clock_withSent]
  cases Clock.millisBetween began services.clock.read.1 with
  | error fault => rfl
  | ok millis =>
    dsimp only
    cases sentNotice? count bytes millis <;> rfl

theorem servicesAfter_withKey (services : Services) (logged : Client.Logged)
    (sent sent' : List Request) :
    servicesAfter (services.withSent sent) (logged.withKey key sent') =
      (servicesAfter services logged).withSent sent' := by
  obtain ⟨result, client, transport, signal⟩ := logged
  cases signal <;> rfl

theorem deliver_withKey {client : Client} (hkeys : KeysAlike client.apiKey key mine other)
    (hsession : ∀ c ∈ client.session, c.isSurrogate = false) (shipper : Shipper)
    (events : List Event) (services : Services) (sent : List Request) :
    Shadows mine other key services sent (shipper.deliver client events services)
      ((shipper.withKey key).deliver (client.withKey key) events (services.withSent sent)) := by
  obtain ⟨sent', hlog, hsends⟩ :=
    Client.log_withKey hkeys hsession events services.transport sent
  refine ⟨sent', ?_, ?_⟩
  · rw [deliver_eq, deliver_eq, Services.transport_withSent, hlog]
    generalize client.log events services.transport = logged
    dsimp only
    rw [servicesAfter_withKey]
    obtain ⟨result, sender, transport, signal⟩ := logged
    cases result with
    | error fault => exact fail_withKey { shipper with client := some sender } ..
    | ok response => exact succeed_withKey { shipper with client := some sender } ..
  · rw [transport_deliver]
    exact hsends

theorem put_withKey (hkeys : KeysAlike config.apiKey key mine other)
    (hstands : shipper.Stands config)
    (hsession : ∀ session, shipper.session? = some session →
      ∀ c ∈ session, c.isSurrogate = false)
    (records : List Record) (services : Services) (sent : List Request) :
    Shadows mine other key services sent (shipper.put records services)
      ((shipper.withKey key).put records (services.withSent sent)) := by
  have hsame := shipper.isRunning_withKey key
  cases hrunning : shipper.isRunning with
  | false =>
    rw [put_of_not_isRunning hrunning, put_of_not_isRunning (hsame.trans hrunning)]
    exact ⟨sent, rfl, .nothing _ _⟩
  | true =>
    obtain ⟨-, client, hclient⟩ := isRunning_iff.1 hrunning
    by_cases hbatch : records = []
    · rw [hbatch, put_of_isEmpty hrunning, put_of_isEmpty (hsame.trans hrunning)]
      exact ⟨sent, rfl, .nothing _ _⟩
    · have hclient' : (shipper.withKey key).client = some (client.withKey key) := by
        rw [withKey, hclient]
        rfl
      rw [put_of_isRunning hrunning hclient hbatch,
        put_of_isRunning (hsame.trans hrunning) hclient' hbatch, fields_withKey,
        Services.timeOfDay_withSent, Services.afterMapping_withSent]
      -- The key takes no part in making the events, only in sending them.
      cases (Record.toEvents shipper.config.fields services.timeOfDay records).1 with
      | error fault =>
        refine ⟨sent, fail_withKey .., ?_⟩
        rw [fail_transport]
        exact .nothing _ _
      | ok events =>
        have hown : client.apiKey = config.apiKey := (hstands.client client hclient).1.apiKey
        rw [← hown] at hkeys
        apply deliver_withKey hkeys
        apply hsession client.session
        rw [session?, hclient]
        rfl

theorem start_withKey (shipper : Shipper) (services : Services) (sent : List Request) :
    (shipper.withKey key).start (services.withSent sent) =
      (shipper.start services).withKey key sent := by
  unfold start Client.connect
  rw [isSome_client_withKey, isStopped_withKey, url_withKey]
  by_cases hbefore : (shipper.client.isSome || shipper.isStopped) = true
  · rw [if_pos hbefore, if_pos hbefore]
    rfl
  · rw [if_neg hbefore, if_neg hbefore]
    -- Whether there is an endpoint is told by the URL alone.
    cases Endpoint.ofJson shipper.config.url <;> rfl

theorem stopped_withKey (shipper : Shipper) (key : Text) :
    (shipper.withKey key).stopped = shipper.stopped.withKey key := by
  unfold stopped withKey
  cases shipper.client <;> rfl

theorem stop_withKey (shipper : Shipper) (services : Services) (sent : List Request) :
    (shipper.withKey key).stop (services.withSent sent) =
      (shipper.stop services).withKey key sent := by
  cases hstopped : shipper.isStopped with
  | true =>
    have hstopped' := (shipper.isStopped_withKey key).trans hstopped
    rw [stop_again hstopped, stop_again hstopped']
    rfl
  | false =>
    have hstopped' := (shipper.isStopped_withKey key).trans hstopped
    rw [stop_eq hstopped, stop_eq hstopped', metrics_withKey, Services.clock_withSent,
      stopped_withKey]
    -- The metrics know nothing of the key, so both snapshots are one.
    rcases shipper.metrics.snapshot services.clock with ⟨fault | snapshot, clock⟩
    · rfl
    · dsimp only
      cases metricsNotice? snapshot <;> rfl

theorem takeSnapshot_withKey (shipper : Shipper) (services : Services) (sent : List Request) :
    (shipper.withKey key).takeSnapshot (services.withSent sent) =
      (shipper.takeSnapshot services).withKey key sent := rfl

theorem perform_withKey (hkeys : KeysAlike config.apiKey key mine other)
    (hstands : shipper.Stands config)
    (hsession : ∀ session, shipper.session? = some session →
      ∀ c ∈ session, c.isSurrogate = false)
    (services : Services) (sent : List Request) (call : ShipperCall) :
    Shadows mine other key services sent (shipper.perform services call)
      ((shipper.withKey key).perform (services.withSent sent) call) := by
  cases call with
  | put records => exact put_withKey hkeys hstands hsession records services sent
  | snapshot => exact ⟨sent, takeSnapshot_withKey .., .nothing _ _⟩
  | start =>
    refine ⟨sent, start_withKey .., ?_⟩
    rw [perform, start_transport]
    exact .nothing _ _
  | stop =>
    refine ⟨sent, stop_withKey .., ?_⟩
    rw [perform, stop_transport]
    exact .nothing _ _

end Shipper

/-! ## 4. Sessions -/

namespace SessionIds

/-- Ids to come in which no surrogate stands. -/
def ArePlain (ids : SessionIds) : Prop :=
  ∀ id ∈ ids.next, ∀ c ∈ id, c.isSurrogate = false

theorem ArePlain.take {ids : SessionIds} (h : ids.ArePlain) :
    ∀ c ∈ ids.take.1, c.isSurrogate = false := by
  obtain ⟨next, used⟩ := ids
  cases next with
  | cons id next => exact h id List.mem_cons_self
  | nil =>
    -- The id is made of the number of earlier ones.
    refine List.forall_mem_append.2 ⟨Text.isSurrogate_ofString _, ?_⟩
    exact Text.isSurrogate_ofChars _

/-- The ids that are made of random bytes are of this kind. -/
theorem isSurrogate_ofRandom (bytes : Bytes) : ∀ c ∈ ofRandom bytes, c.isSurrogate = false := by
  intro c hc
  obtain ⟨⟨b, i⟩, -, hc⟩ := List.mem_flatMap.1 hc
  rcases List.mem_append.1 hc with hc | hc
  · split at hc
    · exact Text.isSurrogate_ofString _ c hc
    · cases hc
  · exact Text.isSurrogate_hex _ _ _ c hc

end SessionIds

namespace Shipper

variable {config : Config} {shipper : Shipper} {services : Services}

/-- In the session of the shipper no surrogate stands, nor in the one that it will take. -/
structure HasPlainSession (shipper : Shipper) (services : Services) : Prop where
  own : ∀ session, shipper.session? = some session → ∀ c ∈ session, c.isSurrogate = false
  next : shipper.session? = none → services.sessions.ArePlain

theorem HasPlainSession.perform (h : shipper.HasPlainSession services) (call : ShipperCall) :
    (shipper.perform services call).shipper.HasPlainSession
      (shipper.perform services call).services := by
  cases hsession : shipper.session? with
  | some session =>
    -- A session that was taken is kept.
    have hkept := session_perform hsession services call
    refine ⟨fun other hother => ?_, fun hnone => ?_⟩
    · obtain rfl := Option.some.inj (hkept.symm.trans hother)
      exact h.own session hsession
    · rw [hkept] at hnone
      cases hnone
  | none =>
    have hclient : shipper.client = none := Option.map_eq_none_iff.1 hsession
    cases call with
    | snapshot => exact ⟨h.own, h.next⟩
    | put records =>
      have hidle : shipper.isRunning = false := by
        rw [isRunning, hclient]
        rfl
      rw [Shipper.perform, put_of_not_isRunning hidle]
      exact h
    | start =>
      have hstart := start_cases shipper services
      rw [Shipper.perform]
      generalize shipper.start services = step at hstart
      cases hstart with
      | refused hbefore => exact h
      | failed hclient hstopped hurl => exact h
      | started hclient hstopped hurl =>
        refine ⟨fun session hnew => ?_, fun hnone => absurd hnone (Option.some_ne_none _)⟩
        obtain rfl := Option.some.inj hnew
        exact (h.next hsession).take
    | stop =>
      have hstop := stop_cases shipper services
      have hnone : shipper.stopped.session? = none := by
        rw [session?, stopped, hclient]
        rfl
      have hstopped : ∀ session, shipper.stopped.session? = some session →
          ∀ c ∈ session, c.isSurrogate = false := by
        intro session hsome
        rw [hnone] at hsome
        cases hsome
      rw [Shipper.perform]
      generalize shipper.stop services = step at hstop
      cases hstop with
      | again _ => exact h
      | unmeasured _ clock => exact ⟨hstopped, fun _ => h.next hsession⟩
      | measured _ notice? clock =>
        refine ⟨hstopped, fun _ => ?_⟩
        rw [Services.sessions_report?]
        exact h.next hsession

end Shipper

/-! ## 5. Lives -/

/-- What is seen of a call from outside, but for the tokens in its requests. -/
structure ShipperEvent.DifferInToken (mine other : Bytes) (a b : ShipperEvent) : Prop where
  call : b.call = a.call
  wasRunning : b.wasRunning = a.wasRunning
  result : b.result = a.result
  sent : List.Forall₂ (Request.DifferInToken mine other) a.sent b.sent

namespace Shipper

variable {config : Config} {shipper : Shipper} {services : Services} {sent : List Request}
  {call : ShipperCall}

theorem Shadows.eventOf (h : Shadows mine other key services sent (shipper.perform services call)
    ((shipper.withKey key).perform (services.withSent sent) call)) :
    (shipper.eventOf services call).DifferInToken mine other
      ((shipper.withKey key).eventOf (services.withSent sent) call) := by
  obtain ⟨sent', htwin, new, new', hnew, hsent, hsent'⟩ := h
  rw [eventOf_eq, eventOf_eq, htwin, isRunning_withKey]
  refine ⟨rfl, rfl, rfl, ?_⟩
  have hown : sentBy services (shipper.perform services call) = new := by
    rw [sentBy, hsent, List.drop_left]
  have htwins : sentBy (services.withSent sent)
      ((shipper.perform services call).withKey key sent') = new' := by
    show sent'.drop sent.length = new'
    rw [hsent', List.drop_left]
  rw [hown, htwins]
  exact hnew

/-- From one moment on, the same calls show the same with another key. -/
theorem history_withKey (hkeys : KeysAlike config.apiKey key mine other)
    (hstands : shipper.Stands config) (hplain : shipper.HasPlainSession services)
    (sent : List Request) (calls : List ShipperCall) :
    ∃ sent', List.Forall₂ (ShipperEvent.DifferInToken mine other)
        (shipper.history services calls).1
        ((shipper.withKey key).history (services.withSent sent) calls).1 ∧
      ((shipper.withKey key).history (services.withSent sent) calls).2 =
        ((shipper.history services calls).2.1.withKey key,
          (shipper.history services calls).2.2.withSent sent') := by
  induction calls generalizing shipper services sent with
  | nil => exact ⟨sent, .nil, rfl⟩
  | cons call calls ih =>
    have hshadows := perform_withKey hkeys hstands hplain.own services sent call
    have hevent := hshadows.eventOf
    obtain ⟨next, htwin, -⟩ := hshadows
    obtain ⟨sent', hevents, hfinal⟩ :=
      ih (hstands.perform services call) (hplain.perform call) next
    rw [history, history, htwin]
    exact ⟨sent', .cons hevent hevents, hfinal⟩

/-- Of two lives with alike keys, the same services and the same calls, nothing tells the keys apart
but the tokens in the requests: each call answers the same and sends as many requests, the same
notices are reported, and the metrics show the same. -/
theorem life_hides_key (hkeys : KeysAlike config.apiKey key mine other)
    (hsessions : services.sessions.ArePlain) (calls : List ShipperCall) :
    let own := life config services calls
    let twin := life (config.withKey key) services calls
    List.Forall₂ (ShipperEvent.DifferInToken mine other) own.1 twin.1 ∧
      twin.2.2.notices = own.2.2.notices ∧
      twin.2.1.metrics.snapshot twin.2.2.clock = own.2.1.metrics.snapshot own.2.2.clock ∧
      twin.2.1 = own.2.1.withKey key ∧
      twin.2.2 = own.2.2.withSent twin.2.2.transport.sent := by
  intro own twin
  have hplain : (create config services).1.HasPlainSession (create config services).2 :=
    ⟨nofun, fun _ => hsessions⟩
  obtain ⟨sent, hevents, hfinal⟩ := history_withKey hkeys (stands_create config services) hplain
    services.transport.sent calls
  obtain ⟨hshipper, hservices⟩ := Prod.mk.inj hfinal
  change twin.2.1 = own.2.1.withKey key at hshipper
  change twin.2.2 = own.2.2.withSent sent at hservices
  refine ⟨hevents, ?_, ?_, hshipper, ?_⟩
  · rw [hservices]
    rfl
  · rw [hshipper, hservices]
    rfl
  · rw [hservices]
    rfl

def sampleConfig : Config where
  apiKey := "abc123"

/-- Services with one random session. -/
def sampleSession : Services :=
  { sampleServices with sessions := { next := [SessionIds.ofRandom (List.replicate 16 0xAB)] } }

/-- Two keys that need eight bytes, one of which has fewer characters.  Of the calls, two send a
request. -/
theorem sample_hides_key :
    let own := life sampleConfig sampleSession sampleCalls
    let twin := life (sampleConfig.withKey "é\"12") sampleSession sampleCalls
    ∃ mine other, KeysAlike sampleConfig.apiKey "é\"12" mine other ∧
      sampleSession.sessions.ArePlain ∧
      List.Forall₂ (ShipperEvent.DifferInToken mine other) own.1 twin.1 ∧
      twin.2.2.notices = own.2.2.notices ∧
      own.2.2.transport.sent.length = 2 ∧ own.2.2.transport.sent ≠ twin.2.2.transport.sent := by
  intro own twin
  have hkeys : KeysAlike sampleConfig.apiKey "é\"12" ("\"abc123\"".toList.flatMap Utf8.encodeChar)
      ("\"é\\\"12\"".toList.flatMap Utf8.encodeChar) :=
    ⟨by decide +kernel, by decide +kernel, by decide +kernel⟩
  have hsessions : sampleSession.sessions.ArePlain :=
    List.forall_mem_singleton.2 (SessionIds.isSurrogate_ofRandom _)
  obtain ⟨hevents, hnotices, -⟩ := life_hides_key hkeys hsessions sampleCalls
  exact ⟨_, _, hkeys, hsessions, hevents, hnotices, by decide +kernel, by decide +kernel⟩

end Shipper

end LogShipper
