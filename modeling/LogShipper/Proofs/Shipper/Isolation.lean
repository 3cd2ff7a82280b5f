import LogShipper.Proofs.Record.Mapping
import LogShipper.Proofs.Shipper.Standing

/-!
# Batches that do not touch each other

What a running shipper sends for a batch, and how it fails with one, is told by its settings, its
session and the records alone, whatever was put before and whatever became of it.  A batch leaves a
shipper behind that treats all later batches as if that batch had never been put.
-/

namespace LogShipper

/-! ## 1. Clients for the settings -/

namespace Client

variable {config : Config} {client : Client} {url : Text} {target : Url} {events : List Event}

theorem IsFor.parse (h : client.IsFor config) (hurl : Endpoint.ofJson config.url = .ok url)
    (htarget : Url.parse url = .ok target) : Url.parse client.url = .ok target := by
  obtain rfl : client.url = url := Except.ok.inj (h.url.symm.trans hurl)
  exact htarget

theorem IsFor.payload_eq (h : client.IsFor config) (events : List Event) :
    client.payload events = ⟨config.apiKey, client.session, events⟩ := by
  rw [payload, h.apiKey]

theorem IsFor.requestFor_eq (h : client.IsFor config) {body : Bytes}
    (hbody : (Payload.mk config.apiKey client.session events).serialize = .ok body) :
    (client.payload events).produce.fault = none ∧
      client.requestFor target events = ⟨target.toText, config.requestTimeout, body⟩ := by
  rw [← h.payload_eq] at hbody
  unfold Payload.serialize at hbody
  dsimp only at hbody
  split at hbody
  next hfault =>
    refine ⟨hfault, ?_⟩
    rw [requestFor, h.timeout, Except.ok.inj hbody]
  next => cases hbody

theorem IsFor.fault_eq (h : client.IsFor config) {fault : SerializationFault}
    (hfault : (Payload.mk config.apiKey client.session events).serialize = .error fault) :
    (client.payload events).produce.fault = some fault := by
  rw [← h.payload_eq] at hfault
  unfold Payload.serialize at hfault
  dsimp only at hfault
  split at hfault
  next => cases hfault
  next cause hcause =>
    obtain rfl := Except.error.inj hfault
    exact hcause

end Client

namespace Shipper

variable {config : Config} {shipper : Shipper} {services : Services} {records : List Record}
  {url : Text} {target : Url}

/-! ## 2. One batch -/

/-- What a put of a running shipper sends, and how it fails, by the settings, the session, the time
and the records.  The first record that is no object is the fault of a batch, which names it; other
batches make events.  To a server whose name is in ASCII exactly the payload of these events is
sent, if it can be written.  To any other server nothing is sent. -/
structure Alone (config : Config) (target : Url) (session : Text) (time : TimeOfDay)
    (records : List Record) (result : Except ShipperFault Unit) (sent : List Request) : Prop where
  notObject : ∀ before record after, records = before ++ record :: after →
    (∀ earlier ∈ before, earlier.IsObject) → ¬ record.IsObject →
      sent = [] ∧ result = .error (.mapping (.notObject record)) ∧ record.IsNamed
  objects : (∀ record ∈ records, record.IsObject) →
    ∃ events, (Record.toEvents config.fields time records).1 = .ok events ∧
      (target.server.isAscii = true →
        (∀ body, (Payload.mk config.apiKey session events).serialize = .ok body →
          sent = [⟨target.toText, config.requestTimeout, body⟩]) ∧
        (∀ fault, (Payload.mk config.apiKey session events).serialize = .error fault →
          sent = [] ∧ result = .error (.client (.serialization fault)))) ∧
      (target.server.isAscii = false →
        sent = [] ∧ ∃ fault, result = .error (.client (.unsendableHost fault)))

theorem sentBy_of_silent {step : ShipperStep}
    (h : step.services.transport = services.transport) : sentBy services step = [] := by
  rw [sentBy, h, List.drop_length]

theorem sentBy_of_sent {step : ShipperStep} {request : Request}
    (h : step.services.transport.sent = services.transport.sent ++ [request]) :
    sentBy services step = [request] := by
  rw [sentBy, h, List.drop_left]

theorem alone_put {client : Client} (hstands : shipper.Stands config)
    (hnames : config.fields.AreTexts) (hurl : Endpoint.ofJson config.url = .ok url)
    (htarget : Url.parse url = .ok target) (hrunning : shipper.isRunning = true)
    (hclient : shipper.client = some client) (hbatch : records ≠ [])
    (hsize : ∀ record ∈ records, record.value.hasOversized = false) :
    Alone config target client.session services.timeOfDay records
      (shipper.put records services).result
      (sentBy services (shipper.put records services)) := by
  obtain ⟨hfor, hclosed⟩ := hstands.client client hclient
  have hopen : client.isClosed = false := hclosed.trans (isRunning_iff.1 hrunning).1
  have hparse := hfor.parse hurl htarget
  have hput : shipper.put records services = _ := put_of_isRunning hrunning hclient hbatch
  rw [hstands.settings] at hput
  refine ⟨?_, ?_⟩
  · intro before record after hrecords hbefore hrecord
    -- The first record that is no object is the one that is reported.
    have hsmall : ∀ earlier ∈ before, earlier.value.hasOversized = false := by
      intro earlier hmem
      apply hsize
      rw [hrecords]
      exact List.mem_append_left _ hmem
    have hfault :
        (Record.toEvents config.fields services.timeOfDay (before ++ record :: after)).1 = _ :=
      Record.toEvents_of_not_isObject hnames _ hbefore hsmall hrecord
    rw [hrecords, hfault] at hput
    rw [hrecords, hput]
    exact ⟨sentBy_of_silent (fail_transport ..), fail_result .., record.message_notObject⟩
  · intro hobjects
    obtain ⟨events, hevents⟩ := Record.exists_toEvents hnames services.timeOfDay
      fun record hmem => ⟨hsize record hmem, hobjects record hmem⟩
    rw [hevents] at hput
    dsimp only at hput
    refine ⟨events, hevents, fun hserver => ⟨fun body hbody => ?_, fun fault hfault => ?_⟩,
      fun hserver => ?_⟩
    · -- The host can be written, and so can the events: the request is sent.
      obtain ⟨hpayload, hrequest⟩ : _ ∧ client.requestFor target events = _ :=
        hfor.requestFor_eq hbody
      have hlog : client.log events services.transport = _ :=
        Client.log_of_sent hopen (Client.target_of_isAscii hparse hserver) hpayload
      rw [hput]
      apply sentBy_of_sent
      rw [transport_deliver, Services.transport_afterMapping, hlog, hrequest]
    · have hlog : client.log events services.transport = _ :=
        Client.log_of_unserializable hopen (Client.target_of_isAscii hparse hserver)
          (hfor.fault_eq hfault)
      rw [hput]
      refine ⟨sentBy_of_silent ?_, deliver_of_error _ _ _ _ ?_⟩
      · rw [transport_deliver, Services.transport_afterMapping, hlog]
      · rw [Services.transport_afterMapping, hlog]
    · obtain ⟨fault, hhost⟩ := Client.target_of_not_isAscii hparse hserver
      have hlog : client.log events services.transport = _ :=
        Client.log_of_untargeted hopen hhost
      rw [hput]
      refine ⟨sentBy_of_silent ?_, fault, deliver_of_error _ _ _ _ ?_⟩
      · rw [transport_deliver, Services.transport_afterMapping, hlog]
      · rw [Services.transport_afterMapping, hlog]

/-! ## 3. Later batches -/

/-- Shippers that agree go through the same batches alike. -/
theorem history_congr {a b : Shipper} (h : a.Agrees b) (services : Services)
    (batches : List (List Record)) :
    (a.history services (batches.map .put)).1 = (b.history services (batches.map .put)).1 ∧
      (a.history services (batches.map .put)).2.2 =
        (b.history services (batches.map .put)).2.2 := by
  induction batches generalizing a b services with
  | nil => exact ⟨rfl, rfl⟩
  | cons batch batches ih =>
    obtain ⟨hresult, hservices⟩ := put_congr h batch services
    have hafter : (a.put batch services).shipper.Agrees (b.put batch services).shipper :=
      ((agrees_put a batch services).trans h).trans (agrees_put b batch services).symm
    obtain ⟨hevents, hfinal⟩ := ih hafter (b.put batch services).services
    simp only [List.map_cons, history, eventOf_eq, perform, h.isRunning, hresult, hservices, sentBy]
    exact ⟨congrArg _ hevents, hfinal⟩

/-! ## 4. At any time -/

/-- Whatever was called on a shipper that runs, it treats a batch by its settings, its session and
the records alone, and treats all later batches as if that one had never been put. -/
theorem life_put_alone {services : Services} (calls : List ShipperCall) (records : List Record)
    (hnames : config.fields.AreTexts) (hurl : Endpoint.ofJson config.url = .ok url)
    (htarget : Url.parse url = .ok target)
    (hrunning : (life config services calls).2.1.isRunning = true) (hbatch : records ≠ [])
    (hsize : ∀ record ∈ records, record.value.hasOversized = false) :
    let shipper := (life config services calls).2.1
    let now := (life config services calls).2.2
    let step := shipper.put records now
    (∃ session, shipper.session? = some session ∧
      Alone config target session now.timeOfDay records step.result (sentBy now step)) ∧
    ∀ (surroundings : Services) (later : List (List Record)),
      (step.shipper.history surroundings (later.map .put)).1 =
          (shipper.history surroundings (later.map .put)).1 ∧
        (step.shipper.history surroundings (later.map .put)).2.2 =
          (shipper.history surroundings (later.map .put)).2.2 := by
  intro shipper now step
  have hstands : shipper.Stands config := stands_life config services calls
  obtain ⟨-, client, hclient⟩ := isRunning_iff.1 hrunning
  refine ⟨⟨client.session, ?_, ?_⟩, ?_⟩
  · exact congrArg (Option.map Client.session) hclient
  · exact alone_put hstands hnames hurl htarget hrunning hclient hbatch hsize
  · intro surroundings later
    exact history_congr (agrees_put shipper records now) surroundings later

def objectAt (offset : Int) (topic : Text) : Record :=
  ⟨topic, 0, offset, .object [], none⟩

def nullAt (offset : Int) : Record :=
  ⟨"t", 0, offset, .null, none⟩

/-- A batch that is accepted, one with a record that is no object, one that cannot be written, and
one that is refused. -/
def mixedCalls : List ShipperCall := [
  .start, .put [objectAt 0 "t"], .put [nullAt 1], .put [objectAt 2 [.surrogate 0]],
  .put [objectAt 3 "t"]]

def configTo (url : Text) : Config where
  url := .text url
  apiKey := "k"

def mixedLife (url : Text) : List ShipperEvent × Shipper × Services :=
  life (configTo url) sampleServices mixedCalls

def mixedPut (url : Text) (records : List Record) : ShipperStep :=
  (mixedLife url).2.1.put records (mixedLife url).2.2

/-- After these calls a batch of one object is sent, and one whose last record is no object is not.
A server whose name is not in ASCII gets nothing. -/
theorem sample_alone :
    (∃ body, sentBy (mixedLife "https://a.b").2.2 (mixedPut "https://a.b" [objectAt 4 "t"]) =
      [⟨"https://a.b/addEvents", none, body⟩]) ∧
    (mixedPut "https://a.b" [objectAt 4 "t", nullAt 5]).result =
      .error (.mapping (.notObject (nullAt 5))) ∧
    sentBy (mixedLife "https://[fe80::1%é]").2.2
      (mixedPut "https://[fe80::1%é]" [objectAt 4 "t"]) = [] := by
  have hnames (url : Text) : (configTo url).fields.AreTexts := ⟨_, _, _, _, rfl⟩
  have hobject : (objectAt 4 "t").IsObject := ⟨_, rfl⟩
  have hnull : ¬ (nullAt 5).IsObject := by
    rintro ⟨members, hmembers⟩
    cases hmembers
  have hplain : Url.parse "https://a.b/addEvents" =
      .ok ⟨"https", [], "a.b", none, "/addEvents", none, none⟩ := by decide +kernel
  have hzoned : Url.parse "https://[fe80::1%é]/addEvents" =
      .ok ⟨"https", [], "fe80::1%é", none, "/addEvents", none, none⟩ := by decide +kernel
  have hrunning : (mixedLife "https://a.b").2.1.isRunning = true := by decide +kernel
  have haccepted : (mixedPut "https://a.b" [objectAt 4 "t"]).result.isOk = true := by decide +kernel
  have hzonedRuns : (mixedLife "https://[fe80::1%é]").2.1.isRunning = true := by decide +kernel
  refine ⟨?_, ?_, ?_⟩
  · obtain ⟨⟨session, -, halone⟩, -⟩ :=
      life_put_alone mixedCalls [objectAt 4 "t"] (hnames _) rfl hplain hrunning
        (List.cons_ne_nil _ _) (by decide +kernel)
    obtain ⟨events, -, hsent, -⟩ := halone.objects (List.forall_mem_singleton.2 hobject)
    obtain ⟨hwritten, hunwritten⟩ := hsent (by decide +kernel)
    cases hbody : (Payload.mk "k" session events).serialize with
    | ok body => exact ⟨body, hwritten body hbody⟩
    | error fault =>
      obtain ⟨-, hfailed⟩ := hunwritten fault hbody
      have hrefused : (mixedPut "https://a.b" [objectAt 4 "t"]).result = _ := hfailed
      rw [hrefused] at haccepted
      cases haccepted
  · obtain ⟨⟨session, -, halone⟩, -⟩ :=
      life_put_alone mixedCalls [objectAt 4 "t", nullAt 5] (hnames _) rfl hplain hrunning
        (List.cons_ne_nil _ _) (by decide +kernel)
    exact (halone.notObject [objectAt 4 "t"] (nullAt 5) [] rfl
      (List.forall_mem_singleton.2 hobject) hnull).2.1
  · obtain ⟨⟨session, -, halone⟩, -⟩ :=
      life_put_alone mixedCalls [objectAt 4 "t"] (hnames _) rfl hzoned hzonedRuns
        (List.cons_ne_nil _ _) (by decide +kernel)
    obtain ⟨events, -, -, hunsent⟩ := halone.objects (List.forall_mem_singleton.2 hobject)
    exact (hunsent (by decide +kernel)).1

end Shipper

end LogShipper
