import LogShipper.Proofs.Metrics.Snapshot
import LogShipper.Proofs.Record.Mapping
import LogShipper.Proofs.Shipper.Standing

/-!
# The life of a shipper

A shipper is started at most once, runs until it is stopped, and stays stopped.  What it may do at a
moment follows from the calls so far: whether one of them started it, and whether one of them was a
stop.  All that it sends is sent by puts between the two, in one session.
-/

namespace LogShipper

/-! ## 1. Notices -/

/-- Whether a notice shows the last metrics. -/
def Notice.isFinal : Notice → Bool
  | .finalMetrics _ => true
  | _ => false

/-- Whether a notice tells what becomes of a batch, or that a signal arrives meanwhile. -/
def Notice.isOfBatch : Notice → Bool
  | .batchUnmappable .. | .batchFailed .. | .batchSent .. | .signalReceived _ => true
  | _ => false

namespace Services

/-- Some notices were reported, all of which are of one kind. -/
def Reports (kind : Notice → Prop) (before after : Services) : Prop :=
  ∃ new, after.notices = before.notices ++ new ∧ ∀ notice ∈ new, kind notice

/-- Some notices were reported, none of which shows the last metrics. -/
def Quiet (before after : Services) : Prop :=
  ∃ new, after.notices = before.notices ++ new ∧ ∀ notice ∈ new, notice.isFinal = false

variable {kind other : Notice → Prop} {before between after : Services}

theorem Reports.of_notices (h : after.notices = before.notices) : Reports kind before after := by
  refine ⟨[], ?_, List.forall_mem_nil _⟩
  rw [h, List.append_nil]

theorem Reports.of_report {notice : Notice} (hnotice : kind notice)
    (h : after.notices = before.notices ++ [notice]) : Reports kind before after :=
  ⟨[notice], h, List.forall_mem_singleton.2 hnotice⟩

theorem Reports.trans (h : Reports kind before between) (h' : Reports kind between after) :
    Reports kind before after := by
  obtain ⟨new, hnew, hkind⟩ := h
  obtain ⟨new', hnew', hkind'⟩ := h'
  refine ⟨new ++ new', ?_, ?_⟩
  · rw [hnew', hnew, List.append_assoc]
  · rw [List.forall_mem_append]
    exact ⟨hkind, hkind'⟩

theorem Reports.mono (h : Reports kind before after)
    (hkind : ∀ notice, kind notice → other notice) : Reports other before after := by
  obtain ⟨new, hnew, hall⟩ := h
  exact ⟨new, hnew, fun notice hmem => hkind notice (hall notice hmem)⟩

theorem Quiet.exists_new (h : Quiet before after) (P : Prop) :
    ∃ new, after.notices = before.notices ++ new ∧
      ∀ notice ∈ new, notice.isFinal = true → P := by
  obtain ⟨new, hnew, hnone⟩ := h
  refine ⟨new, hnew, fun notice hmem hfinal => ?_⟩
  rw [hnone notice hmem] at hfinal
  cases hfinal

end Services

theorem Notice.isFinal_of_isOfBatch {notice : Notice} (h : notice.isOfBatch = true) :
    notice.isFinal = false := by
  cases notice <;> first | rfl | cases h

namespace Shipper

variable {config : Config} {shipper : Shipper} {services : Services} {records : List Record}

/-- What a put reports is about its batch. -/
abbrev ReportsBatch (before after : Services) : Prop :=
  before.Reports (·.isOfBatch = true) after

theorem reports_fail (countedAs? : Option Text) {notice : Notice} (fault : ShipperFault)
    (hnotice : notice.isOfBatch = true) :
    ReportsBatch services (shipper.fail services countedAs? notice fault).services := by
  cases countedAs? with
  | none => exact .of_notices rfl
  | some kind => exact .of_report hnotice rfl

theorem reports_servicesAfter (services : Services) (logged : Client.Logged) :
    ReportsBatch services (servicesAfter services logged) := by
  unfold servicesAfter
  cases logged.signal with
  | none => exact .of_notices rfl
  | some signal =>
    have hnotice : (Notice.signalReceived signal).isOfBatch = true := rfl
    exact .of_report hnotice rfl

theorem isOfBatch_sentNotice? {count bytes : Nat} {millis : Number} {notice : Notice}
    (h : notice ∈ (sentNotice? count bytes millis).toList) : notice.isOfBatch = true := by
  rw [Option.mem_toList] at h
  unfold sentNotice? at h
  split at h
  · cases h
  · obtain rfl := Option.some.inj h
    rfl

theorem reports_succeed (shipper : Shipper) (services : Services) (count bytes : Nat)
    (began : Number) :
    ReportsBatch services (shipper.succeed services count bytes began).services := by
  rcases succeed_cases shipper services count bytes began with ⟨fault, h⟩ | ⟨millis, h⟩
  · rw [h]
    exact .of_notices rfl
  · rw [h]
    exact ⟨_, Services.notices_report? _ _, fun _ hmem => isOfBatch_sentNotice? hmem⟩

theorem reports_deliver (shipper : Shipper) (client : Client) (events : List Event)
    (services : Services) :
    ReportsBatch services (shipper.deliver client events services).services := by
  rw [deliver_eq]
  dsimp only
  split
  · exact (reports_servicesAfter services _).trans (reports_fail _ _ rfl)
  · exact (reports_servicesAfter services _).trans (reports_succeed ..)

theorem reports_put (shipper : Shipper) (records : List Record) (services : Services) :
    ReportsBatch services (shipper.put records services).services := by
  have hbranch := branch_put shipper records services
  generalize shipper.put records services = step at hbranch
  cases hbranch with
  | refused hidle => exact .of_notices rfl
  | passed hrunning hempty => exact .of_notices rfl
  | unmappable hrunning hbatch hevents => exact reports_fail _ _ rfl
  | delivered hrunning hbatch hclient hevents => exact reports_deliver ..

theorem quiet_put (shipper : Shipper) (records : List Record) (services : Services) :
    services.Quiet (shipper.put records services).services :=
  (reports_put shipper records services).mono fun _ => Notice.isFinal_of_isOfBatch

theorem quiet_start (shipper : Shipper) (services : Services) :
    services.Quiet (shipper.start services).services := by
  have hstart := start_cases shipper services
  generalize shipper.start services = step at hstart
  cases hstart with
  | refused hbefore => exact Services.Reports.of_notices rfl
  | failed hclient hstopped hurl => exact Services.Reports.of_notices rfl
  | @started hclient hstopped url hurl =>
    have hnotice : (Notice.shipperStarted url services.sessions.take.1).isFinal = false := rfl
    exact Services.Reports.of_report hnotice rfl

theorem quiet_of_notices {before after : Services} (h : after.notices = before.notices) :
    before.Quiet after :=
  Services.Reports.of_notices h

/-- Only a stop that stops the shipper reports the last metrics. -/
theorem notices_perform (shipper : Shipper) (services : Services) (call : ShipperCall) :
    ∃ new, (shipper.perform services call).services.notices = services.notices ++ new ∧
      ∀ notice ∈ new, notice.isFinal = true → call = .stop ∧ shipper.isStopped = false := by
  cases call with
  | start => exact (quiet_start shipper services).exists_new _
  | put records => exact (quiet_put shipper records services).exists_new _
  | snapshot => exact (quiet_of_notices rfl).exists_new _
  | stop =>
    have hstop := stop_cases shipper services
    show ∃ new, (shipper.stop services).services.notices = services.notices ++ new ∧ _
    generalize shipper.stop services = step at hstop
    cases hstop with
    | again hstopped => exact (quiet_of_notices rfl).exists_new _
    | unmeasured hstopped clock => exact (quiet_of_notices rfl).exists_new _
    | measured hstopped notice? clock =>
      exact ⟨_, Services.notices_report? _ notice?, fun _ _ _ => ⟨rfl, hstopped⟩⟩

/-! ## 2. Answers -/

theorem start_refused_iff : (shipper.start services).result = .error .startedBefore ↔
    shipper.client.isSome = true ∨ shipper.isStopped = true := by
  have hstart := start_cases shipper services
  generalize shipper.start services = step at hstart
  cases hstart with
  | refused hbefore => exact iff_of_true rfl hbefore
  | failed hclient hstopped hurl => simp [hclient, hstopped]
  | started hclient hstopped hurl => simp [hclient, hstopped]

/-- A start that fails changes nothing. -/
theorem start_of_error {fault : ShipperFault}
    (h : (shipper.start services).result = .error fault) :
    (shipper.start services).shipper = shipper ∧
      (shipper.start services).services = services := by
  have hstart := start_cases shipper services
  generalize shipper.start services = step at h hstart
  cases hstart with
  | refused hbefore => exact ⟨rfl, rfl⟩
  | failed hclient hstopped hurl => exact ⟨rfl, rfl⟩
  | started hclient hstopped hurl => cases h

/-- A put is refused exactly by a shipper that does not run, and a running one has a client that is
not closed. -/
theorem put_answers (hstands : shipper.Stands config) (records : List Record)
    (services : Services) :
    ((shipper.put records services).result = .error .notRunning ↔ shipper.isRunning = false) ∧
      (shipper.put records services).result ≠ .error (.client .closed) := by
  have hbranch := branch_put shipper records services
  generalize shipper.put records services = step at hbranch
  cases hbranch with
  | refused hidle => simp [hidle]
  | passed hrunning hempty => simp [hrunning]
  | unmappable hrunning hbatch hevents => simp [hrunning]
  | @delivered hrunning hbatch client events hclient hevents =>
    have hopen : client.isClosed = false :=
      (hstands.client client hclient).2.trans (isRunning_iff.1 hrunning).1
    -- What the client answers is handed on, unless the time cannot be shown.
    have hlog := Client.log_ne_closed hopen events services.transport
    cases hresult : (client.log events services.transport).result with
    | error fault =>
      have hne : fault ≠ .closed := by
        rintro rfl
        exact hlog hresult
      have hdeliver : (shipper.deliver client events
          (services.afterMapping shipper.config.fields records)).result = .error (.client fault) :=
        deliver_of_error _ _ _ _ hresult
      simp [hdeliver, hrunning, hne]
    | ok response =>
      rcases deliver_of_ok shipper (services.afterMapping shipper.config.fields records) client
        events hresult with h | ⟨fault, h⟩
      · simp [h, hrunning]
      · simp [h, hrunning]

/-! ## 3. Requests and sessions -/

theorem start_transport : (shipper.start services).services.transport = services.transport := by
  have hstart := start_cases shipper services
  generalize shipper.start services = step at hstart
  cases hstart <;> rfl

theorem exists_sent_of_silent {before after : Services} (h : after.transport = before.transport)
    (P : Request → Prop) :
    ∃ sent, after.transport.sent = before.transport.sent ++ sent ∧ ∀ request ∈ sent, P request := by
  refine ⟨[], ?_, List.forall_mem_nil _⟩
  rw [h, List.append_nil]

/-- Only puts of a running shipper send requests, and these name its session. -/
theorem sends_perform (shipper : Shipper) (services : Services) (call : ShipperCall) :
    ∃ sent, (shipper.perform services call).services.transport.sent =
        services.transport.sent ++ sent ∧
      ∀ request ∈ sent, (∃ records, call = .put records) ∧ shipper.isRunning = true ∧
        ∃ session, shipper.session? = some session ∧
          request.session? = some (.text session) := by
  cases call with
  | start => exact exists_sent_of_silent start_transport _
  | stop => exact exists_sent_of_silent stop_transport _
  | snapshot => exact exists_sent_of_silent rfl _
  | put records =>
    rcases put_sends shipper records services with
      ⟨h, -⟩ | ⟨client, target, events, hrunning, hclient, -, hpayload, hsent⟩
    · exact exists_sent_of_silent h _
    · refine ⟨[client.requestFor target events], ?_, ?_⟩
      · show (shipper.put records services).services.transport.sent = _
        rw [hsent]
      · rw [List.forall_mem_singleton]
        -- The body of the request is read again, and names the session of the client.
        have hsession : (client.requestFor target events).session? = some (.text client.session) :=
          Client.session_requestFor hpayload
        refine ⟨⟨records, rfl⟩, hrunning, client.session, ?_, hsession⟩
        rw [session?, hclient]
        rfl

theorem session_perform {session : Text} (h : shipper.session? = some session)
    (services : Services) (call : ShipperCall) :
    (shipper.perform services call).shipper.session? = some session := by
  obtain ⟨client, hclient, rfl⟩ := Option.map_eq_some_iff.1 h
  cases call with
  | snapshot => exact h
  | put records =>
    have hagrees := agrees_put shipper records services
    exact hagrees.session?.trans h
  | start =>
    -- A shipper with a client is not started again.
    have hrefused : (shipper.start services).result = .error .startedBefore := by
      rw [start_refused_iff, hclient]
      exact .inl rfl
    have hsame := (start_of_error hrefused).1
    show (shipper.start services).shipper.session? = _
    rw [hsame]
    exact h
  | stop =>
    have hstop := stop_cases shipper services
    have hstopped : shipper.stopped.session? = some client.session := by
      rw [session?, stopped, hclient]
      rfl
    change Stop shipper services (shipper.perform services .stop) at hstop
    generalize shipper.perform services .stop = step at hstop ⊢
    cases hstop with
    | again _ => exact h
    | unmeasured _ clock => exact hstopped
    | measured _ notice? clock => exact hstopped

end Shipper

/-! ## 4. What one call changes -/

namespace ShipperEvent

/-- Whether the call started the shipper. -/
def isStart (event : ShipperEvent) : Bool :=
  match event.call, event.result with
  | .start, .ok () => true
  | _, _ => false

def isStop (event : ShipperEvent) : Bool :=
  match event.call with
  | .stop => true
  | _ => false

end ShipperEvent

namespace Shipper

variable {config : Config} {before after shipper : Shipper} {services : Services}
  {event : ShipperEvent} {events : List ShipperEvent}

/-- What a call changes of a shipper and what it may send. -/
structure Moves (before : Shipper) (event : ShipperEvent) (after : Shipper) : Prop where
  started : after.client.isSome = (before.client.isSome || event.isStart)
  fresh : event.isStart = true → before.client = none
  stopped : after.isStopped = (before.isStopped || event.isStop)
  session : ∀ session, before.session? = some session → after.session? = some session
  sent : ∀ request ∈ event.sent, ∃ session, before.session? = some session ∧
    request.session? = some (.text session)

theorem moves_perform (shipper : Shipper) (services : Services) (call : ShipperCall) :
    Moves shipper (shipper.eventOf services call) (shipper.perform services call).shipper := by
  obtain ⟨sent, happended, hsent⟩ := sends_perform shipper services call
  have hsent : ∀ request ∈ sentBy services (shipper.perform services call),
      ∃ session, shipper.session? = some session ∧ request.session? = some (.text session) := by
    rw [sentBy, happended, List.drop_left]
    exact fun request hmem => (hsent request hmem).2.2
  have hsession := fun session h => @session_perform shipper session h services call
  rw [eventOf_eq]
  cases call with
  | snapshot => exact ⟨(Bool.or_false _).symm, nofun, (Bool.or_false _).symm, hsession, hsent⟩
  | put records =>
    -- A put changes neither flag, whatever becomes of the batch.
    have hagrees := agrees_put shipper records services
    refine ⟨?_, nofun, ?_, hsession, hsent⟩
    · exact hagrees.isSome_client.trans (Bool.or_false _).symm
    · exact hagrees.isStopped.trans (Bool.or_false _).symm
  | start =>
    have hstart := start_cases shipper services
    change Start shipper services (shipper.perform services .start) at hstart
    generalize shipper.perform services .start = step at hstart hsession hsent ⊢
    cases hstart with
    | refused hbefore =>
      exact ⟨(Bool.or_false _).symm, nofun, (Bool.or_false _).symm, hsession, hsent⟩
    | failed hclient hstopped hurl =>
      exact ⟨(Bool.or_false _).symm, nofun, (Bool.or_false _).symm, hsession, hsent⟩
    | started hclient hstopped hurl =>
      exact ⟨(Bool.or_true _).symm, fun _ => hclient, (Bool.or_false _).symm, hsession, hsent⟩
  | stop =>
    have hstop := stop_cases shipper services
    have hclient : shipper.stopped.client.isSome = (shipper.client.isSome || false) := by
      rw [stopped, Option.isSome_map, Bool.or_false]
    change Stop shipper services (shipper.perform services .stop) at hstop
    generalize shipper.perform services .stop = step at hstop hsession hsent ⊢
    cases hstop with
    | again hstopped =>
      refine ⟨(Bool.or_false _).symm, nofun, ?_, hsession, hsent⟩
      rw [hstopped]
      rfl
    | unmeasured _ clock => exact ⟨hclient, nofun, (Bool.or_true _).symm, hsession, hsent⟩
    | measured _ notice? clock => exact ⟨hclient, nofun, (Bool.or_true _).symm, hsession, hsent⟩

/-! ## 5. The life so far -/

/-- A shipper after some calls: it has a client if one of them started it, which happened at most
once, it is stopped if one of them was a stop, and all that was sent names its session. -/
structure Follows (events : List ShipperEvent) (shipper : Shipper) : Prop where
  started : shipper.session?.isSome = events.any ShipperEvent.isStart
  stopped : shipper.isStopped = events.any ShipperEvent.isStop
  once : events.countP ShipperEvent.isStart ≤ 1
  sent : ∀ event ∈ events, ∀ request ∈ event.sent, ∃ session, shipper.session? = some session ∧
    request.session? = some (.text session)

theorem isSome_session? (shipper : Shipper) : shipper.session?.isSome = shipper.client.isSome :=
  Option.isSome_map

theorem Follows.add (h : Follows events before) (hmoves : Moves before event after) :
    Follows (events ++ [event]) after where
  started := by
    rw [isSome_session?, hmoves.started, ← isSome_session?, h.started, List.any_append,
      List.any_cons, List.any_nil, Bool.or_false]
  stopped := by
    rw [hmoves.stopped, h.stopped, List.any_append, List.any_cons, List.any_nil, Bool.or_false]
  once := by
    rw [List.countP_append, List.countP_singleton]
    by_cases hstart : event.isStart = true
    · -- A shipper that is started was not started before.
      have hnone : events.any ShipperEvent.isStart = false := by
        rw [← h.started, isSome_session?, hmoves.fresh hstart]
        rfl
      have hcount : events.countP ShipperEvent.isStart = 0 := by
        rw [List.countP_eq_zero]
        exact fun earlier hmem => List.any_eq_false.1 hnone earlier hmem
      rw [hcount, if_pos hstart]
    · rw [if_neg hstart]
      exact h.once
  sent := by
    rw [List.forall_mem_append, List.forall_mem_singleton]
    constructor
    · intro earlier hmem request hrequest
      obtain ⟨session, hsession, hnamed⟩ := h.sent earlier hmem request hrequest
      exact ⟨session, hmoves.session session hsession, hnamed⟩
    · intro request hrequest
      obtain ⟨session, hsession, hnamed⟩ := hmoves.sent request hrequest
      exact ⟨session, hmoves.session session hsession, hnamed⟩

theorem follows_life (config : Config) (services : Services) (calls : List ShipperCall) :
    Follows (life config services calls).1 (life config services calls).2.1 := by
  apply life_induction (fun events shipper _ => Follows events shipper)
  · exact ⟨rfl, rfl, Nat.zero_le 1, List.forall_mem_nil _⟩
  · intro events shipper services call h
    exact h.add (moves_perform shipper services call)

end Shipper

/-! ## 6. Sizes -/

/-- The number of records that a call put. -/
def ShipperEvent.recordCount (event : ShipperEvent) : Nat :=
  match event.call with
  | .put records => records.length
  | _ => 0

namespace Shipper

variable {config : Config} {shipper : Shipper} {services : Services} {records : List Record}
  {metrics : Metrics} {puts events bytes : Nat}

/-- The clock gives floating point readings, and what was put and sent fits in memory: fewer than
2 ^ 63 calls were made, each with fewer than 2 ^ 63 records and bytes. -/
structure FitsMemory (services : Services) (events : List ShipperEvent) : Prop where
  clock : services.clock.IsReal
  length : events.length < 2 ^ 63
  recordCount : ∀ event ∈ events, event.recordCount < 2 ^ 63
  byteCount : ∀ event ∈ events, event.byteCount < 2 ^ 63

theorem isWithin_elim (h : metrics.IsWithin puts events bytes) (kind? : Option Text)
    (moreEvents moreBytes : Nat) :
    (kind?.elim metrics metrics.recordFailure).IsWithin (puts + 1) (events + moreEvents)
      (bytes + moreBytes) := by
  have hfailed : (kind?.elim metrics metrics.recordFailure).IsWithin (puts + 1) events bytes := by
    cases kind? with
    | none => exact h.mono (Nat.le_succ puts) (Nat.le_refl _) (Nat.le_refl _)
    | some kind => exact h.recordFailure kind
  exact hfailed.mono (Nat.le_refl _) (Nat.le_add_right ..) (Nat.le_add_right ..)

theorem isWithin_put (hclock : services.clock.IsReal)
    (h : shipper.metrics.IsWithin puts events bytes) (records : List Record) :
    (shipper.put records services).shipper.metrics.IsWithin (puts + 1) (events + records.length)
      (bytes + (shipper.eventOf services (.put records)).byteCount) := by
  have hput := put_cases shipper records hclock
  rw [eventOf_eq, perform]
  generalize shipper.put records services = step at hput
  cases hput with
  | refused hidle => exact isWithin_elim h none _ _
  | passed hrunning hempty => exact isWithin_elim h none _ _
  | unmappable hrunning hbatch hevents notice =>
    rw [fail_metrics]
    exact isWithin_elim h _ _ _
  | failed hrunning hbatch hclient hevents hlogged hresult notice =>
    rw [fail_metrics]
    exact isWithin_elim h _ _ _
  | @sent hrunning hbatch client batch logged response hclient hevents hlogged hresult millis
      notice =>
    subst hlogged
    obtain ⟨target, hfault, hsent, hbytes⟩ := Client.sent_of_log hresult
    have hlength : batch.length = records.length :=
      (Record.forall₂_of_toEvents hevents).length_eq.symm
    -- The bytes that are counted are those of the one request that was sent.
    have hcount : ShipperEvent.byteCount ⟨.put records, shipper.isRunning, .ok (),
        (client.log batch services.transport).transport.sent.drop
          services.transport.sent.length⟩ =
        (client.log batch services.transport).client.lastPayloadBytes := by
      rw [ShipperEvent.byteCount, hsent, List.drop_left, hbytes]
      exact Nat.add_zero _
    have hnext := h.recordBatch batch.length
      (client.log batch services.transport).client.lastPayloadBytes millis
    rw [hlength] at hnext
    simp only [sentBy, Services.transport_report, transport_servicesAfter, hcount, hlength]
    exact hnext

theorem isWithin_perform (hclock : services.clock.IsReal)
    (h : shipper.metrics.IsWithin puts events bytes) (call : ShipperCall) :
    (shipper.perform services call).shipper.metrics.IsWithin (puts + 1)
      (events + (shipper.eventOf services call).recordCount)
      (bytes + (shipper.eventOf services call).byteCount) := by
  cases call with
  | put records => exact isWithin_put hclock h records
  | snapshot => exact isWithin_elim h none _ _
  | start =>
    rw [perform, start_metrics]
    exact isWithin_elim h none _ _
  | stop =>
    rw [perform, stop_metrics]
    exact isWithin_elim h none _ _

theorem isWithin_life (config : Config) {services : Services} (hclock : services.clock.IsReal)
    (calls : List ShipperCall) :
    (life config services calls).2.2.clock.IsReal ∧
      (life config services calls).2.1.metrics.IsWithin (life config services calls).1.length
        ((life config services calls).1.map ShipperEvent.recordCount).sum
        ((life config services calls).1.map ShipperEvent.byteCount).sum := by
  apply life_induction (fun events shipper services => services.clock.IsReal ∧
    shipper.metrics.IsWithin events.length (events.map ShipperEvent.recordCount).sum
      (events.map ShipperEvent.byteCount).sum)
  · exact ⟨hclock.read.2, .of_new hclock.read.1⟩
  · -- The clock stays real, which the time of the next batch needs.
    rintro events shipper services call ⟨hclock, hwithin⟩
    refine ⟨isReal_perform shipper hclock call, ?_⟩
    have hnext := isWithin_perform hclock hwithin call
    rw [List.length_append, List.map_append, List.map_append, List.sum_append, List.sum_append]
    simpa only [List.length_singleton, List.map_singleton, List.sum_singleton] using hnext

/-- A shipper whose calls fit in memory reports its last metrics when it is stopped. -/
theorem reports_stop (config : Config) (services : Services) (calls : List ShipperCall)
    (h : FitsMemory services (life config services calls).1)
    (hstopped : (life config services calls).2.1.isStopped = false) :
    ∃ snapshot, ((life config services calls).2.1.stop
        (life config services calls).2.2).services.notices =
      (life config services calls).2.2.notices ++ [.finalMetrics snapshot] := by
  obtain ⟨hclock, hwithin⟩ := isWithin_life config h.clock calls
  have hshowable : (life config services calls).2.1.metrics.IsShowable := by
    apply hwithin.isShowable h.length
    · apply Metrics.sum_lt
      · rw [List.length_map]
        exact h.length
      · exact List.forall_mem_map.2 h.recordCount
    · apply Metrics.sum_lt
      · rw [List.length_map]
        exact h.length
      · exact List.forall_mem_map.2 h.byteCount
  obtain ⟨snapshot, hstop, -⟩ := exists_stop_eq hshowable hclock hstopped
  exact ⟨snapshot, congrArg (fun step : ShipperStep => step.services.notices) hstop⟩

end Shipper

/-! ## 7. The next call -/

namespace Shipper

variable {config : Config} {shipper : Shipper} {services : Services}
  {events : List ShipperEvent}

/-- What the next call does, by the calls so far.  A start is refused after an earlier start or a
stop, and changes nothing if it fails.  A put is refused unless the shipper was started and not
stopped, and never for a closed client.  Only puts in between send requests, which name the session;
a session stays.  Only the first stop reports the last metrics. -/
structure Conducts (events : List ShipperEvent) (shipper : Shipper) (services : Services)
    (call : ShipperCall) (step : ShipperStep) : Prop where
  start_refused : call = .start → (step.result = .error .startedBefore ↔
    events.any ShipperEvent.isStart = true ∨ events.any ShipperEvent.isStop = true)
  start_failed : call = .start → ∀ fault, step.result = .error fault →
    step.shipper = shipper ∧ step.services = services
  put_refused : ∀ records, call = .put records → (step.result = .error .notRunning ↔
    ¬ (events.any ShipperEvent.isStart = true ∧ events.any ShipperEvent.isStop = false))
  put_open : ∀ records, call = .put records → step.result ≠ .error (.client .closed)
  sends : ∃ sent, step.services.transport.sent = services.transport.sent ++ sent ∧
    ∀ request ∈ sent, (∃ records, call = .put records) ∧
      (events.any ShipperEvent.isStart = true ∧ events.any ShipperEvent.isStop = false) ∧
      ∃ session, step.shipper.session? = some session ∧
        request.session? = some (.text session)
  session : ∀ session, shipper.session? = some session → step.shipper.session? = some session
  reports : ∃ new, step.services.notices = services.notices ++ new ∧
    ∀ notice ∈ new, notice.isFinal = true →
      call = .stop ∧ events.any ShipperEvent.isStop = false

theorem Follows.isRunning_iff (h : Follows events shipper) : shipper.isRunning = true ↔
    events.any ShipperEvent.isStart = true ∧ events.any ShipperEvent.isStop = false := by
  rw [Shipper.isRunning, ← isSome_session?, h.started, h.stopped, Bool.and_eq_true,
    Bool.not_eq_true']

theorem conducts_perform (hstands : shipper.Stands config) (h : Follows events shipper)
    (services : Services) (call : ShipperCall) :
    Conducts events shipper services call (shipper.perform services call) where
  start_refused := by
    rintro rfl
    -- The events tell whether the shipper was started or stopped before.
    rw [← h.started, ← h.stopped, isSome_session?]
    exact start_refused_iff
  start_failed := by
    rintro rfl fault hfault
    exact start_of_error hfault
  put_refused := by
    rintro records rfl
    rw [← h.isRunning_iff, Bool.not_eq_true]
    exact (put_answers hstands records services).1
  put_open := by
    rintro records rfl
    exact (put_answers hstands records services).2
  sends := by
    obtain ⟨sent, happended, hsent⟩ := sends_perform shipper services call
    refine ⟨sent, happended, fun request hmem => ?_⟩
    obtain ⟨hput, hrunning, session, hsession, hnamed⟩ := hsent request hmem
    exact ⟨hput, h.isRunning_iff.1 hrunning, session, session_perform hsession services call,
      hnamed⟩
  session session hsession := session_perform hsession services call
  reports := by
    obtain ⟨new, hnew, hfinal⟩ := notices_perform shipper services call
    rw [← h.stopped]
    exact ⟨new, hnew, hfinal⟩

/-- At every moment in the life of a shipper, whatever was called before, the next call is told by
which calls there were; and the first stop reports the last metrics. -/
theorem life_conducts (config : Config) (services : Services) (calls : List ShipperCall) :
    let events := (life config services calls).1
    let shipper := (life config services calls).2.1
    let now := (life config services calls).2.2
    Follows events shipper ∧
      (∀ call, Conducts events shipper now call (shipper.perform now call)) ∧
      (FitsMemory services events → events.any ShipperEvent.isStop = false →
        ∃ snapshot, (shipper.stop now).services.notices =
          now.notices ++ [.finalMetrics snapshot]) := by
  intro events shipper now
  have hfollows : Follows events shipper := follows_life config services calls
  have hstands : shipper.Stands config := stands_life config services calls
  refine ⟨hfollows, fun call => conducts_perform hstands hfollows now call, ?_⟩
  intro hfits hnone
  exact reports_stop config services calls hfits (hfollows.stopped.trans hnone)

/-- The sample up to its stop. -/
def runningLife : List ShipperEvent × Shipper × Services :=
  life { apiKey := "abc123" } sampleServices (sampleCalls.take 6)

theorem sample_conducts :
    (∃ snapshot, (runningLife.2.1.stop runningLife.2.2).services.notices =
      runningLife.2.2.notices ++ [.finalMetrics snapshot]) ∧
    (sampleLife.2.1.start sampleLife.2.2).result = .error .startedBefore := by
  have hfits : FitsMemory sampleServices runningLife.1 := {
    clock := ⟨⟨_, rfl⟩, nofun⟩
    length := by decide +kernel
    recordCount := by decide +kernel
    byteCount := by decide +kernel }
  have hnone : runningLife.1.any ShipperEvent.isStop = false := by decide +kernel
  have hstarted : sampleLife.1.any ShipperEvent.isStart = true := by decide +kernel
  constructor
  · unfold runningLife at hfits hnone ⊢
    exact (life_conducts _ _ _).2.2 hfits hnone
  · have hstart : Conducts sampleLife.1 sampleLife.2.1 sampleLife.2.2 .start _ :=
      (life_conducts { apiKey := "abc123" } sampleServices sampleCalls).2.1 .start
    exact (hstart.start_refused rfl).2 (.inl hstarted)

end Shipper

end LogShipper
