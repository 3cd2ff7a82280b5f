import LogShipper.Proofs.Run.Putting
import LogShipper.Proofs.Run.Supply
import Mathlib.Algebra.Group.Action.Defs
import Mathlib.Algebra.Order.BigOperators.Group.List

/-!
# Attempts of a run

Each attempt of a run to put a batch sends one request at most.  What a run has sent, which
answers it has used up, whether a signal has arrived and how large its metrics are all follow from
the attempts so far, and every further attempt keeps it so.
-/

namespace LogShipper

/-- What is expected of what surrounds a run: the clock counts in floating point numbers, nobody has
asked for a stop, and the server and the way to it do nothing out of the ordinary. -/
structure Services.AreOrdinary (services : Services) : Prop where
  clock : services.clock.IsReal
  stopRequested : services.stopRequested = false
  answers : ∀ answer ∈ services.transport.answers, answer.outcome.IsOrdinary

theorem Answer.isOrdinary_accepted : Answer.accepted.outcome.IsOrdinary :=
  Json.ne_tooDeep_of_isSome (by decide +kernel)

/-- The signal that arrives during a request, by the number of requests before it. -/
def Services.signalAt (services : Services) (place : Nat) : Option Signal :=
  (services.transport.answers.getD place .accepted).signal

namespace Run

/-! ## 1. Requests -/

/-- The requests that are sent for an attempt. -/
def requestsOf (attempt : Attempt State Record) : List Request :=
  (depot.put attempt.batch attempt.before).2.2.transport.sent.drop
    attempt.before.2.transport.sent.length

def requests (attempts : List (Attempt State Record)) : List Request :=
  attempts.flatMap requestsOf

variable {config : Config} {client : Client} {target : Url} {first : Services} {state : State}
  {attempt : Attempt State Record} {attempts : List (Attempt State Record)} {request : Request}

theorem requestsOf_of_silent
    (h : IsSilent attempt.before (depot.put attempt.batch attempt.before).2) :
    requestsOf attempt = [] := by
  rw [requestsOf, h.transport, List.drop_length]

theorem requestsOf_of_sends
    (h : Sends request attempt.before (depot.put attempt.batch attempt.before).2) :
    requestsOf attempt = [request] := by
  rw [requestsOf, h.transport, List.drop_left]

theorem requests_append (attempts : List (Attempt State Record)) (last : Attempt State Record) :
    requests (attempts ++ [last]) = requests attempts ++ requestsOf last := by
  rw [requests, List.flatMap_append, List.flatMap_singleton, requests]

/-- An attempt to put a batch that makes events. -/
def Puts (config : Config) (client : Client) (target : Url) (attempt : Attempt State Record) :
    Prop :=
  ∃ events,
    (Record.toEvents config.fields attempt.before.2.timeOfDay attempt.batch).1 = .ok events ∧
    Putting client target events attempt.before (depot.put attempt.batch attempt.before)

/-! ## 2. What is kept while shipping -/

/-- How a state came about from the services of the first one by some attempts. -/
structure Kept (config : Config) (client : Client) (target : Url) (first : Services)
    (state : State) (attempts : List (Attempt State Record)) : Prop where
  ready : IsReady config client state
  puts : ∀ attempt ∈ attempts, Puts config client target attempt
  timeOfDay : state.2.timeOfDay = Record.timeAfter first.timeOfDay (Attempt.items attempts)
  times : ∀ before attempt after, attempts = before ++ attempt :: after →
    attempt.before.2.timeOfDay = Record.timeAfter first.timeOfDay (Attempt.items before)
  transport : state.2.transport = ⟨first.transport.answers.drop (requests attempts).length,
    first.transport.sent ++ requests attempts⟩
  stopRequested : state.2.stopRequested = true ↔
    ∃ place < (requests attempts).length, (first.signalAt place).isSome = true
  quiet : ∀ place, place + 1 < (requests attempts).length → first.signalAt place = none
  metrics : state.1.metrics.IsWithin attempts.length (Attempt.items attempts).length
    ((requests attempts).map fun request => request.body.length).sum

theorem Kept.report (h : Kept config client target first state attempts) (notice : Notice) :
    Kept config client target first (state.1, state.2.report notice) attempts where
  ready := ⟨h.ready.config, h.ready.isStopped, h.ready.client, h.ready.clock⟩
  puts := h.puts
  timeOfDay := h.timeOfDay
  times := h.times
  transport := h.transport
  stopRequested := h.stopRequested
  quiet := h.quiet
  metrics := h.metrics

theorem Kept.headD_answers (h : Kept config client target first state attempts) :
    state.2.transport.answers.headD .accepted =
      first.transport.answers.getD (requests attempts).length .accepted := by
  rw [h.transport]
  simp [List.headD_eq_head?_getD, List.getD_eq_getElem?_getD]

theorem Kept.signalAt_eq_none (h : Kept config client target first state attempts)
    (hgoing : state.2.stopRequested = false) {place : Nat}
    (hplace : place < (requests attempts).length) : first.signalAt place = none := by
  by_contra hsignal
  have hstop := h.stopRequested.2 ⟨place, hplace, Option.isSome_iff_ne_none.2 hsignal⟩
  rw [hgoing] at hstop
  cases hstop

theorem mem_append_puts (h : Kept config client target first state attempts)
    (hlast : Puts config client target attempt) :
    ∀ a ∈ attempts ++ [attempt], Puts config client target a := by
  intro a ha
  rcases List.mem_append.1 ha with ha | ha
  · exact h.puts a ha
  · rw [List.mem_singleton.1 ha]
    exact hlast

theorem Kept.timeOfDay_put (h : Kept config client target first attempt.before attempts)
    (hlast : Puts config client target attempt) :
    (depot.put attempt.batch attempt.before).2.2.timeOfDay =
      Record.timeAfter first.timeOfDay (Attempt.items (attempts ++ [attempt])) := by
  obtain ⟨events, hevents, -⟩ := hlast
  have htime := Shipper.timeOfDay_put h.ready.isRunning attempt.batch attempt.before.2
  rw [h.ready.config, Record.time_of_toEvents hevents, h.timeOfDay] at htime
  rw [Attempt.items_append, Record.timeAfter_append]
  exact htime

theorem Kept.times_append (h : Kept config client target first attempt.before attempts)
    (before : List (Attempt State Record)) (a : Attempt State Record)
    (after : List (Attempt State Record)) (hsplit : attempts ++ [attempt] = before ++ a :: after) :
    a.before.2.timeOfDay = Record.timeAfter first.timeOfDay (Attempt.items before) := by
  -- Either this is the last attempt, or it was there before.
  rcases List.eq_nil_or_concat after with rfl | ⟨init, last, rfl⟩
  · obtain ⟨rfl, rfl⟩ := List.append_singleton_inj.1 hsplit
    exact h.timeOfDay
  · rw [List.concat_eq_append, ← List.cons_append, ← List.append_assoc] at hsplit
    exact h.times before a init (List.append_singleton_inj.1 hsplit).1

theorem Kept.silent (h : Kept config client target first attempt.before attempts)
    (hlast : Puts config client target attempt)
    (hsilent : IsSilent attempt.before (depot.put attempt.batch attempt.before).2)
    (hmetrics : (depot.put attempt.batch attempt.before).2.1.metrics = attempt.before.1.metrics ∨
      ∃ kind, (depot.put attempt.batch attempt.before).2.1.metrics =
        attempt.before.1.metrics.recordFailure kind) :
    Kept config client target first (depot.put attempt.batch attempt.before).2
      (attempts ++ [attempt]) := by
  -- Nothing was sent, so requests and answers are as before.
  have hrequests : requests (attempts ++ [attempt]) = requests attempts := by
    rw [requests_append, requestsOf_of_silent hsilent, List.append_nil]
  have hitems :
      (Attempt.items attempts).length ≤ (Attempt.items (attempts ++ [attempt])).length := by
    rw [Attempt.items_append, List.length_append]
    exact Nat.le_add_right _ _
  refine ⟨h.ready.put attempt.batch, mem_append_puts h hlast, h.timeOfDay_put hlast,
    h.times_append, ?_, ?_, ?_, ?_⟩
  · rw [hrequests, hsilent.transport, h.transport]
  · rw [hrequests, hsilent.stopRequested, h.stopRequested]
  · rw [hrequests]
    exact h.quiet
  · rw [hrequests, List.length_append, List.length_singleton]
    rcases hmetrics with hmetrics | ⟨kind, hmetrics⟩
    · rw [hmetrics]
      exact h.metrics.mono (Nat.le_succ _) hitems (Nat.le_refl _)
    · rw [hmetrics]
      exact (h.metrics.recordFailure kind).mono (Nat.le_refl _) hitems (Nat.le_refl _)

theorem Kept.sends (h : Kept config client target first attempt.before attempts)
    (hlast : Puts config client target attempt)
    (hgoing : attempt.before.2.stopRequested = false)
    (hsends : Sends request attempt.before (depot.put attempt.batch attempt.before).2)
    (hmetrics : (∃ kind, (depot.put attempt.batch attempt.before).2.1.metrics =
        attempt.before.1.metrics.recordFailure kind) ∨
      ∃ millis, (depot.put attempt.batch attempt.before).2.1.metrics =
        attempt.before.1.metrics.recordBatch attempt.batch.length request.body.length
          (.float millis)) :
    Kept config client target first (depot.put attempt.batch attempt.before).2
      (attempts ++ [attempt]) := by
  have hrequests : requests (attempts ++ [attempt]) = requests attempts ++ [request] := by
    rw [requests_append, requestsOf_of_sends hsends]
  have hsignal := congrArg Answer.signal h.headD_answers
  -- No stop was requested before, so only the signal of this request can have asked for one.
  refine ⟨h.ready.put attempt.batch, mem_append_puts h hlast, h.timeOfDay_put hlast,
    h.times_append, ?_, ?_, ?_, ?_⟩
  · rw [hsends.transport, h.transport, hrequests, List.length_append, List.length_singleton,
      List.tail_drop, List.append_assoc]
  · rw [hrequests, hsends.stopRequested, hgoing, Bool.false_or, hsignal, List.length_append,
      List.length_singleton]
    constructor
    · exact fun hsome => ⟨_, Nat.lt_succ_self _, hsome⟩
    · rintro ⟨place, hplace, hsome⟩
      rcases Nat.lt_succ_iff_lt_or_eq.1 hplace with hplace | rfl
      · rw [h.signalAt_eq_none hgoing hplace] at hsome
        cases hsome
      · exact hsome
  · intro place hplace
    rw [hrequests, List.length_append, List.length_singleton] at hplace
    exact h.signalAt_eq_none hgoing (by omega)
  · rw [hrequests, Attempt.items_append, List.length_append, List.length_append,
      List.length_singleton, List.map_append, List.sum_append]
    rcases hmetrics with ⟨kind, hmetrics⟩ | ⟨millis, hmetrics⟩
    · rw [hmetrics]
      exact (h.metrics.recordFailure kind).mono (Nat.le_refl _) (Nat.le_add_right _ _)
        (Nat.le_add_right _ _)
    · rw [hmetrics]
      simpa using h.metrics.recordBatch attempt.batch.length request.body.length millis

/-! ## 3. Attempts -/

theorem Kept.isOrdinary (h : Kept config client target first state attempts)
    (hfirst : first.AreOrdinary) : state.2.transport.nextOutcome.IsOrdinary := by
  rw [Transport.nextOutcome, h.headD_answers, List.getD_eq_getElem?_getD]
  cases hanswer : first.transport.answers[(requests attempts).length]? with
  | none => exact Answer.isOrdinary_accepted
  | some answer => exact hfirst.answers answer (List.mem_of_getElem? hanswer)

/-- Every attempt with records that were read keeps what is kept. -/
theorem Kept.put (attempt : Attempt State Record)
    (h : Kept config client target first attempt.before attempts)
    (hfirst : first.AreOrdinary) (hopen : client.isClosed = false)
    (hurl : Url.parse client.url = .ok target) (hfields : config.fields.AreTexts)
    (hgoing : attempt.before.2.stopRequested = false) (hbatch : attempt.batch ≠ [])
    (hsound : ∀ record ∈ attempt.batch, record.IsSound) :
    Kept config client target first (depot.put attempt.batch attempt.before).2
      (attempts ++ [attempt]) := by
  obtain ⟨events, hevents⟩ := Record.exists_toEvents hfields attempt.before.2.timeOfDay hsound
  have hlength : attempt.batch.length = events.length :=
    (Record.forall₂_of_toEvents hevents).length_eq
  have hputting := putting_put h.ready hopen hurl hbatch hevents (h.isOrdinary hfirst)
  have hlast : Puts config client target attempt := ⟨events, hevents, hputting⟩
  generalize hstep : depot.put attempt.batch attempt.before = step at hputting
  -- Either nothing was sent, or one request.
  cases hputting with
  | @unsendable hserver fault after hsilent hmetrics =>
    have hkept := h.silent hlast (by rwa [hstep]) (by rw [hstep]; exact .inl hmetrics)
    rwa [hstep] at hkept
  | @unserializable hserver fault after hpayload hsilent kind hmetrics =>
    have hkept := h.silent hlast (by rwa [hstep]) (by rw [hstep]; exact .inr ⟨kind, hmetrics⟩)
    rwa [hstep] at hkept
  | @refused hserver fault after hpayload hsends kind hkind hmetrics =>
    have hkept := h.sends hlast hgoing (by rwa [hstep]) (by rw [hstep]; exact .inl ⟨kind, hmetrics⟩)
    rwa [hstep] at hkept
  | @accepted hserver after hpayload hsends haccepted millis hmetrics =>
    rw [← hlength] at hmetrics
    have hkept := h.sends hlast hgoing (by rwa [hstep])
      (by rw [hstep]; exact .inr ⟨millis, hmetrics⟩)
    rwa [hstep] at hkept

theorem Puts.of_accepts (h : Puts config client target attempt)
    (haccepts : depot.accepts attempt = true) :
    target.server.isAscii = true ∧ requestsOf attempt ≠ [] ∧
      attempt.before.2.transport.nextOutcome.IsAcceptance := by
  obtain ⟨events, hevents, hputting⟩ := h
  generalize hstep : depot.put attempt.batch attempt.before = step at hputting
  cases hputting with
  | accepted hserver hpayload hsends haccepted hmetrics =>
    refine ⟨hserver, ?_, haccepted⟩
    rw [requestsOf_of_sends (by rwa [hstep])]
    exact List.cons_ne_nil _ _
  | _ =>
    rw [Depot.accepts_of_error hstep] at haccepts
    cases haccepts

theorem Puts.requestsOf_eq (h : Puts config client target attempt) :
    requestsOf attempt = [] ∨ ∃ events,
      (Record.toEvents config.fields attempt.before.2.timeOfDay attempt.batch).1 = .ok events ∧
        requestsOf attempt = [client.requestFor target events] := by
  obtain ⟨events, hevents, hputting⟩ := h
  generalize hstep : depot.put attempt.batch attempt.before = step at hputting
  cases hputting with
  | unsendable hserver hsilent hmetrics => exact .inl (requestsOf_of_silent (by rwa [hstep]))
  | unserializable hserver hpayload hsilent hmetrics =>
    exact .inl (requestsOf_of_silent (by rwa [hstep]))
  | refused hserver hpayload hsends hkind hmetrics =>
    exact .inr ⟨events, hevents, requestsOf_of_sends (by rwa [hstep])⟩
  | accepted hserver hpayload hsends haccepted hmetrics =>
    exact .inr ⟨events, hevents, requestsOf_of_sends (by rwa [hstep])⟩

theorem Puts.isBatchFailure {e : RunFault} {after : State}
    (h : Puts config client target attempt) (hserver : target.server.isAscii = true)
    (hput : depot.put attempt.batch attempt.before = (.error e, after)) :
    isBatchFailure e = true := by
  obtain ⟨events, hevents, hputting⟩ := h
  rw [hput] at hputting
  cases hputting with
  | unsendable hother hsilent hmetrics =>
    rw [hserver] at hother
    cases hother
  | unserializable _ hpayload hsilent hmetrics => rfl
  | refused _ hpayload hsends hkind hmetrics => exact Option.isSome_iff_exists.2 ⟨_, hkind⟩

/-- Nothing is sent to a server that cannot be named. -/
theorem Puts.unsendable (h : Puts config client target attempt)
    (hserver : target.server.isAscii = false) :
    requestsOf attempt = [] ∧ ∃ fault after, depot.put attempt.batch attempt.before =
      (.error (.shipper (.client (.unsendableHost fault))), after) := by
  obtain ⟨events, hevents, hputting⟩ := h
  generalize hstep : depot.put attempt.batch attempt.before = step at hputting
  cases hputting with
  | @unsendable hother fault after hsilent hmetrics =>
    exact ⟨requestsOf_of_silent (by rwa [hstep]), fault, after, rfl⟩
  | unserializable hother hpayload hsilent hmetrics =>
    rw [hserver] at hother
    cases hother
  | refused hother hpayload hsends hkind hmetrics =>
    rw [hserver] at hother
    cases hother
  | accepted hother hpayload hsends haccepted hmetrics =>
    rw [hserver] at hother
    cases hother

theorem length_requests_le (h : Kept config client target first state attempts) :
    (requests attempts).length ≤ attempts.length := by
  have hputs := h.puts
  clear h
  induction attempts with
  | nil => exact Nat.le_refl _
  | cons attempt attempts ih =>
    rw [List.forall_mem_cons] at hputs
    -- An attempt sends one request at most.
    have hfirst : (requestsOf attempt).length ≤ 1 := by
      rcases hputs.1.requestsOf_eq with hnone | ⟨events, -, hone⟩
      · rw [hnone]
        exact Nat.zero_le _
      · rw [hone]
        exact Nat.le_refl _
    have hrest := ih hputs.2
    rw [requests, List.flatMap_cons, List.length_append, List.length_cons]
    rw [requests] at hrest
    omega

theorem Kept.isShowable (h : Kept config client target first state attempts)
    (hbatches : ∀ attempt ∈ attempts, attempt.batch ≠ [])
    (hitems : (Attempt.items attempts).length < 2 ^ 63)
    (hbodies : ∀ request ∈ requests attempts, request.body.length < 2 ^ 63) :
    state.1.metrics.IsShowable := by
  have hattempts := Attempt.length_le_length_items hbatches
  have hrequests := length_requests_le h
  refine h.metrics.isShowable (by omega) (by omega) (Metrics.sum_lt ?_ ?_)
  · rw [List.length_map]
    omega
  · exact List.forall_mem_map.2 hbodies

end Run

end LogShipper
