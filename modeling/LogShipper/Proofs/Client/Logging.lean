import LogShipper.Client
import Mathlib.Data.List.TakeDrop
import Mathlib.Data.List.TakeWhile

/-!
# What becomes of a batch

A call of `Client.log` on an open client ends in one of four ways.  A server whose name is past
ASCII gets nothing at all.  A payload that cannot be written is not sent.  Otherwise exactly one
request is sent, and the answer decides: the batch is accepted exactly if the status is 200 and the
body is an object whose status is `success`.
-/

namespace LogShipper

/-! ## 1. Ways to end -/

theorem Ascii.fault?_eq_none_iff {t : Text} : Ascii.fault? t = none ↔ t.isAscii = true := by
  unfold Ascii.fault? Text.isAscii
  rw [List.span_eq_takeWhile_dropWhile, List.all_eq_true, ← List.dropWhile_eq_nil_iff]
  cases t.dropWhile CodePoint.isAscii with
  | nil => exact ⟨fun _ => rfl, fun _ => rfl⟩
  | cons c rest => exact ⟨fun h => (nomatch h), fun h => (nomatch h)⟩

/-- What a call comes to in turn: whether the client is open, where to send the batch, what to send,
and the answer. -/
inductive ClientFault.Stage where
  | start
  | destination
  | payload
  | answer

/-- What a fault is found in. -/
def ClientFault.stage : ClientFault → Stage
  | .closed => .start
  | .unusableUrl _ | .unsendableHost _ => .destination
  | .serialization _ => .payload
  | .transport _ _ | .broken _ _ | .refused _ _ _ | .tooDeep _ => .answer

def Transport.nextOutcome (transport : Transport) : Outcome :=
  (transport.answers.headD .accepted).outcome

namespace Client

/-- The request for a batch whose payload can be written. -/
def requestFor (client : Client) (target : Url) (events : List Event) : Request :=
  ⟨target.toText, client.timeout, (client.payload events).produce.chunks.flatten⟩

variable {client : Client} {events : List Event} {transport : Transport} {target : Url}

theorem log_of_closed (h : client.isClosed = true) :
    client.log events transport = ⟨.error .closed, client, transport, none⟩ := by
  rw [log, if_pos h]

theorem log_of_untargeted {fault : ClientFault} (hopen : client.isClosed = false)
    (h : client.target = .error fault) :
    client.log events transport =
      ⟨.error fault, { client with lastPayloadBytes := 0 }, transport, none⟩ := by
  rw [log, if_neg (Bool.eq_false_iff.1 hopen), h]

theorem log_of_unserializable {fault : SerializationFault} (hopen : client.isClosed = false)
    (htarget : client.target = .ok target)
    (h : (client.payload events).produce.fault = some fault) :
    client.log events transport =
      ⟨.error (.serialization fault),
        { client with lastPayloadBytes := (client.payload events).produce.size }, transport,
        none⟩ := by
  rw [log, if_neg (Bool.eq_false_iff.1 hopen), htarget]
  simp only [h]

theorem log_of_sent (hopen : client.isClosed = false) (htarget : client.target = .ok target)
    (h : (client.payload events).produce.fault = none) :
    client.log events transport =
      ⟨client.conclude transport.nextOutcome,
        { client with lastPayloadBytes := (client.payload events).produce.size },
        ⟨transport.answers.tail, transport.sent ++ [client.requestFor target events]⟩,
        (transport.answers.headD .accepted).signal⟩ := by
  rw [log, if_neg (Bool.eq_false_iff.1 hopen), htarget]
  simp only [h]
  rfl

theorem client_log (client : Client) (events : List Event) (transport : Transport) :
    ∃ bytes, (client.log events transport).client = { client with lastPayloadBytes := bytes } := by
  -- The four ways in which a call ends, in the order in which they are tried.
  rcases Bool.eq_false_or_eq_true client.isClosed with hclosed | hopen
  · exact ⟨client.lastPayloadBytes, by rw [log_of_closed hclosed]⟩
  · cases htarget : client.target with
    | error fault => exact ⟨0, by rw [log_of_untargeted hopen htarget]⟩
    | ok target =>
      refine ⟨(client.payload events).produce.size, ?_⟩
      cases hfault : (client.payload events).produce.fault with
      | some fault => rw [log_of_unserializable hopen htarget hfault]
      | none => rw [log_of_sent hopen htarget hfault]

theorem exists_target_of_log {response : Response}
    (h : (client.log events transport).result = .ok response) :
    ∃ target, client.isClosed = false ∧ client.target = .ok target ∧
      (client.payload events).produce.fault = none := by
  cases hopen : client.isClosed with
  | true =>
    rw [log_of_closed hopen] at h
    cases h
  | false =>
    cases htarget : client.target with
    | error fault =>
      rw [log_of_untargeted hopen htarget] at h
      cases h
    | ok target =>
      cases hfault : (client.payload events).produce.fault with
      | some fault =>
        rw [log_of_unserializable hopen htarget hfault] at h
        cases h
      | none => exact ⟨target, rfl, rfl, rfl⟩

theorem sent_of_log {response : Response}
    (h : (client.log events transport).result = .ok response) :
    ∃ target, (client.payload events).produce.fault = none ∧
      (client.log events transport).transport.sent =
        transport.sent ++ [client.requestFor target events] ∧
      (client.log events transport).client.lastPayloadBytes =
        (client.requestFor target events).body.length := by
  obtain ⟨target, hopen, htarget, hfault⟩ := exists_target_of_log h
  refine ⟨target, hfault, ?_⟩
  rw [log_of_sent hopen htarget hfault]
  exact ⟨rfl, rfl⟩

theorem target_of_isAscii (hurl : Url.parse client.url = .ok target)
    (h : target.server.isAscii = true) : client.target = .ok target := by
  rw [Client.target, hurl]
  simp only [Ascii.fault?_eq_none_iff.2 h]

theorem target_eq_ok {found : Url} (hurl : Url.parse client.url = .ok target)
    (h : client.target = .ok found) : target = found ∧ target.server.isAscii = true := by
  rw [Client.target, hurl] at h
  dsimp only at h
  split at h
  · cases h
  · rename_i hfault
    exact ⟨Except.ok.inj h, Ascii.fault?_eq_none_iff.1 hfault⟩

theorem target_of_not_isAscii (hurl : Url.parse client.url = .ok target)
    (h : target.server.isAscii = false) :
    ∃ fault, client.target = .error (.unsendableHost fault) := by
  cases hf : Ascii.fault? target.server with
  | none =>
    rw [Ascii.fault?_eq_none_iff.1 hf] at h
    cases h
  | some fault => exact ⟨fault, by rw [Client.target, hurl]; simp only [hf]⟩

/-- A call of `log` sends nothing, and then accepts nothing either, or it sends one request, whose
outcome decides. -/
theorem log_sends (client : Client) (events : List Event) (transport : Transport) :
    ((client.log events transport).transport = transport ∧
      ∃ fault, (client.log events transport).result = .error fault) ∨
    ∃ target, client.target = .ok target ∧ (client.payload events).produce.fault = none ∧
      (client.log events transport).transport =
        ⟨transport.answers.tail, transport.sent ++ [client.requestFor target events]⟩ ∧
      (client.log events transport).result = client.conclude transport.nextOutcome := by
  -- Nothing is sent unless the client is open, its URL is a target and the events can be written.
  rcases Bool.eq_false_or_eq_true client.isClosed with hclosed | hopen
  · left
    rw [log_of_closed hclosed]
    exact ⟨rfl, _, rfl⟩
  · cases htarget : client.target with
    | error fault =>
      left
      rw [log_of_untargeted hopen htarget]
      exact ⟨rfl, _, rfl⟩
    | ok target =>
      cases hfault : (client.payload events).produce.fault with
      | some fault =>
        left
        rw [log_of_unserializable hopen htarget hfault]
        exact ⟨rfl, _, rfl⟩
      | none =>
        right
        rw [log_of_sent hopen htarget hfault]
        exact ⟨target, rfl, rfl, rfl, rfl⟩

end Client

/-! ## 2. Answers -/

namespace Response

/-- Whether an answer says that the batch was accepted. -/
def IsAcceptance (httpStatus : Int) (body : Bytes) : Prop :=
  httpStatus = 200 ∧ ∃ members, Json.readBytes body = .ok (.object members) ∧
    Json.member? "status" members = some (.text "success")

theorem isSuccess_ofMembers_iff {members : List (Text × Json)} :
    (ofMembers members).isSuccess = true ↔
      Json.member? "status" members = some (.text "success") := by
  unfold isSuccess ofMembers
  cases hm : Json.member? "status" members with
  | none => simp
  | some value =>
    cases value with
    | text t =>
      rw [Option.some.injEq, Json.text.injEq]
      exact decide_eq_true_iff
    | _ => simp

theorem isAcceptance_iff {httpStatus : Int} {body : Bytes} {members : List (Text × Json)}
    (h : Json.readBytes body = .ok (.object members)) :
    IsAcceptance httpStatus body ↔ httpStatus = 200 ∧ (ofMembers members).isSuccess = true := by
  rw [isSuccess_ofMembers_iff]
  refine and_congr_right fun _ => ⟨?_, fun hs => ⟨members, h, hs⟩⟩
  rintro ⟨others, hothers, hs⟩
  rw [h] at hothers
  cases hothers
  exact hs

theorem judge_of_object (httpStatus : Int) {body : Bytes} {members : List (Text × Json)}
    (h : Json.readBytes body = .ok (.object members)) :
    judge httpStatus body =
      if httpStatus = 200 ∧ (ofMembers members).isSuccess then .ok (ofMembers members)
      else .error (.refused httpStatus (ofMembers members) none) := by
  have hbody : ofBody body = .ok (ofMembers members) := by rw [ofBody, h]
  rw [judge, hbody]

theorem judge_of_no_object (httpStatus : Int) {body : Bytes}
    (h : ∀ members, Json.readBytes body ≠ .ok (.object members))
    (hdepth : ∀ innermost,
      Json.readBytes body ≠ .error (.unreadable (.excess (.depth innermost)))) :
    ∃ detail, judge httpStatus body = .error (.refused httpStatus {} (some detail)) := by
  cases hb : Json.readBytes body with
  | ok value =>
    have hbody : ofBody body = .error (.notObject value.kind) := by
      rw [ofBody, hb]
      cases value <;> first | rfl | exact absurd hb (h _)
    exact ⟨_, by rw [judge, hbody]⟩
  | error fault =>
    have hbody : ofBody body = .error (.unparseable fault) := by rw [ofBody, hb]
    refine ⟨.unparseable fault, ?_⟩
    rw [judge, hbody]
    split
    · rename_i innermost heq
      cases heq
      exact absurd hb (hdepth innermost)
    · rename_i heq
      cases heq
      rfl
    · rename_i heq
      cases heq

theorem isAcceptance_of_judge {httpStatus : Int} {body : Bytes} {response : Response}
    (h : judge httpStatus body = .ok response) : IsAcceptance httpStatus body := by
  cases hbody : Json.readBytes body with
  | error fault =>
    have hofBody : ofBody body = .error (.unparseable fault) := by rw [ofBody, hbody]
    rw [judge, hofBody] at h
    split at h
    · cases h
    · cases h
    · rename_i heq
      cases heq
  | ok value =>
    cases value with
    | object members =>
      rw [judge_of_object httpStatus hbody] at h
      split at h
      · rename_i ha
        exact (isAcceptance_iff hbody).2 ha
      · cases h
    | _ =>
      rw [judge, ofBody, hbody] at h
      cases h

end Response

/-- What a server or the way to it may do: a body is not nested too deeply, and nothing breaks
off. -/
def Outcome.IsOrdinary : Outcome → Prop
  | .reply _ body => ∀ innermost,
    Json.readBytes body ≠ .error (.unreadable (.excess (.depth innermost)))
  | .failed _ => True
  | .broken _ _ => False

theorem Json.ne_tooDeep_of_isSome {body : Bytes} (h : (readBytes body).toOption.isSome = true)
    (innermost : Collection) :
    readBytes body ≠ .error (.unreadable (.excess (.depth innermost))) := by
  intro hdeep
  rw [hdeep] at h
  cases h

def Outcome.IsAcceptance : Outcome → Prop
  | .reply httpStatus body => Response.IsAcceptance httpStatus body
  | .failed _ | .broken _ _ => False

/-! ## 3. Verdicts -/

namespace Client

theorem isAcceptance_of_conclude {client : Client} {outcome : Outcome} {response : Response}
    (h : client.conclude outcome = .ok response) : outcome.IsAcceptance := by
  cases outcome with
  | reply httpStatus body => exact Response.isAcceptance_of_judge h
  | failed message => cases h
  | broken cause message => cases h

theorem countedAs?_of_conclude {client : Client} {outcome : Outcome} {fault : ClientFault}
    (hordinary : outcome.IsOrdinary) (h : client.conclude outcome = .error fault) :
    ∃ kind, fault.countedAs? = some kind := by
  cases outcome with
  | failed message =>
    obtain rfl := Except.error.inj h
    exact ⟨_, rfl⟩
  | broken cause message => exact hordinary.elim
  | reply httpStatus body =>
    change Response.judge httpStatus body = .error fault at h
    by_cases hbody : ∃ members, Json.readBytes body = .ok (.object members)
    · obtain ⟨members, hbody⟩ := hbody
      rw [Response.judge_of_object httpStatus hbody] at h
      split at h
      · cases h
      · obtain rfl := Except.error.inj h
        exact ⟨_, rfl⟩
    · obtain ⟨detail, hdetail⟩ := Response.judge_of_no_object httpStatus
        (fun members hm => hbody ⟨members, hm⟩) hordinary
      obtain rfl := Except.error.inj (hdetail.symm.trans h)
      exact ⟨_, rfl⟩

theorem stage_of_target {client : Client} {fault : ClientFault}
    (h : client.target = .error fault) : fault.stage = .destination := by
  unfold target at h
  split at h
  · obtain rfl := Except.error.inj h
    rfl
  · split at h
    · obtain rfl := Except.error.inj h
      rfl
    · cases h

theorem stage_of_conclude {client : Client} {outcome : Outcome} {fault : ClientFault}
    (h : client.conclude outcome = .error fault) : fault.stage = .answer := by
  cases outcome with
  | failed message | broken cause message =>
    obtain rfl := Except.error.inj h
    rfl
  | reply httpStatus body =>
    change Response.judge httpStatus body = .error fault at h
    unfold Response.judge at h
    split at h
    · obtain rfl := Except.error.inj h
      rfl
    · obtain rfl := Except.error.inj h
      rfl
    · split at h
      · cases h
      · obtain rfl := Except.error.inj h
        rfl

/-- A client that is not closed never says that it is. -/
theorem log_ne_closed {client : Client} (hopen : client.isClosed = false) (events : List Event)
    (transport : Transport) : (client.log events transport).result ≠ .error .closed := by
  cases htarget : client.target with
  | error fault =>
    rw [log_of_untargeted hopen htarget]
    intro h
    have hstage := stage_of_target htarget
    rw [Except.error.inj h] at hstage
    cases hstage
  | ok target =>
    cases hfault : (client.payload events).produce.fault with
    | some fault =>
      rw [log_of_unserializable hopen htarget hfault]
      exact nofun
    | none =>
      rw [log_of_sent hopen htarget hfault]
      exact fun h => nomatch stage_of_conclude h

/-- What the outcome of a request says about the batch, by the result of the call: a failure of the
transport, the response of an answer that accepts, or the refusal in any other answer.  The members
of a body that is an object are shown, and of any other body nothing is. -/
structure Verdict (client : Client) (outcome : Outcome) (result : Except ClientFault Response) :
    Prop where
  failed : ∀ message, outcome = .failed message → result = .error (.transport client.url message)
  accepted_iff : ∀ httpStatus body, outcome = .reply httpStatus body →
    ((∃ response, result = .ok response) ↔ Response.IsAcceptance httpStatus body)
  object : ∀ httpStatus body members, outcome = .reply httpStatus body →
    Json.readBytes body = .ok (.object members) →
      let response : Response :=
        ⟨(Json.member? "status" members).getD .null, (Json.member? "message" members).getD .null⟩
      result = .ok response ∨ result = .error (.refused httpStatus response none)
  no_object : ∀ httpStatus body, outcome = .reply httpStatus body →
    (∀ members, Json.readBytes body ≠ .ok (.object members)) →
      ∃ detail, result = .error (.refused httpStatus {} (some detail))

theorem verdict_conclude {client : Client} {outcome : Outcome}
    (hdepth : ∀ httpStatus body innermost, outcome = .reply httpStatus body →
      Json.readBytes body ≠ .error (.unreadable (.excess (.depth innermost)))) :
    client.Verdict outcome (client.conclude outcome) where
  failed := by
    rintro message rfl
    rfl
  accepted_iff := by
    rintro httpStatus body rfl
    show (∃ response, Response.judge httpStatus body = .ok response) ↔ _
    by_cases hbody : ∃ members, Json.readBytes body = .ok (.object members)
    · obtain ⟨members, hbody⟩ := hbody
      rw [Response.judge_of_object httpStatus hbody, Response.isAcceptance_iff hbody]
      -- For an object the response that is shown and the verdict are read from the same members.
      split
      next ha => exact ⟨fun _ => ha, fun _ => ⟨_, rfl⟩⟩
      next ha => exact ⟨fun ⟨_, hr⟩ => (nomatch hr), fun h => absurd h ha⟩
    · have hnone : ∀ members, Json.readBytes body ≠ .ok (.object members) :=
        fun members hm => hbody ⟨members, hm⟩
      obtain ⟨detail, hd⟩ := Response.judge_of_no_object httpStatus hnone
        fun innermost => hdepth _ _ innermost rfl
      rw [hd]
      exact ⟨fun ⟨_, hr⟩ => (nomatch hr), fun ⟨_, members, hm, _⟩ => absurd hm (hnone members)⟩
  object := by
    rintro httpStatus body members rfl hbody
    show Response.judge httpStatus body = _ ∨ Response.judge httpStatus body = _
    rw [Response.judge_of_object httpStatus hbody]
    split
    · exact .inl rfl
    · exact .inr rfl
  no_object := by
    rintro httpStatus body rfl hbody
    exact Response.judge_of_no_object httpStatus hbody fun innermost => hdepth _ _ innermost rfl

/-- What becomes of a batch on an open client with a URL that is read again. -/
theorem log_verdict {client : Client} {target : Url} {transport : Transport} (events : List Event)
    (hopen : client.isClosed = false) (hurl : Url.parse client.url = .ok target)
    (hdepth : ∀ httpStatus body innermost, transport.nextOutcome = .reply httpStatus body →
      Json.readBytes body ≠ .error (.unreadable (.excess (.depth innermost)))) :
    (target.server.isAscii = false →
      (∃ fault, (client.log events transport).result = .error (.unsendableHost fault)) ∧
        (client.log events transport).transport = transport) ∧
    (target.server.isAscii = true →
      (∀ fault, (client.payload events).produce.fault = some fault →
        (client.log events transport).result = .error (.serialization fault) ∧
          (client.log events transport).transport = transport) ∧
      ((client.payload events).produce.fault = none →
        (client.log events transport).transport.sent =
            transport.sent ++ [client.requestFor target events] ∧
          client.Verdict transport.nextOutcome (client.log events transport).result)) := by
  refine ⟨fun hserver => ?_, fun hserver => ⟨fun fault hfault => ?_, fun hfault => ?_⟩⟩
  · obtain ⟨fault, htarget⟩ := target_of_not_isAscii hurl hserver
    rw [log_of_untargeted hopen htarget]
    exact ⟨⟨fault, rfl⟩, rfl⟩
  · rw [log_of_unserializable hopen (target_of_isAscii hurl hserver) hfault]
    exact ⟨rfl, rfl⟩
  · rw [log_of_sent hopen (target_of_isAscii hurl hserver) hfault]
    exact ⟨rfl, verdict_conclude hdepth⟩

def plainSample : Client where
  url := "https://example.com/addEvents"
  apiKey := "abc123"
  session := "s"

/-- A client of a server whose address has a zone past ASCII. -/
def zonedSample : Client :=
  { plainSample with url := "https://[fe80::1%é]/addEvents" }

/-- An answer in which the last of two statuses counts. -/
def sampleTransport : Transport where
  answers := [{
    outcome := .reply 200
      ("\x7b\"status\":\"failed\",\"status\":\"success\"\x7d".toList.flatMap
        Utf8.encodeChar) }]

theorem sample_verdicts :
    ((∃ response, (plainSample.log [default] sampleTransport).result = .ok response) ∧
      (plainSample.log [default] sampleTransport).transport.sent.length = 1) ∧
    (∃ fault, (zonedSample.log [default] sampleTransport).result =
        .error (.unsendableHost fault)) ∧
      (zonedSample.log [default] sampleTransport).transport.sent = [] := by
  have hplain : Url.parse plainSample.url =
      .ok ⟨"https", [], "example.com", none, "/addEvents", none, none⟩ := by decide +kernel
  have hzoned : Url.parse zonedSample.url =
      .ok ⟨"https", [], "fe80::1%é", none, "/addEvents", none, none⟩ := by decide +kernel
  have hdepth : ∀ httpStatus body innermost,
      sampleTransport.nextOutcome = .reply httpStatus body →
      Json.readBytes body ≠ .error (.unreadable (.excess (.depth innermost))) := by
    rintro httpStatus body innermost hreply
    cases hreply
    exact Json.ne_tooDeep_of_isSome (by decide +kernel) innermost
  have haccepted : sampleTransport.nextOutcome.IsAcceptance := by
    -- Of members with one name the last counts.
    have hjudge : (plainSample.conclude sampleTransport.nextOutcome).toOption.isSome = true := by
      decide +kernel
    cases hresult : plainSample.conclude sampleTransport.nextOutcome with
    | ok response => exact isAcceptance_of_conclude hresult
    | error fault =>
      rw [hresult] at hjudge
      cases hjudge
  have hfault : (plainSample.payload [default]).produce.fault = none := by decide +kernel
  have hsent := ((log_verdict [default] rfl hplain hdepth).2 (by decide +kernel)).2 hfault
  have hunsent := (log_verdict [default] rfl hzoned hdepth).1 (by decide +kernel)
  refine ⟨⟨(hsent.2.accepted_iff _ _ rfl).2 haccepted, ?_⟩, hunsent.1, ?_⟩
  · rw [hsent.1]
    rfl
  · rw [hunsent.2]
    rfl

end Client

end LogShipper
