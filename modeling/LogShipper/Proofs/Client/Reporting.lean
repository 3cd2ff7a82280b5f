import LogShipper.Proofs.Client.Destination

/-!
# How failures are reported

A call of `Client.log` on an open client returns the response that accepts the batch, or it reports
a failure of the batch: of its payload, of the transport, or of the answer.  Nothing else can happen
but for three faults that escape the report: a URL that is too long to be read again, a server that
no header can name, and a way to the server that breaks off.
-/

namespace LogShipper

/-- An outcome whose body, if it has one, is not nested too deeply. -/
def Outcome.IsLegible : Outcome → Prop
  | .reply _ body => ∀ innermost,
    Json.readBytes body ≠ .error (.unreadable (.excess (.depth innermost)))
  | .failed _ | .broken _ _ => True

namespace Client

variable {client : Client} {events : List Event} {outcome : Outcome} {transport : Transport}

/-- What `log` says about a batch: the response of an answer that accepts it, or the failure of its
payload, of the transport or of the answer. -/
inductive Reports (client : Client) (events : List Event) (outcome : Outcome) :
    Except ClientFault Response → Prop
  | accepted {httpStatus : Int} {body : Bytes} {response : Response}
      (hpayload : (client.payload events).produce.fault = none)
      (houtcome : outcome = .reply httpStatus body) (hsuccess : response.isSuccess = true) :
      Reports client events outcome (.ok response)
  | serialization {fault : SerializationFault}
      (hpayload : (client.payload events).produce.fault = some fault) :
      Reports client events outcome (.error (.serialization fault))
  | transport {message : Text} (hpayload : (client.payload events).produce.fault = none)
      (houtcome : outcome = .failed message) :
      Reports client events outcome (.error (.transport client.url message))
  | refused {httpStatus : Int} {body : Bytes} {response : Response} {detail : Option BodyFault}
      (hpayload : (client.payload events).produce.fault = none)
      (houtcome : outcome = .reply httpStatus body) :
      Reports client events outcome (.error (.refused httpStatus response detail))

/-- The faults of `log` that are no failure of the batch by their name. -/
inductive Escapes (client : Client) (events : List Event) (outcome : Outcome) : ClientFault → Prop
  | unusableUrl {fault : Url.Fault} (hlong : Url.maxLength < client.url.length)
      (hparse : Url.parse client.url = .error fault) :
      Escapes client events outcome (.unusableUrl fault)
  | unsendableHost {target : Url} {fault : Ascii.Fault}
      (hparse : Url.parse client.url = .ok target)
      (hserver : Ascii.fault? target.server = some fault) :
      Escapes client events outcome (.unsendableHost fault)
  | broken {target : Url} {cause : Breakage} {message : Text}
      (hparse : Url.parse client.url = .ok target) (hserver : target.server.isAscii = true)
      (hpayload : (client.payload events).produce.fault = none)
      (houtcome : outcome = .broken cause message) :
      Escapes client events outcome (.broken cause message)

theorem Reports.exists_name {fault : ClientFault}
    (h : client.Reports events outcome (.error fault)) : ∃ kind, fault.countedAs? = some kind := by
  cases h <;> exact ⟨_, rfl⟩

theorem Escapes.countedAs?_eq_none {fault : ClientFault}
    (h : client.Escapes events outcome fault) : fault.countedAs? = none := by
  cases h <;> rfl

theorem target_of_unread {fault : Url.Fault} (hparse : Url.parse client.url = .error fault) :
    client.target = .error (.unusableUrl fault) := by
  unfold target
  rw [hparse]

theorem target_of_unnamed {found : Url} {fault : Ascii.Fault}
    (hparse : Url.parse client.url = .ok found) (hserver : Ascii.fault? found.server = some fault) :
    client.target = .error (.unsendableHost fault) := by
  unfold target
  rw [hparse]
  simp only [hserver]

/-- An answer that can be read is reported. -/
theorem reports_conclude (hpayload : (client.payload events).produce.fault = none)
    (hlegible : outcome.IsLegible) (hsound : ∀ cause message, outcome ≠ .broken cause message) :
    client.Reports events outcome (client.conclude outcome) := by
  cases outcome with
  | failed message => exact .transport hpayload rfl
  | broken cause message => exact absurd rfl (hsound cause message)
  | reply httpStatus body =>
    show client.Reports events (.reply httpStatus body) (Response.judge httpStatus body)
    by_cases hbody : ∃ members, Json.readBytes body = .ok (.object members)
    · obtain ⟨members, hbody⟩ := hbody
      rw [Response.judge_of_object httpStatus hbody]
      by_cases haccepted : httpStatus = 200 ∧ (Response.ofMembers members).isSuccess = true
      · rw [if_pos haccepted]
        exact .accepted hpayload rfl haccepted.2
      · rw [if_neg haccepted]
        exact .refused hpayload rfl
    · obtain ⟨detail, hdetail⟩ :=
        Response.judge_of_no_object httpStatus (not_exists.1 hbody) hlegible
      rw [hdetail]
      exact .refused hpayload rfl

/-- What a client whose endpoint was accepted does with a batch: it reports, or one of three faults
escapes. -/
theorem log_reports {t : Text} (hurl : Endpoint.ofText t = .ok client.url)
    (hopen : client.isClosed = false) (events : List Event)
    (hlegible : transport.nextOutcome.IsLegible) :
    client.Reports events transport.nextOutcome (client.log events transport).result ∨
      ∃ fault, (client.log events transport).result = .error fault ∧
        client.Escapes events transport.nextOutcome fault := by
  cases hparse : Url.parse client.url with
  | error fault =>
    -- The endpoint can be read again unless it is too long.
    have hlong : Url.maxLength < client.url.length := by
      apply Nat.lt_of_not_le
      intro hshort
      obtain ⟨first, again, -, -, -, hread⟩ := Endpoint.exists_reread hurl
      rw [(hread hshort).1] at hparse
      cases hparse
    right
    rw [log_of_untargeted hopen (target_of_unread hparse)]
    exact ⟨_, rfl, .unusableUrl hlong hparse⟩
  | ok found =>
    cases hserver : Ascii.fault? found.server with
    | some fault =>
      right
      rw [log_of_untargeted hopen (target_of_unnamed hparse hserver)]
      exact ⟨_, rfl, .unsendableHost hparse hserver⟩
    | none =>
      have hascii : found.server.isAscii = true := Ascii.fault?_eq_none_iff.1 hserver
      have htarget := target_of_isAscii hparse hascii
      cases hpayload : (client.payload events).produce.fault with
      | some fault =>
        left
        rw [log_of_unserializable hopen htarget hpayload]
        exact .serialization hpayload
      | none =>
        rw [log_of_sent hopen htarget hpayload]
        by_cases hbroken : ∃ cause message, transport.nextOutcome = .broken cause message
        · obtain ⟨cause, message, hbroken⟩ := hbroken
          right
          rw [hbroken]
          exact ⟨_, rfl, .broken hparse hascii hpayload rfl⟩
        · left
          apply reports_conclude hpayload hlegible
          intro cause message houtcome
          exact hbroken ⟨cause, message, houtcome⟩

/-- A fault escapes whenever it can. -/
theorem log_of_escapes (hopen : client.isClosed = false) {fault : ClientFault}
    (h : client.Escapes events transport.nextOutcome fault) :
    (client.log events transport).result = .error fault := by
  cases h with
  | unusableUrl hlong hparse =>
    rw [log_of_untargeted hopen (target_of_unread hparse)]
  | unsendableHost hparse hserver =>
    rw [log_of_untargeted hopen (target_of_unnamed hparse hserver)]
  | broken hparse hserver hpayload houtcome =>
    rw [log_of_sent hopen (target_of_isAscii hparse hserver) hpayload, houtcome]
    rfl

end Client

end LogShipper
