import LogShipper.Endpoint
import LogShipper.Json.Bytes
import LogShipper.Payload
import LogShipper.Response
import LogShipper.Text.Ascii
import LogShipper.Transport

/-!
# Clients

A client sends batches of events to one endpoint, with one api key, in one session.  Each call of
`Client.log` produces the payload, sends it as one request and judges the answer: the batch is
accepted exactly if the server answers with status 200 and an object whose status is `success`.
-/

namespace LogShipper

structure Client where
  url : Text
  apiKey : Text
  session : Text
  timeout : Option Number := none
  isClosed : Bool := false
  lastPayloadBytes : Nat := 0
  deriving DecidableEq, Repr

/-! ## 1. Faults -/

/-- Why the body of an answer says nothing. -/
inductive BodyFault where
  | unparseable (fault : Json.BytesFault)
  | notObject (kind : Text)
  deriving DecidableEq, Repr

def BodyFault.message : BodyFault → Text
  | .unparseable fault => "unparseable response body: " ++ fault.message
  | .notObject kind => "expected a JSON object, got " ++ kind

/-- Why a batch was not accepted.  The first four arise before anything is sent; the body of an
answer that is too deep is no answer at all. -/
inductive ClientFault where
  | closed
  | unusableUrl (fault : Url.Fault)
  | unsendableHost (fault : Ascii.Fault)
  | serialization (fault : SerializationFault)
  | transport (url message : Text)
  | broken (cause : Breakage) (message : Text)
  | refused (httpStatus : Int) (response : Response) (detail : Option BodyFault)
  | tooDeep (innermost : Json.Collection)
  deriving Inhabited

namespace ClientFault

/-- The text for an answer that does not accept the batch. -/
def refusal (httpStatus : Int) (response : Response) (detail : Option BodyFault) : Text :=
  "addEvents failed with http code " ++ Integer.toText httpStatus ++ ", status " ++
    response.status.literal ++ ", message " ++ response.message.literal ++
    match detail with
    | none => []
    | some fault => " (" ++ fault.message ++ ")"

def message : ClientFault → Text
  | .closed => "AddEventsClient is closed"
  | .unusableUrl fault => fault.message
  | .unsendableHost fault => fault.message
  | .serialization fault => "addEvents serialization failed: " ++ fault.message
  | .transport url message => "addEvents request to " ++ url ++ " failed: " ++ message
  | .broken _ message => message
  | .refused httpStatus response detail => refusal httpStatus response detail
  | .tooDeep innermost => (Json.Excess.depth innermost).message

/-- The name under which a failed batch is counted.  A fault without one is no failure of the
batch. -/
def countedAs? : ClientFault → Option Text
  | .serialization _ => some "SerializationError"
  | .transport _ _ => some "TransportError"
  | .refused _ _ _ => some "ProtocolError"
  | .closed | .unusableUrl _ | .unsendableHost _ | .broken _ _ | .tooDeep _ => none

end ClientFault

/-! ## 2. Answers -/

namespace Response

/-- The response in a body. -/
def ofBody (body : Bytes) : Except BodyFault Response :=
  match Json.readBytes body with
  | .error fault => .error (.unparseable fault)
  | .ok (.object members) => .ok (.ofMembers members)
  | .ok value => .error (.notObject value.kind)

/-- Judges an answer. -/
def judge (httpStatus : Int) (body : Bytes) : Except ClientFault Response :=
  match ofBody body with
  | .error (.unparseable (.unreadable (.excess (.depth innermost)))) =>
    .error (.tooDeep innermost)
  | .error fault => .error (.refused httpStatus {} (some fault))
  | .ok response =>
    if httpStatus = 200 ∧ response.isSuccess then .ok response
    else .error (.refused httpStatus response none)

end Response

/-! ## 3. Clients -/

namespace Client

/-- Makes a client for the server that a value names. -/
def connect (url : Json) (apiKey session : Text) (timeout : Option Number) :
    Except EndpointFault Client := do
  return { url := ← Endpoint.ofJson url, apiKey, session, timeout }

/-- The media type that is sent and expected. -/
def mediaType : Text := "application/json; charset=UTF-8"

/-- The headers of every request, by name.  The last one tells on which version of the platform the
client runs. -/
def headers (platform : Text) : List (Text × Text) := [
  ("Accept", mediaType),
  ("Connection", "Keep-Alive"),
  ("Content-Type", mediaType),
  ("User-Agent", "addevents-sink/0.1.0 Python/" ++ platform)]

/-- The payload of a batch. -/
def payload (client : Client) (events : List Event) : Payload :=
  ⟨client.apiKey, client.session, events⟩

/-- The URL to which a request goes, read again from its text.  A header has to name the server. -/
def target (client : Client) : Except ClientFault Url :=
  match Url.parse client.url with
  | .error fault => .error (.unusableUrl fault)
  | .ok url =>
    match Ascii.fault? url.server with
    | some fault => .error (.unsendableHost fault)
    | none => .ok url

/-- What the outcome of a request means for the batch. -/
def conclude (client : Client) : Outcome → Except ClientFault Response
  | .reply httpStatus body => Response.judge httpStatus body
  | .failed message => .error (.transport client.url message)
  | .broken cause message => .error (.broken cause message)

/-- What a call of `log` leaves behind. -/
structure Logged where
  result : Except ClientFault Response
  client : Client
  transport : Transport
  signal : Option Signal := none

/-- Sends a batch of events.  A payload in which a fault was met is not sent; the bytes that were
produced of it count all the same. -/
def log (client : Client) (events : List Event) (transport : Transport) : Logged :=
  if client.isClosed then ⟨.error .closed, client, transport, none⟩
  else
    match client.target with
    | .error fault => ⟨.error fault, { client with lastPayloadBytes := 0 }, transport, none⟩
    | .ok target =>
      -- The server's address is settled first: a request without one has no payload at all.
      let production := (client.payload events).produce
      let client := { client with lastPayloadBytes := production.size }
      match production.fault with
      | some fault => ⟨.error (.serialization fault), client, transport, none⟩
      | none =>
        let request : Request := ⟨target.toText, client.timeout, production.chunks.flatten⟩
        let (answer, transport) := transport.send request
        ⟨client.conclude answer.outcome, client, transport, answer.signal⟩

def close (client : Client) : Client :=
  { client with isClosed := true }

end Client

end LogShipper
