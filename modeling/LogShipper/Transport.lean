import LogShipper.Number
import LogShipper.Text.Utf8

/-!
# Requests and what becomes of them

A request is answered by the server, fails on its way, or breaks off for a reason that is no matter
of the request.  A transport carries requests: it keeps those that it has sent, in order, and knows
the answers still to come.  A signal may arrive while the server is at work on a request.
-/

namespace LogShipper

structure Request where
  url : Text
  timeout : Option Number
  body : Bytes
  deriving DecidableEq, Repr

/-- Every request is sent in the same way. -/
def Request.method : Text := "POST"

/-- The signals that ask a run to stop. -/
inductive Signal where
  | interrupt
  | terminate
  deriving DecidableEq, Repr

/-- The number of a signal. -/
def Signal.number : Signal → Nat
  | .interrupt => 2
  | .terminate => 15

/-- The reasons to break off that are no matter of the request: a wrong URL, cookies of one name, a
body that was read before, a status that was raised, and what the system reports. -/
inductive Breakage where
  | url
  | cookies
  | stream
  | status
  | system
  deriving DecidableEq, Repr

/-- What becomes of a request. -/
inductive Outcome where
  | reply (status : Int) (body : Bytes)
  | failed (message : Text)
  | broken (cause : Breakage) (message : Text)
  deriving DecidableEq, Repr

/-- An outcome, and the signal that arrives before it if one does. -/
structure Answer where
  signal : Option Signal := none
  outcome : Outcome
  deriving DecidableEq, Repr

/-- The answer of a server that accepts the batch. -/
def Answer.accepted : Answer where
  outcome := .reply 200
    ("\x7b\"status\":\"success\",\"message\":\"success\"\x7d".toList.flatMap Utf8.encodeChar)

structure Transport where
  answers : List Answer := []
  sent : List Request := []
  deriving DecidableEq, Repr

namespace Transport

/-- Sends a request.  When no answer is left the server accepts. -/
def send (transport : Transport) (request : Request) : Answer × Transport :=
  (transport.answers.headD .accepted,
    ⟨transport.answers.tail, transport.sent ++ [request]⟩)

@[simp] theorem sent_send (transport : Transport) (request : Request) :
    (transport.send request).2.sent = transport.sent ++ [request] := rfl

end Transport

end LogShipper
