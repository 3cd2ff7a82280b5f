import LogShipper.Payload

/-!
# Writing a payload into a sink

A sink takes chunks until it is full and is closed in the end.  `Payload.writeTo` closes it once,
after the last chunk, whether the payload could be produced, the sink took it, or not.
-/

namespace LogShipper

/-- What was asked of a sink. -/
inductive SinkCall where
  | took (chunk : Bytes)
  | refused
  | closed
  deriving DecidableEq, Repr

/-- A sink: after how many chunks it refuses to take more, if ever, and the calls so far. -/
structure Sink where
  capacity : Option Nat
  calls : List SinkCall := []
  deriving DecidableEq, Repr

namespace Sink

def record (sink : Sink) (call : SinkCall) : Sink :=
  { sink with calls := sink.calls ++ [call] }

/-- The bytes that the sink took. -/
def data (sink : Sink) : Bytes :=
  sink.calls.flatMap fun
    | .took chunk => chunk
    | _ => []

/-- How many chunks the sink took. -/
def writes (sink : Sink) : Nat :=
  sink.calls.countP fun
    | .took _ => true
    | _ => false

/-- How often the sink was closed. -/
def closes (sink : Sink) : Nat :=
  sink.calls.countP fun
    | .closed => true
    | _ => false

/-- Whether the sink refuses the next chunk. -/
def isFull (sink : Sink) : Bool :=
  sink.capacity.any fun n => n ≤ sink.writes

end Sink

/-- Why a payload was not written: the sink refused a chunk, or no more could be produced. -/
inductive WriteFault where
  | sinkFull
  | serialization (fault : SerializationFault)
  deriving DecidableEq, Repr

namespace Payload

/-- Gives the chunks to the sink until it refuses one. -/
def pour (sink : Sink) : List Bytes → Bool × Sink
  | [] => (true, sink)
  | chunk :: rest =>
    if sink.isFull then (false, sink.record .refused) else pour (sink.record (.took chunk)) rest

/-- Writes the payload into a sink and closes it; the answer is the number of bytes written. -/
def writeTo (payload : Payload) (sink : Sink) (table : Option LogTable := none) :
    Except WriteFault Nat × Sink :=
  let production := payload.produce table
  let (allTaken, sink) := pour sink production.chunks
  let result :=
    if !allTaken then .error .sinkFull
    else
      match production.fault with
      | some fault => .error (.serialization fault)
      | none => .ok production.size
  (result, sink.record .closed)

end Payload

end LogShipper
