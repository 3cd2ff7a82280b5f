import LogShipper.Clock
import LogShipper.Notice
import LogShipper.Transport

/-!
# What a shipper draws on

A shipper needs the time of day, a clock, ids for its sessions and a transport for its requests, and
it reports what happens.  A signal that arrives asks the run to stop and is reported at once.
-/

namespace LogShipper

/-- The ids of sessions to come.  When none is left an id is made of the number of earlier ones. -/
structure SessionIds where
  next : List Text := []
  used : Nat := 0
  deriving DecidableEq, Repr

/-- The next id. -/
def SessionIds.take (ids : SessionIds) : Text × SessionIds :=
  match ids.next with
  | [] => ("session-" ++ Integer.toText ids.used, ⟨[], ids.used + 1⟩)
  | id :: next => (id, ⟨next, ids.used + 1⟩)

/-- The id made of sixteen random bytes, in the form of a random UUID. -/
def SessionIds.ofRandom (bytes : Bytes) : Text :=
  bytes.zipIdx.flatMap fun (b, i) =>
    let b := if i = 6 then 0x40 + b % 0x10 else if i = 8 then 0x80 + b % 0x40 else b
    (if i = 4 ∨ i = 6 ∨ i = 8 ∨ i = 10 then Text.ofString "-" else []) ++
      Text.hex false 2 b.toNat

structure Services where
  timeOfDay : TimeOfDay
  clock : Clock := {}
  sessions : SessionIds := {}
  transport : Transport := {}
  notices : List Notice := []
  stopRequested : Bool := false
  deriving DecidableEq, Repr

namespace Services

def report (services : Services) (notice : Notice) : Services :=
  { services with notices := services.notices ++ [notice] }

/-- Reports a notice.  One that cannot be written is lost, and nothing else comes of that. -/
def report? (services : Services) : Option Notice → Services
  | none => services
  | some notice => services.report notice

/-- Reads the clock. -/
def readClock (services : Services) : Number × Services :=
  let (now, clock) := services.clock.read
  (now, { services with clock })

/-- What a signal does, if one arrives. -/
def receive (services : Services) : Option Signal → Services
  | none => services
  | some signal => { services.report (.signalReceived signal) with stopRequested := true }

@[simp] theorem transport_report (services : Services) (notice : Notice) :
    (services.report notice).transport = services.transport := rfl

@[simp] theorem notices_report (services : Services) (notice : Notice) :
    (services.report notice).notices = services.notices ++ [notice] := rfl

end Services

end LogShipper
