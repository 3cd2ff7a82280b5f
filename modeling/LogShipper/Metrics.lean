import LogShipper.Clock
import LogShipper.Json.Value
import LogShipper.Metrics.Percentile

/-!
# Metrics

Accepted batches are counted with their events, their bytes and the time that sending took, and
failed ones by the name of their failure, in the order in which the names were first seen.  A
snapshot shows the sums, the averages, the time within which 95 of 100 batches were sent, and how
long the metrics have been collected.
-/

namespace LogShipper

structure Metrics where
  startTime : Number
  batchesSent : Nat := 0
  totalEvents : Int := 0
  totalBytes : Int := 0
  sendMillis : List Number := []
  failures : List (Text × Nat) := []
  deriving DecidableEq, Repr

/-- What the metrics show at one moment. -/
structure Snapshot where
  batchesSent : Nat
  totalEvents : Int
  totalBytes : Int
  averageBatchSize : Binary64
  averageSendMillis : Binary64
  slowSendMillis : Binary64
  failures : List (Text × Nat)
  uptimeSeconds : Number
  deriving DecidableEq, Repr

namespace Metrics

/-- Counts one more failure of a name. -/
def count (kind : Text) : List (Text × Nat) → List (Text × Nat)
  | [] => [(kind, 1)]
  | (name, n) :: rest => if name = kind then (name, n + 1) :: rest else (name, n) :: count kind rest

def recordBatch (metrics : Metrics) (events bytes : Int) (millis : Number) : Metrics :=
  { metrics with
    batchesSent := metrics.batchesSent + 1
    totalEvents := metrics.totalEvents + events
    totalBytes := metrics.totalBytes + bytes
    sendMillis := metrics.sendMillis ++ [millis] }

def recordFailure (metrics : Metrics) (kind : Text) : Metrics :=
  { metrics with failures := count kind metrics.failures }

/-- The mean of a sum over some items; zero if there are none. -/
def mean (sum : Number) : Nat → Except ArithmeticFault Binary64
  | 0 => .ok (.zero false)
  | n => sum.divNat n

/-- The percentage of batches that are sent within the time that a snapshot shows. -/
def slowPercent : Number := .int 95

/-- All of a snapshot but the time, which is read after the rest is computed. -/
def summary (metrics : Metrics) : Except ArithmeticFault (Number → Snapshot) := do
  -- Times are averaged before batch sizes, so of two faults theirs is found.
  let averageSendMillis ← mean (← Number.sum metrics.sendMillis) metrics.sendMillis.length
  let averageBatchSize ← mean (.int metrics.totalEvents) metrics.batchesSent
  let slowSendMillis ← percentile metrics.sendMillis slowPercent
  return fun uptimeSeconds => {
    batchesSent := metrics.batchesSent
    totalEvents := metrics.totalEvents
    totalBytes := metrics.totalBytes
    averageBatchSize, averageSendMillis, slowSendMillis
    failures := metrics.failures
    uptimeSeconds }

/-- The metrics now. -/
def snapshot (metrics : Metrics) (clock : Clock) : Except ArithmeticFault Snapshot × Clock :=
  match metrics.summary with
  | .error fault => (.error fault, clock)
  | .ok summary =>
    let (now, clock) := clock.read
    ((now.sub metrics.startTime).map summary, clock)

end Metrics

namespace Snapshot

def number : Number → Json
  | .int n => .int n
  | .float x => .float x

/-- A snapshot as it is reported. -/
def document (snapshot : Snapshot) : Json :=
  .object [
    ("batches_sent", .int snapshot.batchesSent),
    ("total_events", .int snapshot.totalEvents),
    ("total_bytes", .int snapshot.totalBytes),
    ("avg_batch_size", .float snapshot.averageBatchSize),
    ("avg_send_time_ms", .float snapshot.averageSendMillis),
    ("p95_send_time_ms", .float snapshot.slowSendMillis),
    ("failures", .object (snapshot.failures.map fun (kind, n) => (kind, .int n))),
    ("uptime_seconds", number snapshot.uptimeSeconds)]

end Snapshot

end LogShipper
