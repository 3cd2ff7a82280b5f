import LogShipper.Client
import LogShipper.Record
import LogShipper.Services

/-!
# Shippers

A shipper owns one client from its start to its stop and sends each batch of records as one request.
A batch that fails is counted and the failure handed on; whether to try again is for the caller to
decide.  A shipper starts once and does not start after it has been stopped.
-/

namespace LogShipper

/-- Why a call on a shipper fails. -/
inductive ShipperFault where
  | startedBefore
  | notRunning
  | endpoint (fault : EndpointFault)
  | mapping (fault : MappingFault)
  | client (fault : ClientFault)
  | arithmetic (fault : ArithmeticFault)
  deriving Inhabited

namespace ShipperFault

def message : ShipperFault → Text
  | .startedBefore => "SinkTask can only be started once"
  | .notRunning => "SinkTask is not running"
  | .endpoint fault => fault.message
  | .mapping fault => fault.message
  | .client fault => fault.message
  | .arithmetic fault => fault.message

/-- Whether a fault is one of the settings. -/
def isSettings : ShipperFault → Bool
  | .endpoint fault => fault.isSettings
  | _ => false

end ShipperFault

structure Shipper where
  config : Config
  metrics : Metrics
  client : Option Client := none
  isStopped : Bool := false

/-- What a call on a shipper leaves behind. -/
structure ShipperStep where
  result : Except ShipperFault Unit
  shipper : Shipper
  services : Services

namespace Shipper

/-- A shipper that is not started.  Its metrics are collected from now on. -/
def create (config : Config) (services : Services) : Shipper × Services :=
  let (now, services) := services.readClock
  (⟨config, { startTime := now }, none, false⟩, services)

/-- The session of the shipper, once it has been started. -/
def session? (shipper : Shipper) : Option Text :=
  shipper.client.map Client.session

def isRunning (shipper : Shipper) : Bool :=
  shipper.client.isSome && !shipper.isStopped

/-- Starts the shipper.  A session id is used up only if the endpoint can be used. -/
def start (shipper : Shipper) (services : Services) : ShipperStep :=
  if shipper.client.isSome || shipper.isStopped then ⟨.error .startedBefore, shipper, services⟩
  else
    -- The services get the remaining ids only in the branch that succeeds.
    let (session, sessions) := services.sessions.take
    match Client.connect shipper.config.url shipper.config.apiKey session
        shipper.config.requestTimeout with
    | .error fault => ⟨.error (.endpoint fault), shipper, services⟩
    | .ok client =>
      ⟨.ok (), { shipper with client := some client },
        { services with sessions }.report (.shipperStarted client.url client.session)⟩

/-- Counts a failure under its name and reports it, if it is one of the batch. -/
def fail (shipper : Shipper) (services : Services) (countedAs? : Option Text) (notice : Notice)
    (fault : ShipperFault) : ShipperStep :=
  match countedAs? with
  | none => ⟨.error fault, shipper, services⟩
  | some kind =>
    ⟨.error fault, { shipper with metrics := shipper.metrics.recordFailure kind },
      services.report notice⟩

/-- The notice of a batch that was sent, if the time that it took can be shown. -/
def sentNotice? (events bytes : Nat) (millis : Number) : Option Notice :=
  match millis.toFloat with
  | .error _ => none
  | .ok millis => some (.batchSent events bytes millis)

/-- Counts a batch that the server accepted, given the clock's reading before it was sent, and
reports it. -/
def succeed (shipper : Shipper) (services : Services) (events bytes : Nat) (began : Number) :
    ShipperStep :=
  let (now, services) := services.readClock
  match Clock.millisBetween began now with
  | .error fault => ⟨.error (.arithmetic fault), shipper, services⟩
  | .ok millis =>
    ⟨.ok (), { shipper with metrics := shipper.metrics.recordBatch events bytes millis },
      services.report? (sentNotice? events bytes millis)⟩

/-- Sends events through the client of the shipper. -/
def deliver (shipper : Shipper) (client : Client) (events : List Event) (services : Services) :
    ShipperStep :=
  let (began, services) := services.readClock
  let logged := client.log events services.transport
  let services := { services with transport := logged.transport }.receive logged.signal
  let shipper := { shipper with client := some logged.client }
  match logged.result with
  | .error fault =>
    shipper.fail services fault.countedAs? (.batchFailed events.length fault.message)
      (.client fault)
  | .ok _ => shipper.succeed services events.length logged.client.lastPayloadBytes began

/-- Sends records as one batch; an empty batch is passed over. -/
def put (shipper : Shipper) (records : List Record) (services : Services) : ShipperStep :=
  match shipper.client with
  | none => ⟨.error .notRunning, shipper, services⟩
  | some client =>
    if shipper.isStopped then ⟨.error .notRunning, shipper, services⟩
    else if records.isEmpty then ⟨.ok (), shipper, services⟩
    else
      let (mapped, timeOfDay) :=
        Record.toEvents shipper.config.fields services.timeOfDay records
      let services := { services with timeOfDay }
      match mapped with
      | .error fault =>
        shipper.fail services fault.countedAs? (.batchUnmappable records.length fault.message)
          (.mapping fault)
      | .ok events => shipper.deliver client events services

/-- The notice of the last metrics, if all integers among them can be shown. -/
def metricsNotice? (snapshot : Snapshot) : Option Notice :=
  if snapshot.document.hasOversized then none else some (.finalMetrics snapshot)

/-- Stops the shipper for good: closes its client and reports the metrics. -/
def stop (shipper : Shipper) (services : Services) : ShipperStep :=
  if shipper.isStopped then ⟨.ok (), shipper, services⟩
  else
    let shipper := { shipper with isStopped := true, client := shipper.client.map Client.close }
    match shipper.metrics.snapshot services.clock with
    | (.error fault, clock) => ⟨.error (.arithmetic fault), shipper, { services with clock }⟩
    | (.ok snapshot, clock) =>
      ⟨.ok (), shipper, { services with clock }.report? (metricsNotice? snapshot)⟩

end Shipper

end LogShipper
