import LogShipper.Config.Loading
import LogShipper.Depot
import LogShipper.Record.Line
import LogShipper.Shipper

/-!
# Runs

A run loads its settings, starts a shipper, ships the records in the lines of its input in batches,
and stops the shipper, however shipping ends.  A batch that the server did not accept, or that
could not be sent, ends the run with code 1; settings that are wrong, with code 2.
-/

namespace LogShipper

/-- What ends a run before its time and is no matter of settings or batches. -/
inductive RunFault where
  | load (fault : LoadFault)
  | shipper (fault : ShipperFault)
  | file (fault : OpenFault)
  | encoding (fault : DecodeFault)
  | record (cause : Json.Excess)
  deriving Inhabited

def RunFault.message : RunFault → Text
  | .load fault => fault.message
  | .shipper fault => fault.message
  | .file fault => fault.message
  | .encoding fault => fault.message
  | .record cause => cause.message

/-- How a run ends. -/
inductive Ending where
  | exit (code : Nat)
  | leave (leave : Leave)
  | broken (fault : RunFault)
  deriving Inhabited

/-- What a run finds: its words, the environment, the files, and its input, in the portions in which
it arrives. -/
structure Situation where
  words : List Text
  environment : Environment
  openFile : Text → Except OpenFault Bytes
  input : List Bytes

namespace Run

/-- A shipper at work. -/
abbrev State := Shipper × Services

/-- The lines of the input, the topic of their records, and what is wrong behind the lines. -/
structure Source where
  topic : Text
  file : TextFile

/-- The topic of records that come with the input of the run. -/
def inputTopic : Text := "stdin"

/-- The file of records that the settings name, or the input of the run. -/
def source (config : Config) (situation : Situation) : Except RunFault Source :=
  match config.inputFile with
  | none | some [] => .ok ⟨inputTopic, .ofPortions situation.input⟩
  | some path =>
    match situation.openFile path with
    | .ok bytes => .ok ⟨Path.stem (Path.baseName path), .ofBytes bytes⟩
    | .error fault => .error (.file fault)

/-- Reports while records are read. -/
def reporting (notice : Notice) : Supply State RunFault Record :=
  .event fun (shipper, services) => (shipper, services.report notice)

/-- What a line supplies. -/
def supplyOfLine : RecordLine → List (Supply State RunFault Record)
  | .blank => []
  | .skipped notice => [reporting notice]
  | .record record => [.item record]
  | .unreadable cause => [.fault (.record cause)]

/-- The records of a source, with what is reported between them and what ends them. -/
def supply (source : Source) : List (Supply State RunFault Record) :=
  (RecordLine.readAll source.topic source.file.lines).flatMap supplyOfLine ++
    source.file.fault.toList.map fun fault => .fault (.encoding fault)

/-- Puts batches through the shipper until a stop is asked for. -/
def depot : Depot State RunFault Record where
  put := fun records (shipper, services) =>
    let step := shipper.put records services
    (step.result.mapError .shipper, step.shipper, step.services)
  isStopping := fun (_, services) => services.stopRequested

/-- Ships all records; the answer is the number of batches. -/
def ship (config : Config) (situation : Situation) (state : State) :
    Except RunFault Nat × State :=
  match source config situation with
  | .error fault => (.error fault, state)
  | .ok source => depot.ship config.batchSize (supply source) state

/-- Whether a fault is the failure of a batch, which was counted and reported. -/
def isBatchFailure : RunFault → Bool
  | .shipper (.client fault) => fault.countedAs?.isSome
  | _ => false

/-- Ends a run whose shipper has been stopped. -/
def conclude (result : Except RunFault Nat) (services : Services) : Ending × Services :=
  match result with
  | .ok batches => (.exit 0, services.report (.shipped batches))
  | .error fault => (if isBatchFailure fault then .exit 1 else .broken fault, services)

/-- Ships with a shipper that has been started, and stops it. -/
def finish (config : Config) (situation : Situation) (state : State) : Ending × Services :=
  let (result, shipper, services) := ship config situation state
  -- However shipping ended, the shipper is stopped; a fault in that hides the one before.
  let stopped := shipper.stop services
  match stopped.result with
  | .error fault => (.broken (.shipper fault), stopped.services)
  | .ok () => conclude result stopped.services

/-- Runs with settings that have been loaded. -/
def withConfig (config : Config) (situation : Situation) (services : Services) :
    Ending × Services :=
  let (shipper, services) := Shipper.create config services
  let started := shipper.start services
  match started.result with
  | .ok () => finish config situation (started.shipper, started.services)
  | .error fault =>
    if fault.isSettings then
      (.exit 2, started.services.report (.shipperUnstartable fault.message))
    else (.broken (.shipper fault), started.services)

end Run

/-- Runs. -/
def run (situation : Situation) (services : Services) : Ending × Services :=
  match Arguments.read situation.words with
  | .error leave => (.leave leave, services)
  | .ok arguments =>
    let loaded := Config.load arguments situation.environment situation.openFile
    let services := loaded.notices.foldl Services.report services
    match loaded.result with
    | .ok config => Run.withConfig config situation services
    | .error (.config fault) => (.exit 2, services.report (.settingsInvalid fault.message))
    | .error fault => (.broken (.load fault), services)

end LogShipper
