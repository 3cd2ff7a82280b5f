import LogShipper.Metrics
import LogShipper.Number.FixedPoint
import LogShipper.Transport

/-!
# Notices

What a run reports about itself: each notice has a level and comes from one of three channels, and
`Notice.line` is how it is written.  There is no notice of what cannot be written.
-/

namespace LogShipper

inductive Level where
  | info
  | warning
  | error
  deriving DecidableEq, Repr

def Level.name : Level → Text
  | .info => "INFO"
  | .warning => "WARNING"
  | .error => "ERROR"

/-- The part of a run that reports. -/
inductive Channel where
  | settings
  | shipper
  | run
  deriving DecidableEq, Repr

def Channel.name : Channel → Text
  | .settings => "addevents_sink.config"
  | .shipper => "addevents_sink.sink_task"
  | .run => "addevents_sink.cli"

inductive Notice where
  | settingsLoaded (path : Text)
  | settingsMissing (path : Text)
  | settingIgnored (key : Text)
  | lineUnreadable (number : Nat) (line : Text)
  | lineNotObject (number : Nat)
  | shipperStarted (url session : Text)
  | batchUnmappable (records : Nat) (reason : Text)
  | batchFailed (events : Nat) (reason : Text)
  | batchSent (events bytes : Nat) (millis : Binary64)
  | finalMetrics (snapshot : Snapshot)
  | settingsInvalid (reason : Text)
  | shipperUnstartable (reason : Text)
  | signalReceived (signal : Signal)
  | shipped (batches : Nat)
  deriving DecidableEq, Repr

namespace Notice

def level : Notice → Level
  | .settingsLoaded _ | .shipperStarted .. | .batchSent .. | .finalMetrics _ | .signalReceived _
  | .shipped _ => .info
  | .settingsMissing _ | .settingIgnored _ | .lineUnreadable .. | .lineNotObject _ => .warning
  | .batchUnmappable .. | .batchFailed .. | .settingsInvalid _ | .shipperUnstartable _ => .error

def channel : Notice → Channel
  | .settingsLoaded _ | .settingsMissing _ | .settingIgnored _ => .settings
  | .shipperStarted .. | .batchUnmappable .. | .batchFailed .. | .batchSent ..
  | .finalMetrics _ => .shipper
  | .lineUnreadable .. | .lineNotObject _ | .settingsInvalid _ | .shipperUnstartable _
  | .signalReceived _ | .shipped _ => .run

/-- The text of a notice.  An ignored key is given as a literal. -/
def message : Notice → Text
  | .settingsLoaded path => "Loaded YAML config from " ++ path
  | .settingsMissing path => "Config file " ++ path ++ " not found, using defaults"
  | .settingIgnored key => "Ignoring unknown config key " ++ key
  | .lineUnreadable number line =>
    "Skipping invalid JSON at line " ++ Integer.toText number ++ ": " ++ line
  | .lineNotObject number => "Skipping non-object record at line " ++ Integer.toText number
  | .shipperStarted url session => "Sink task started: url=" ++ url ++ ", session=" ++ session
  | .batchUnmappable records reason =>
    "Could not map batch of " ++ Integer.toText records ++ " records: " ++ reason
  | .batchFailed events reason =>
    "addEvents batch of " ++ Integer.toText events ++ " events failed: " ++ reason
  | .batchSent events bytes millis =>
    "Sent batch of " ++ Integer.toText events ++ " events (" ++ Integer.toText bytes ++
      " bytes) in " ++ millis.toTenths ++ "ms"
  | .finalMetrics snapshot => "Sink task metrics: " ++ snapshot.document.literal
  | .settingsInvalid reason => reason
  | .shipperUnstartable reason => "Could not start sink task: " ++ reason
  | .signalReceived signal =>
    "Received signal " ++ Integer.toText signal.number ++ ", shutting down..."
  | .shipped batches => "Shipped " ++ Integer.toText batches ++ " batch(es)"

/-- A notice as it is written. -/
def line (notice : Notice) : Text :=
  notice.level.name ++ " " ++ notice.channel.name ++ ": " ++ notice.message

end Notice

end LogShipper
