import LogShipper.Json.Value
import LogShipper.Number

/-!
# Settings of a run

Where to send events and with which key, under which names the fields of a record are found, how
many records make a batch, how long to wait for the server, and where the records are.
-/

namespace LogShipper

/-- The names under which the fields of a record are found.  A name should be a text; any other
value finds nothing. -/
structure FieldNames where
  message : Json := .text "message"
  serverHost : Json := .text "host.name"
  logfile : Json := .text "log.file.path"
  parser : Json := .text "parser"
  deriving Inhabited

/-- The settings of a run.  The URL should be a text, too. -/
structure Config where
  url : Json := .text "https://app.scalyr.com"
  apiKey : Text := []
  fields : FieldNames := {}
  batchSize : Int := 100
  requestTimeout : Option Number := none
  inputFile : Option Text := none
  deriving Inhabited

end LogShipper
