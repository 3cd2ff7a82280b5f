import LogShipper.Text.CodePoint

/-!
# Names of settings

Each setting has a name in the configuration file and a variable in the environment; all but the
input file also have a flag on the command line.
-/

namespace LogShipper

inductive Setting where
  | url
  | apiKey
  | messageField
  | serverHostField
  | logfileField
  | parserField
  | batchSize
  | requestTimeout
  | inputFile
  deriving DecidableEq, Repr

namespace Setting

/-- All settings, in the order in which they are reported. -/
def all : List Setting :=
  [.url, .apiKey, .messageField, .serverHostField, .logfileField, .parserField, .batchSize,
    .requestTimeout, .inputFile]

/-- The name in the configuration file. -/
def name : Setting → Text
  | .url => "addevents_url"
  | .apiKey => "api_key"
  | .messageField => "message_field"
  | .serverHostField => "server_host_field"
  | .logfileField => "logfile_field"
  | .parserField => "parser_field"
  | .batchSize => "batch_size"
  | .requestTimeout => "request_timeout"
  | .inputFile => "input_file"

/-- The variable in the environment. -/
def environmentVariable : Setting → Text
  | .url => "ADDEVENTS_URL"
  | .apiKey => "ADDEVENTS_API_KEY"
  | .messageField => "MESSAGE_FIELD"
  | .serverHostField => "SERVER_HOST_FIELD"
  | .logfileField => "LOGFILE_FIELD"
  | .parserField => "PARSER_FIELD"
  | .batchSize => "BATCH_SIZE"
  | .requestTimeout => "REQUEST_TIMEOUT"
  | .inputFile => "INPUT_FILE"

/-- The setting of a name. -/
def ofName? (t : Text) : Option Setting :=
  all.find? (·.name = t)

/-- Whether the value of a setting is a text. -/
def isText : Setting → Bool
  | .batchSize | .requestTimeout => false
  | _ => true

theorem mem_all (setting : Setting) : setting ∈ all := by
  cases setting <;> decide

theorem ofName?_name (setting : Setting) : ofName? setting.name = some setting := by
  cases setting <;> decide

end Setting

end LogShipper
