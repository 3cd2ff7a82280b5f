import LogShipper.Arguments
import LogShipper.Config
import LogShipper.Config.Conversion
import LogShipper.FileTree
import LogShipper.Notice
import LogShipper.TextFile
import LogShipper.Yaml

/-!
# Where settings come from

A setting is taken from the command line, else from the environment, else from the configuration
file, else it has its default.  The file holds a mapping; keys that name no setting are ignored,
and reported if they can be shown, and a setting that is a text must be one there, or null.  The
whole needs an api key and a positive batch size.
-/

namespace LogShipper

/-! ## 1. Faults -/

/-- What is wrong with the settings. -/
inductive ConfigFault where
  | notMapping (path : Text)
  | notText (setting : Setting) (value : Yaml.Value)
  | notNumber (fault : ConversionFault)
  | keyMissing
  | notPositive (batchSize : Int)
  deriving Inhabited

def ConfigFault.message : ConfigFault → Text
  | .notMapping path => "Config file " ++ path ++ " must contain a mapping"
  | .notText setting value =>
    "Config key " ++ Text.quoted setting.name ++ " must be a string, got " ++ value.kind ++ " " ++
      value.literal ++ "; quote the value in the YAML file"
  | .notNumber fault => "Invalid configuration value: " ++ fault.message
  | .keyMissing =>
    "An api key is required (--api-key or " ++ Setting.environmentVariable .apiKey ++ ")"
  | .notPositive batchSize => "batch_size must be positive, got " ++ Integer.toText batchSize

/-- Why there are no settings: they are wrong, or the file cannot be read, or a value in it has no
use at all. -/
inductive LoadFault where
  | config (fault : ConfigFault)
  | file (fault : OpenFault)
  | encoding (fault : DecodeFault)
  | yaml (fault : Yaml.Fault)
  | arithmetic (fault : ArithmeticFault)
  | unshowable (cause : Yaml.ShowFault)
  deriving Inhabited

def LoadFault.message : LoadFault → Text
  | .config fault => fault.message
  | .file fault => fault.message
  | .encoding fault => fault.message
  | .yaml fault => fault.message
  | .arithmetic fault => fault.message
  | .unshowable cause => cause.message

/-- Something that was loaded or not, and what was reported about it. -/
structure Loaded (α : Type) where
  result : Except LoadFault α
  notices : List Notice := []

/-! ## 2. The configuration file -/

/-- The keys in a configuration file with their values, which are parts of a document. -/
structure ConfigFile where
  document : Yaml.Document := .null
  pairs : List (Yaml.Scalar × Yaml.Item) := []
  deriving Inhabited

namespace ConfigFile

/-- The keys and values in the document of a file. -/
def ofDocument (path : Text) (document : Yaml.Document) : Except LoadFault ConfigFile :=
  if document.isVoid then .ok {}
  else
    match document.pairs? with
    | some pairs => .ok ⟨document, pairs⟩
    | none => .error (.config (.notMapping path))

/-- Reads the document in the bytes of a file. -/
def parse (bytes : Bytes) : Except LoadFault Yaml.Document :=
  match TextFile.content bytes with
  | .error fault => .error (.encoding fault)
  | .ok t =>
    match Yaml.read t with
    | .error fault => .error (.yaml fault)
    | .ok document => .ok document

/-- Loads a file.  Without a path there are no keys, nor are there if the file is missing. -/
def load (openFile : Text → Except OpenFault Bytes) : Option Text → Loaded ConfigFile
  | none | some [] => { result := .ok {} }
  | some path =>
    match openFile path with
    | .error (.missing _) => ⟨.ok {}, [.settingsMissing path]⟩
    | .error fault => { result := .error (.file fault) }
    | .ok bytes =>
      match parse bytes with
      | .error fault => { result := .error fault }
      | .ok document => ⟨ofDocument path document, [.settingsLoaded path]⟩

end ConfigFile

/-- The values of settings; of several for one setting the first counts. -/
abbrev SettingValues := List (Setting × Yaml.Value)

/-- Whether a value in the file is of the kind that the setting asks for. -/
def Setting.accepts (setting : Setting) : Yaml.Value → Bool
  | .null | .text _ => true
  | _ => !setting.isText

/-- Why a value in the file is not taken; it is shown, if it can be. -/
def Setting.refuse (setting : Setting) (value : Yaml.Value) : LoadFault :=
  match value.showFault? Yaml.maxShownDepth with
  | some cause => .unshowable cause
  | none => .config (.notText setting value)

/-- The setting that a key names. -/
def Setting.ofKey? : Yaml.Scalar → Option Setting
  | .text t => ofName? t
  | _ => none

/-- The notice of a key that is ignored, if the key can be shown. -/
def ignoredNotice? (key : Yaml.Scalar) : Option Notice :=
  if key.isOversized then none else some (.settingIgnored key.literal)

/-- The settings among the keys of a document. -/
def settingValues (document : Yaml.Document) :
    List (Yaml.Scalar × Yaml.Item) → Loaded SettingValues
  | [] => { result := .ok [] }
  | (key, item) :: rest =>
    match Setting.ofKey? key with
    | none =>
      let loaded := settingValues document rest
      { loaded with notices := (ignoredNotice? key).toList ++ loaded.notices }
    | some setting =>
      let value := document.value item
      if !setting.accepts value then { result := .error (setting.refuse value) }
      else
        let loaded := settingValues document rest
        { loaded with result := loaded.result.map ((setting, value) :: ·) }

/-- The settings in a file. -/
def ConfigFile.values (file : ConfigFile) : Loaded SettingValues :=
  settingValues file.document file.pairs

/-! ## 3. All sources -/

/-- Variables and their values. -/
abbrev Environment := List (Text × Text)

/-- The settings in the environment. -/
def environmentValues (environment : Environment) : SettingValues :=
  Setting.all.filterMap fun setting =>
    (environment.lookup setting.environmentVariable).map fun t => (setting, .text t)

/-- The values from the command line, the environment and the file, by their precedence. -/
def mergeSources (arguments : Arguments) (environment : Environment) (file : SettingValues) :
    SettingValues :=
  arguments.values ++ environmentValues environment ++ file

/-- The value of a setting that should be a text: the file may give null, and the command line an
empty list of words. -/
def givenOr (values : SettingValues) (setting : Setting) (default : Json) : Json :=
  match values.lookup setting with
  | none => default
  | some (.text t) => .text t
  | some (.list _) => .array []
  | some _ => .null

/-- The text of a setting, if it is given. -/
def text? (values : SettingValues) (setting : Setting) : Option Text :=
  match givenOr values setting .null with
  | .text t => some t
  | _ => none

/-- The number of a setting. -/
def numberOr {α : Type} (convert : Yaml.Value → Conversion α) (values : SettingValues)
    (setting : Setting) (default : α) : Except LoadFault α :=
  match values.lookup setting with
  | none => .ok default
  | some value =>
    match convert value with
    | .done a => .ok a
    | .refused fault => .error (.config (.notNumber fault))
    | .impossible fault => .error (.arithmetic fault)
    | .tooDeep => .error (.unshowable .tooDeep)

/-- The settings that given values make. -/
def Config.ofValues (values : SettingValues) : Except LoadFault Config := do
  let default : Config := {}
  let batchSize ← numberOr Yaml.Value.toInteger values .batchSize default.batchSize
  let requestTimeout ← numberOr Yaml.Value.toReal? values .requestTimeout none
  -- Both numbers are read before it is asked what they and the key are.
  let apiKey := (text? values .apiKey).getD []
  if apiKey.isEmpty then throw (.config .keyMissing)
  if batchSize ≤ 0 then
    throw (if Integer.isOversized batchSize then .unshowable .oversized
      else .config (.notPositive batchSize))
  return {
    url := givenOr values .url default.url
    apiKey
    fields := {
      message := givenOr values .messageField default.fields.message
      serverHost := givenOr values .serverHostField default.fields.serverHost
      logfile := givenOr values .logfileField default.fields.logfile
      parser := givenOr values .parserField default.fields.parser }
    batchSize
    requestTimeout := requestTimeout.map .float
    inputFile := text? values .inputFile }

/-- Loads the settings of a run. -/
def Config.load (arguments : Arguments) (environment : Environment)
    (openFile : Text → Except OpenFault Bytes) : Loaded Config :=
  let loaded := ConfigFile.load openFile arguments.configPath
  match loaded.result with
  | .error fault => ⟨.error fault, loaded.notices⟩
  | .ok file =>
    let values := file.values
    ⟨values.result.bind fun values => ofValues (mergeSources arguments environment values),
      loaded.notices ++ values.notices⟩

end LogShipper
