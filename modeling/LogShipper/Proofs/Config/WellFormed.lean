import LogShipper.Proofs.Config.Sources
import LogShipper.Proofs.Record.Mapping

/-!
# Settings of the right kinds

Settings that are loaded hold a key, a positive batch size, and a time to wait that is a real number
or absent.  The URL and the names of the fields are texts, too, unless null in the file or the
separator on the command line decides one of them.  A record that was read makes an event exactly if
the names of the fields are texts.
-/

namespace LogShipper.Config

/-- Settings in which everything is of its kind: the input file alone may be absent. -/
structure IsWellFormed (config : Config) : Prop where
  texts : ∀ setting, setting.isText = true → setting ≠ .inputFile →
    ∃ t, config.textOf setting = .text t
  apiKey : config.apiKey ≠ []
  batchSize : 1 ≤ config.batchSize
  requestTimeout : ∀ timeout ∈ config.requestTimeout, ∃ x, timeout = .float x

/-- Sources whose highest give texts for the settings that have to be texts. -/
def GiveTexts (source? : Setting → Option Yaml.Value) : Prop :=
  ∀ setting, setting.isText = true → setting ≠ .inputFile → ∀ value, source? setting = some value →
    ∃ t, value = .text t

variable {arguments : Arguments} {environment : Environment} {file : ConfigFile}
  {values : SettingValues} {config : Config} {source? : Setting → Option Yaml.Value}
  {setting : Setting}

/-! ## 1. Kinds of values -/

theorem textOf_default (htext : setting.isText = true) (hrequired : setting ≠ .inputFile) :
    ∃ t, ({} : Config).textOf setting = .text t := by
  cases setting with
  | inputFile => exact absurd rfl hrequired
  | batchSize | requestTimeout => cases htext
  | _ => exact ⟨_, rfl⟩

theorem IsFrom.float_of_mem (h : config.IsFrom source?) :
    ∀ timeout ∈ config.requestTimeout, ∃ x, timeout = .float x := by
  intro timeout hmem
  have htimeout := h.requestTimeout
  cases hsource : source? .requestTimeout with
  | none =>
    rw [hsource, Option.elim_none] at htimeout
    rw [htimeout] at hmem
    cases hmem
  | some value =>
    rw [hsource, Option.elim_some] at htimeout
    obtain ⟨x, -, hx⟩ := htimeout
    rw [hx] at hmem
    obtain ⟨y, -, rfl⟩ := Option.map_eq_some_iff.1 hmem
    exact ⟨y, rfl⟩

/-- A setting that has to be a text is one, unless its highest source gives null or no words. -/
theorem IsFrom.textOf_cases (h : config.IsFrom (Config.source? arguments environment file))
    (harguments : arguments.AreTexts) (hfile : file.values.result = .ok values)
    (htext : setting.isText = true) (hrequired : setting ≠ .inputFile) :
    (∃ t, config.textOf setting = .text t) ∧
        (∀ value, Config.source? arguments environment file setting = some value →
          ∃ t, value = .text t) ∨
      config.textOf setting = .null ∧
        Config.source? arguments environment file setting = some .null ∨
      config.textOf setting = .array [] ∧
        Config.source? arguments environment file setting = some (.list []) := by
  have hvalue := h.texts setting htext
  cases hsource : Config.source? arguments environment file setting with
  | none =>
    obtain ⟨t, ht⟩ := textOf_default htext hrequired
    rw [hsource, Option.elim_none, ht] at hvalue
    exact .inl ⟨⟨t, hvalue⟩, nofun⟩
  | some value =>
    rw [hsource, Option.elim_some] at hvalue
    rcases source?_cases harguments hfile htext hsource with ⟨t, rfl⟩ | ⟨rfl, -⟩ | ⟨rfl, -⟩
    · refine .inl ⟨⟨t, hvalue⟩, fun value hvalue => ?_⟩
      exact ⟨t, (Option.some.inj hvalue).symm⟩
    · exact .inr (.inl ⟨hvalue, rfl⟩)
    · exact .inr (.inr ⟨hvalue, rfl⟩)

theorem IsWellFormed.areTexts (h : config.IsWellFormed) : config.fields.AreTexts := by
  obtain ⟨message, hmessage⟩ := h.texts .messageField rfl nofun
  obtain ⟨serverHost, hserverHost⟩ := h.texts .serverHostField rfl nofun
  obtain ⟨logfile, hlogfile⟩ := h.texts .logfileField rfl nofun
  obtain ⟨parser, hparser⟩ := h.texts .parserField rfl nofun
  refine ⟨message, serverHost, logfile, parser, ?_⟩
  obtain ⟨url, apiKey, ⟨m, s, l, p⟩, batchSize, requestTimeout, inputFile⟩ := config
  obtain rfl : m = .text message := hmessage
  obtain rfl : s = .text serverHost := hserverHost
  obtain rfl : l = .text logfile := hlogfile
  obtain rfl : p = .text parser := hparser
  rfl

/-! ## 2. Settings that are loaded -/

theorem isWellFormed_iff (h : config.IsFrom (Config.source? arguments environment file))
    (harguments : arguments.AreTexts) (hfile : file.values.result = .ok values)
    (husable : config.apiKey ≠ [] ∧ 0 < config.batchSize) :
    config.IsWellFormed ↔ GiveTexts (Config.source? arguments environment file) := by
  constructor
  · intro hformed setting htext hrequired
    rcases h.textOf_cases harguments hfile htext hrequired with
      ⟨-, hsource⟩ | ⟨hvalue, -⟩ | ⟨hvalue, -⟩
    · exact hsource
    · obtain ⟨t, ht⟩ := hformed.texts setting htext hrequired
      rw [hvalue] at ht
      cases ht
    · obtain ⟨t, ht⟩ := hformed.texts setting htext hrequired
      rw [hvalue] at ht
      cases ht
  · intro hsources
    refine ⟨fun setting htext hrequired => ?_, husable.1, husable.2, h.float_of_mem⟩
    rcases h.textOf_cases harguments hfile htext hrequired with
      ⟨hvalue, -⟩ | ⟨-, hsource⟩ | ⟨-, hsource⟩
    · exact hvalue
    · obtain ⟨t, ht⟩ := hsources setting htext hrequired _ hsource
      cases ht
    · obtain ⟨t, ht⟩ := hsources setting htext hrequired _ hsource
      cases ht

/-- Settings that are loaded hold a key, a positive batch size and a real number or nothing as the
time to wait.  A setting that has to be a text is one, or it is null or an empty list because the
highest of its sources gives that; so everything is of its kind exactly if each source that counts
gives a text.  Then every object that was read makes an event.  If the name of a field is no text,
none does, and that name is the fault. -/
theorem load_isWellFormed {words : List Text} {openFile : Text → Except OpenFault Bytes}
    (hread : Arguments.read words = .ok arguments)
    (h : (load arguments environment openFile).result = .ok config) :
    ∃ file, (ConfigFile.load openFile arguments.configPath).result = .ok file ∧
      config.apiKey ≠ [] ∧ 1 ≤ config.batchSize ∧
      (∀ timeout ∈ config.requestTimeout, ∃ x, timeout = .float x) ∧
      (∀ setting, setting.isText = true → setting ≠ .inputFile →
        (∃ t, config.textOf setting = .text t) ∨
          config.textOf setting = .null ∧
            Config.source? arguments environment file setting = some .null ∨
          config.textOf setting = .array [] ∧
            Config.source? arguments environment file setting = some (.list [])) ∧
      (config.IsWellFormed ↔ GiveTexts (Config.source? arguments environment file)) ∧
      ∀ (record : Record) (t : Text) (now : Int), Json.read t = .ok record.value →
        record.IsObject →
          (config.fields.AreTexts →
            ∃ event, record.toEvent config.fields now = .ok event) ∧
          (¬ config.fields.AreTexts →
            ∃ name ∈ [config.fields.message, config.fields.logfile, config.fields.serverHost,
                config.fields.parser],
              (∀ t, name ≠ .text t) ∧
                record.toEvent config.fields now = .error (.notName name)) := by
  have harguments := Arguments.areTexts_read hread
  have husable := usable_of_load h
  obtain ⟨file, values, hfile, hvalues, hfrom⟩ := isFrom_of_load hread h
  refine ⟨file, hfile, husable.1, husable.2, hfrom.float_of_mem, ?_,
    isWellFormed_iff hfrom harguments hvalues husable, ?_⟩
  · intro setting htext hrequired
    rcases hfrom.textOf_cases harguments hvalues htext hrequired with ⟨hvalue, -⟩ | hnull | hlist
    · exact .inl hvalue
    · exact .inr (.inl hnull)
    · exact .inr (.inr hlist)
  · intro record t now hrecord hobject
    have hsound : record.IsSound := ⟨Json.hasOversized_of_read hrecord, hobject⟩
    exact ⟨fun hfields => Record.exists_toEvent hfields now hsound,
      fun hfields => Record.toEvent_of_not_areTexts hfields now hsound⟩

/-- A file in which the name of the message's field is null. -/
def nullNamed : Bytes :=
  "message_field: null\n".toList.flatMap Utf8.encodeChar

def nullNamedArguments : Arguments :=
  ⟨some "c.yaml", [(.apiKey, .text "k")]⟩

def emptyRecord : Record :=
  ⟨"t", 0, 0, .object [], none⟩

/-- Without a file everything is of its kind and an empty object makes an event; with a file that
says null it makes none. -/
theorem sample_isWellFormed :
    (∃ config event, (load ⟨none, [(.apiKey, .text "k")]⟩ [] fun _ => .ok []).result = .ok config ∧
      config.IsWellFormed ∧ emptyRecord.toEvent config.fields 0 = .ok event) ∧
    ∃ config name, (load nullNamedArguments [] fun _ => .ok nullNamed).result = .ok config ∧
      ¬ config.IsWellFormed ∧ emptyRecord.toEvent config.fields 0 = .error (.notName name) := by
  have hrecord : Json.read "\x7b\x7d" = .ok emptyRecord.value := by cbv
  have hobject : emptyRecord.IsObject := ⟨_, rfl⟩
  refine ⟨?_, ?_⟩
  · have hread : Arguments.read ["--api-key", "k"] = .ok ⟨none, [(.apiKey, .text "k")]⟩ := by rfl
    have hload : (load ⟨none, [(.apiKey, .text "k")]⟩ [] fun _ => .ok []).result =
        .ok { apiKey := "k" } := by rfl
    obtain ⟨file, hfile, -, -, -, -, hformed, hevents⟩ := load_isWellFormed hread hload
    obtain rfl := Except.ok.inj hfile
    obtain ⟨event, hevent⟩ := (hevents emptyRecord _ 0 hrecord hobject).1 ⟨_, _, _, _, rfl⟩
    refine ⟨_, event, hload, hformed.2 fun setting _ _ value hvalue => ?_, hevent⟩
    cases setting <;> cases hvalue
    exact ⟨"k", rfl⟩
  · have hread : Arguments.read ["--config", "c.yaml", "--api-key", "k"] =
        .ok nullNamedArguments := by rfl
    have hnull : ((load nullNamedArguments [] fun _ => .ok nullNamed).result.toOption.any
        fun config => config.fields.message.kind = Json.null.kind) = true := by decide +kernel
    obtain ⟨config, hconfig, hkind⟩ := (Option.any_eq_true _ _).1 hnull
    have hload := eq_ok_of_toOption hconfig
    have hfields : ¬ config.fields.AreTexts := by
      rintro ⟨message, serverHost, logfile, parser, hfields⟩
      rw [hfields] at hkind
      have htext : (Json.text message).kind = Json.null.kind := of_decide_eq_true hkind
      exact absurd htext (show ("str" : Text) ≠ "NoneType" by decide)
    obtain ⟨-, -, -, -, -, -, -, hevents⟩ := load_isWellFormed hread hload
    obtain ⟨name, -, -, hfault⟩ := (hevents emptyRecord _ 0 hrecord hobject).2 hfields
    exact ⟨config, name, hload, fun hformed => hfields hformed.areTexts, hfault⟩

end LogShipper.Config
