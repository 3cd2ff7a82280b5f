import LogShipper.Proofs.Config.Precedence
import LogShipper.Proofs.Yaml.Keys
import LogShipper.Proofs.Yaml.Literal

/-!
# What a file says is heeded

Of a file that holds a mapping each key names a setting, and its value takes effect unless a higher
source gives another, or one warning names it.  Only a key that is too long to be shown is passed
over in silence.  A file that holds anything else is refused, unless what it holds counts as
nothing; then it counts as an empty file, also if it is a list or a text.
-/

namespace LogShipper

variable {document : Yaml.Document} {pairs : List (Yaml.Scalar × Yaml.Item)}
  {values : SettingValues} {setting : Setting} {arguments : Arguments} {environment : Environment}

/-! ## 1. Warnings -/

/-- The warnings about the keys that name no setting and can be shown. -/
def ignoredKeys (pairs : List (Yaml.Scalar × Yaml.Item)) : List Notice :=
  (pairs.filter fun entry => (Setting.ofKey? entry.1).isNone).filterMap fun entry =>
    ignoredNotice? entry.1

theorem ignoredNotice?_eq_some_iff {key : Yaml.Scalar} {notice : Notice} :
    ignoredNotice? key = some notice ↔
      key.isOversized = false ∧ notice = .settingIgnored key.literal := by
  unfold ignoredNotice?
  by_cases hsize : key.isOversized = true
  · simp [hsize]
  · simp [hsize, eq_comm]

theorem notices_settingValues (h : (settingValues document pairs).result = .ok values) :
    (settingValues document pairs).notices = ignoredKeys pairs := by
  induction pairs generalizing values with
  | nil => rfl
  | cons entry pairs ih =>
    obtain ⟨key, item⟩ := entry
    unfold ignoredKeys at ih ⊢
    -- A key is ignored if it names no setting; a fault at its value ends what is known.
    cases hkey : Setting.ofKey? key with
    | none =>
      rw [settingValues_of_ignored hkey] at h
      rw [settingValues, hkey, List.filter_cons_of_pos (by rw [hkey]; rfl), List.filterMap_cons,
        ← ih h]
      cases ignoredNotice? key <;> rfl
    | some setting =>
      rw [settingValues_of_setting hkey] at h
      by_cases haccepts : setting.accepts (document.value item) = true
      · rw [if_pos haccepts] at h
        cases hrest : (settingValues document pairs).result with
        | error fault =>
          rw [hrest] at h
          cases h
        | ok rest =>
          rw [settingValues, hkey, List.filter_cons_of_neg (by simp [hkey]), ← ih hrest]
          dsimp only
          rw [haccepts]
          rfl
      · rw [if_neg haccepts] at h
        cases h

theorem mem_ignoredKeys_iff {notice : Notice} :
    notice ∈ ignoredKeys pairs ↔
      ∃ entry ∈ pairs, Setting.ofKey? entry.1 = none ∧ ignoredNotice? entry.1 = some notice := by
  simp only [ignoredKeys, List.mem_filterMap, List.mem_filter, Option.isNone_iff_eq_none, and_assoc]

/-- Of different keys each that can be shown is named in one warning, and no other is in any. -/
theorem count_ignoredKeys (hkeys : Yaml.HaveDistinctKeys pairs) {entry : Yaml.Scalar × Yaml.Item}
    (hentry : entry ∈ pairs) (hunknown : Setting.ofKey? entry.1 = none) :
    (ignoredKeys pairs).count (.settingIgnored entry.1.literal) =
      if entry.1.isOversized then 0 else 1 := by
  by_cases hsize : entry.1.isOversized = true
  · rw [if_pos hsize]
    refine List.count_eq_zero_of_not_mem fun hmem => ?_
    -- A warning with the literal of the key would be about the key itself.
    obtain ⟨other, -, -, hnotice⟩ := mem_ignoredKeys_iff.1 hmem
    obtain ⟨hshort, hsame⟩ := ignoredNotice?_eq_some_iff.1 hnotice
    have hkey : entry.1 = other.1 :=
      Yaml.Scalar.literal_injective (Notice.settingIgnored.inj hsame)
    rw [← hkey, hsize] at hshort
    cases hshort
  · rw [if_neg hsize]
    have hnodup : (ignoredKeys pairs).Nodup := by
      refine (hkeys.pairwise_ne.filter _).filterMap _ ?_
      rintro first second hne notice hfirst _ hsecond rfl
      obtain ⟨-, rfl⟩ := ignoredNotice?_eq_some_iff.1 hfirst
      obtain ⟨-, hsame⟩ := ignoredNotice?_eq_some_iff.1 hsecond
      exact hne (Yaml.Scalar.literal_injective (Notice.settingIgnored.inj hsame))
    apply List.count_eq_one_of_mem hnodup
    rw [mem_ignoredKeys_iff]
    refine ⟨entry, hentry, hunknown, ?_⟩
    exact ignoredNotice?_eq_some_iff.2 ⟨Bool.eq_false_iff.2 hsize, rfl⟩

/-! ## 2. Values that take effect -/

namespace Config

/-- The value of a setting is the given one, or what it converts to. -/
def Heeds (config : Config) (value : Yaml.Value) : Setting → Prop
  | .batchSize => value.toInteger = .done config.batchSize
  | .requestTimeout => ∃ x, value.toReal? = .done x ∧ config.requestTimeout = x.map .float
  | setting =>
    value = .null ∧ config.textOf setting = .null ∨
      ∃ t, value = .text t ∧ config.textOf setting = .text t

theorem IsFrom.heeds {config : Config} {source? : Setting → Option Yaml.Value}
    (h : config.IsFrom source?) {value : Yaml.Value} (hvalue : source? setting = some value)
    (haccepts : setting.accepts value = true) : config.Heeds value setting := by
  have htext (htext : setting.isText = true) :
      value = .null ∧ config.textOf setting = .null ∨
        ∃ t, value = .text t ∧ config.textOf setting = .text t := by
    have hgiven := h.texts setting htext
    rw [hvalue, Option.elim_some] at hgiven
    rcases null_or_text_of_accepts htext haccepts with rfl | ⟨t, rfl⟩
    · exact .inl ⟨rfl, hgiven⟩
    · exact .inr ⟨t, rfl, hgiven⟩
  cases setting with
  | batchSize =>
    have hsize := h.batchSize
    rwa [hvalue] at hsize
  | requestTimeout =>
    have htimeout := h.requestTimeout
    rwa [hvalue] at htimeout
  | _ => exact htext rfl

/-! ## 3. Files -/

variable {openFile : Text → Except OpenFault Bytes} {path : Text} {bytes : Bytes}

theorem load_file (hpath : arguments.configPath = some path) (hnamed : path ≠ [])
    (hopen : openFile path = .ok bytes) (hparse : ConfigFile.parse bytes = .ok document) :
    ConfigFile.load openFile arguments.configPath =
      ⟨ConfigFile.ofDocument path document, [.settingsLoaded path]⟩ := by
  obtain ⟨c, rest, rfl⟩ := List.exists_cons_of_ne_nil hnamed
  rw [hpath, ConfigFile.load, hopen]
  dsimp only
  rw [hparse]
  exact nofun

theorem pairs_eq_nil (h : document.pairs? = some pairs) (hvoid : document.isVoid = true) :
    pairs = [] := by
  unfold Yaml.Document.pairs? at h
  unfold Yaml.Document.isVoid at hvoid
  split at h
  · cases h
  · rename_i place hroot
    rw [hroot] at hvoid
    dsimp only at hvoid
    split at h
    · rename_i found hfound
      rw [hfound] at hvoid
      obtain rfl := Option.some.inj h
      cases found with
      | nil => rfl
      | cons entry found => cases hvoid
    · cases h

/-- A mapping is what its file holds, also if it is empty. -/
theorem exists_ofDocument (path : Text) (h : document.pairs? = some pairs) :
    ∃ file, ConfigFile.ofDocument path document = .ok file ∧
      file.values = settingValues document pairs ∧
      ∀ setting, file.value? setting =
        (pairs.lookup (.text setting.name)).map document.value := by
  unfold ConfigFile.ofDocument
  by_cases hvoid : document.isVoid = true
  · obtain rfl := pairs_eq_nil h hvoid
    rw [if_pos hvoid]
    exact ⟨_, rfl, rfl, fun _ => rfl⟩
  · rw [if_neg hvoid, h]
    exact ⟨_, rfl, rfl, fun _ => rfl⟩

theorem haveDistinctKeys_of_parse (hparse : ConfigFile.parse bytes = .ok document)
    (hpairs : document.pairs? = some pairs) : Yaml.HaveDistinctKeys pairs := by
  unfold ConfigFile.parse at hparse
  split at hparse
  · cases hparse
  · split at hparse
    · cases hparse
    · rename_i found hread
      obtain rfl := Except.ok.inj hparse
      exact Yaml.haveDistinctKeys_of_read hread hpairs

theorem notices_load {file : ConfigFile}
    (hfile : ConfigFile.load openFile arguments.configPath = ⟨.ok file, [.settingsLoaded path]⟩)
    (hvalues : file.values = settingValues document pairs)
    (hresult : (settingValues document pairs).result = .ok values) :
    (load arguments environment openFile).notices = .settingsLoaded path :: ignoredKeys pairs := by
  unfold load
  rw [hfile]
  dsimp only
  rw [hvalues, notices_settingValues hresult]
  rfl

/-- The value of a setting in a file takes effect if no higher source gives one. -/
theorem IsFrom.heeds_file {config : Config} {file : ConfigFile} {item : Yaml.Item}
    (hfrom : config.IsFrom (source? arguments environment file))
    (hkeys : Yaml.HaveDistinctKeys pairs) (hitem : (.text setting.name, item) ∈ pairs)
    (hvalue? : file.value? setting = (pairs.lookup (.text setting.name)).map document.value)
    (hresult : (settingValues document pairs).result = .ok values)
    (hcommand : arguments.values.lookup setting = none)
    (hvariable : environment.lookup setting.environmentVariable = none) :
    config.Heeds (document.value item) setting := by
  have hlookup : pairs.lookup (.text setting.name) = some item := hkeys.lookup_eq_some_iff.2 hitem
  have hsource : source? arguments environment file setting = some (document.value item) := by
    rw [source?, hcommand, hvariable, hvalue?, hlookup]
    rfl
  have hread : values.lookup setting = some (document.value item) := by
    rw [lookup_settingValues hresult, hlookup]
    rfl
  exact hfrom.heeds hsource (accepts_of_settingValues hresult _ (mem_of_lookup hread))

/-- Whether an entry of a file is heeded when settings are loaded: its key names a setting, and the
value takes effect unless the command line or the environment gives another; or its key names none,
and exactly one warning names it. -/
def IsHeeded (arguments : Arguments) (environment : Environment) (document : Yaml.Document)
    (config : Config) (notices : List Notice) (entry : Yaml.Scalar × Yaml.Item) : Prop :=
  (∃ setting : Setting, entry.1 = .text setting.name ∧
    (arguments.values.lookup setting = none →
      environment.lookup setting.environmentVariable = none →
      config.Heeds (document.value entry.2) setting)) ∨
  Setting.ofKey? entry.1 = none ∧ notices.count (.settingIgnored entry.1.literal) = 1

/-- What a file holds is heeded.  What is no mapping is refused, unless it counts as nothing: then
it is passed over as an empty file is.  Of a mapping exactly the entries are heeded whose keys can
be shown, if there are settings at all, and nothing else is reported but that the file was
loaded. -/
theorem load_heeds {words : List Text} (hread : Arguments.read words = .ok arguments)
    (environment : Environment) (hpath : arguments.configPath = some path) (hnamed : path ≠ [])
    (hopen : openFile path = .ok bytes) (hparse : ConfigFile.parse bytes = .ok document) :
    let loaded := load arguments environment openFile
    (document.pairs? = none → document.isVoid = false →
      loaded = ⟨.error (.config (.notMapping path)), [.settingsLoaded path]⟩) ∧
    (document.pairs? = none → document.isVoid = true →
      loaded = ⟨ofValues (mergeSources arguments environment []), [.settingsLoaded path]⟩) ∧
    ∀ pairs, document.pairs? = some pairs → ∀ config, loaded.result = .ok config →
      loaded.notices = .settingsLoaded path :: ignoredKeys pairs ∧
      ∀ entry ∈ pairs, IsHeeded arguments environment document config loaded.notices entry ↔
        entry.1.isOversized = false := by
  intro loaded
  have hfile := load_file hpath hnamed hopen hparse
  refine ⟨fun hpairs hvoid => ?_, fun hpairs hvoid => ?_, fun pairs hpairs config hconfig => ?_⟩
  · show load arguments environment openFile = _
    unfold load
    rw [hfile, ConfigFile.ofDocument, hvoid, hpairs]
    rfl
  · show load arguments environment openFile = _
    unfold load
    rw [hfile, ConfigFile.ofDocument, hvoid]
    rfl
  · obtain ⟨file, hdocument, hvalues, hvalue?⟩ := exists_ofDocument path hpairs
    have hloaded : (ConfigFile.load openFile arguments.configPath).result = .ok file := by
      rw [hfile, hdocument]
    obtain ⟨file', values, hfile', hresult, hfrom⟩ := isFrom_of_load hread hconfig
    -- The file that was loaded is the one that the document gives.
    obtain rfl := Except.ok.inj (hloaded.symm.trans hfile')
    rw [hvalues] at hresult
    have hnotices : loaded.notices = .settingsLoaded path :: ignoredKeys pairs :=
      notices_load (hdocument ▸ hfile) hvalues hresult
    refine ⟨hnotices, fun entry hentry => ?_⟩
    -- Each key comes once, so an ignored one is reported once, and a setting has the value given
    -- here.
    have hkeys := haveDistinctKeys_of_parse hparse hpairs
    cases hkey : Setting.ofKey? entry.1 with
    | none =>
      have hcount : loaded.notices.count (.settingIgnored entry.1.literal) =
          if entry.1.isOversized then 0 else 1 := by
        rw [hnotices, List.count_cons_of_ne (by simp), count_ignoredKeys hkeys hentry hkey]
      have hunnamed : ∀ setting : Setting, entry.1 ≠ .text setting.name := by
        intro setting hname
        rw [ofKey?_eq_some_iff.2 hname] at hkey
        cases hkey
      simp [IsHeeded, hkey, hunnamed, hcount]
    | some setting =>
      have hname := ofKey?_eq_some_iff.1 hkey
      have hitem : (.text setting.name, entry.2) ∈ pairs := hname ▸ hentry
      refine iff_of_true (.inl ⟨setting, hname, ?_⟩) ?_
      · exact hfrom.heeds_file hkeys hitem (hvalue? setting) hresult
      · -- The name of a setting is a text.
        rw [hname]
        rfl

def keyedArguments : Arguments :=
  ⟨some "c.yaml", [(.apiKey, .text "k")]⟩

def fileBytes (t : String) : Bytes :=
  t.toList.flatMap Utf8.encodeChar

/-- Entries of which two keys look alike. -/
def heededPairs : List (Yaml.Scalar × Yaml.Item) :=
  [(.text "batch_size", .scalar (.int 7)), (.int 1, .scalar (.text "x")),
    (.text "1", .scalar (.text "y"))]

/-- A list is refused, but an empty one is passed over.  Of two keys that name no setting each has
one warning, although they look alike, and the batch size takes effect. -/
theorem sample_heeds :
    load keyedArguments [] (sampleFile "- a\n") =
      ⟨.error (.config (.notMapping "c.yaml")), [.settingsLoaded "c.yaml"]⟩ ∧
    (∃ config, (load keyedArguments [] (sampleFile "[]\n")).result = .ok config) ∧
    ∃ config, (load keyedArguments [] (sampleFile "batch_size: 7\n1: x\n'1': y\n")).result =
        .ok config ∧
      config.batchSize = 7 ∧
      (load keyedArguments [] (sampleFile "batch_size: 7\n1: x\n'1': y\n")).notices.count
        (.settingIgnored "'1'") = 1 := by
  have hread : Arguments.read ["--config", "c.yaml", "--api-key", "k"] = .ok keyedArguments := by
    rfl
  have hlist : ConfigFile.parse (fileBytes "- a\n") =
      .ok ⟨.collection 0, [(0, .list [.scalar (.text "a")])]⟩ :=
    eq_ok_of_toOption (by decide +kernel)
  have hempty : ConfigFile.parse (fileBytes "[]\n") = .ok ⟨.collection 0, [(0, .list [])]⟩ :=
    eq_ok_of_toOption (by decide +kernel)
  have hmapping : ConfigFile.parse (fileBytes "batch_size: 7\n1: x\n'1': y\n") =
      .ok ⟨.collection 0, [(0, .mapping heededPairs)]⟩ :=
    eq_ok_of_toOption (by decide +kernel)
  refine ⟨(load_heeds hread [] rfl (by decide) rfl hlist).1 rfl rfl, ?_, ?_⟩
  · rw [(load_heeds hread [] rfl (by decide) rfl hempty).2.1 rfl rfl]
    exact ⟨_, rfl⟩
  · obtain ⟨config, hconfig⟩ := Option.isSome_iff_exists.1 (show (load keyedArguments []
      (sampleFile "batch_size: 7\n1: x\n'1': y\n")).result.toOption.isSome = true by
        decide +kernel)
    have hresult := eq_ok_of_toOption hconfig
    obtain ⟨-, hheeded⟩ :=
      (load_heeds hread [] rfl (by decide) rfl hmapping).2.2 _ rfl config hresult
    refine ⟨config, hresult, ?_, ?_⟩
    · rcases (hheeded (.text "batch_size", .scalar (.int 7)) (by decide)).2 rfl with
        ⟨setting, hname, heeds⟩ | ⟨hunknown, -⟩
      · obtain rfl : setting = .batchSize := by
          revert hname
          cases setting <;> decide
        exact (Conversion.done.inj (heeds rfl rfl)).symm
      · cases hunknown
    · rcases (hheeded (.text "1", .scalar (.text "y")) (by decide)).2 rfl with
        ⟨setting, hname, -⟩ | ⟨-, hcount⟩
      · revert hname
        cases setting <;> decide
      · have hliteral : (Yaml.Scalar.text "1").literal = "'1'" := by decide +kernel
        rw [← hliteral]
        exact hcount

end Config

end LogShipper
