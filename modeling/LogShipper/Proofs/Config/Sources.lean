import LogShipper.Proofs.Config.Loading
import Mathlib.Data.List.Basic

/-!
# Sources of settings

Each setting has the value that the highest of its sources gives, or its default.  What the command
line and the file give for a setting that is a text is a text, but for two cases: null in the file,
and the separator as the value of a flag.
-/

namespace LogShipper

/-! ## 1. The sources of one setting -/

/-- The value of a key in the configuration file. -/
def ConfigFile.value? (file : ConfigFile) (setting : Setting) : Option Yaml.Value :=
  (file.pairs.lookup (.text setting.name)).map file.document.value

/-- The value that the highest source of a setting gives. -/
def Config.source? (arguments : Arguments) (environment : Environment) (file : ConfigFile)
    (setting : Setting) : Option Yaml.Value :=
  (arguments.values.lookup setting).or
    (((environment.lookup setting.environmentVariable).map .text).or (file.value? setting))

variable {setting : Setting} {environment : Environment} {document : Yaml.Document}
  {pairs : List (Yaml.Scalar × Yaml.Item)} {values : SettingValues} {arguments : Arguments}

theorem mem_of_lookup {α β : Type} [BEq α] [LawfulBEq α] {entries : List (α × β)} {key : α}
    {value : β} (h : entries.lookup key = some value) : (key, value) ∈ entries := by
  obtain ⟨before, after, rfl, -⟩ := List.lookup_eq_some_iff.1 h
  exact List.mem_append_right _ List.mem_cons_self

theorem lookup_filterMap (settings : List Setting) (value? : Setting → Option Yaml.Value) :
    (settings.filterMap fun setting => (value? setting).map (setting, ·)).lookup setting =
      if setting ∈ settings then value? setting else none := by
  induction settings with
  | nil => rfl
  | cons first settings ih =>
    by_cases hfirst : setting = first
    · subst hfirst
      cases hvalue : value? setting with
      | none => simp [hvalue, ih]
      | some value => simp [hvalue]
    · cases hvalue : value? first with
      | none => simp [hvalue, ih, hfirst]
      | some value => simp [hvalue, ih, hfirst, List.lookup_cons, beq_false_of_ne hfirst]

theorem lookup_environmentValues (environment : Environment) (setting : Setting) :
    (environmentValues environment).lookup setting =
      (environment.lookup setting.environmentVariable).map .text := by
  have hlookup := @lookup_filterMap setting Setting.all
    fun setting => (environment.lookup setting.environmentVariable).map .text
  rw [if_pos setting.mem_all] at hlookup
  rw [← hlookup, environmentValues]
  simp only [Option.map_map, Function.comp_def]

theorem ofKey?_eq_some_iff {key : Yaml.Scalar} :
    Setting.ofKey? key = some setting ↔ key = .text setting.name := by
  constructor
  · intro h
    cases key with
    | text t =>
      have hname := List.find?_some (show Setting.all.find? (·.name = t) = some setting from h)
      rw [of_decide_eq_true hname]
    | _ => cases h
  · rintro rfl
    exact setting.ofName?_name

theorem settingValues_of_ignored {key : Yaml.Scalar} {item : Yaml.Item}
    (h : Setting.ofKey? key = none) :
    (settingValues document ((key, item) :: pairs)).result =
      (settingValues document pairs).result := by
  rw [settingValues, h]

theorem settingValues_of_setting {key : Yaml.Scalar} {item : Yaml.Item}
    (h : Setting.ofKey? key = some setting) :
    (settingValues document ((key, item) :: pairs)).result =
      if setting.accepts (document.value item) then
        (settingValues document pairs).result.map ((setting, document.value item) :: ·)
      else .error (setting.refuse (document.value item)) := by
  rw [settingValues, h]
  dsimp only
  by_cases haccepts : setting.accepts (document.value item) = true
  · rw [if_pos haccepts, haccepts]
    rfl
  · rw [if_neg haccepts, if_pos (by simpa using haccepts)]

/-- A key that names no setting is passed over, and the value of any other is taken if it is of the
kind that the setting asks for. -/
theorem settingValues_cons {key : Yaml.Scalar} {item : Yaml.Item}
    (h : (settingValues document ((key, item) :: pairs)).result = .ok values) :
    Setting.ofKey? key = none ∧ (settingValues document pairs).result = .ok values ∨
      ∃ setting rest, key = .text setting.name ∧ setting.accepts (document.value item) = true ∧
        (settingValues document pairs).result = .ok rest ∧
        values = (setting, document.value item) :: rest := by
  cases hkey : Setting.ofKey? key with
  | none =>
    rw [settingValues_of_ignored hkey] at h
    exact .inl ⟨rfl, h⟩
  | some setting =>
    rw [settingValues_of_setting hkey] at h
    by_cases haccepts : setting.accepts (document.value item) = true
    · rw [if_pos haccepts] at h
      cases hrest : (settingValues document pairs).result with
      | error fault =>
        rw [hrest] at h
        cases h
      | ok rest =>
        rw [hrest] at h
        exact .inr ⟨setting, rest, ofKey?_eq_some_iff.1 hkey, haccepts, rfl,
          (Except.ok.inj h).symm⟩
    · rw [if_neg haccepts] at h
      cases h

/-- A value of the wrong kind is shown in a message, unless it cannot be shown. -/
theorem Setting.refuse_cases (setting : Setting) (value : Yaml.Value) :
    setting.refuse value = .config (.notText setting value) ∨
      ∃ cause, value.showFault? Yaml.maxShownDepth = some cause ∧
        setting.refuse value = .unshowable cause := by
  unfold Setting.refuse
  cases value.showFault? Yaml.maxShownDepth with
  | none => exact .inl rfl
  | some cause => exact .inr ⟨cause, rfl, rfl⟩

/-- What is wrong with an entry of a file, if anything is: its key names a setting, and its value is
not of the kind that the setting asks for. -/
def entryFault? (document : Yaml.Document) (entry : Yaml.Scalar × Yaml.Item) : Option LoadFault :=
  match Setting.ofKey? entry.1 with
  | none => none
  | some setting =>
    if setting.accepts (document.value entry.2) then none
    else some (setting.refuse (document.value entry.2))

theorem entryFault?_eq_some_iff {entry : Yaml.Scalar × Yaml.Item} {fault : LoadFault} :
    entryFault? document entry = some fault ↔
      ∃ setting : Setting, entry.1 = .text setting.name ∧
        setting.accepts (document.value entry.2) = false ∧
        fault = setting.refuse (document.value entry.2) := by
  unfold entryFault?
  cases hkey : Setting.ofKey? entry.1 with
  | none =>
    have hnamed : ∀ setting : Setting, entry.1 ≠ .text setting.name := by
      intro setting hname
      rw [ofKey?_eq_some_iff.2 hname] at hkey
      cases hkey
    simp [hnamed]
  | some setting =>
    -- Names of settings are distinct, so that the key is the name of this setting alone.
    have hnamed : ∀ other : Setting, entry.1 = .text other.name ↔ setting = other := by
      intro other
      rw [← ofKey?_eq_some_iff, hkey, Option.some.injEq]
    by_cases haccepts : setting.accepts (document.value entry.2) = true
    · simp [haccepts, hnamed]
    · simp only [Bool.not_eq_true] at haccepts
      simp only [haccepts, hnamed, Bool.false_eq_true, if_false, exists_eq_left', true_and,
        Option.some.injEq]
      exact eq_comm

/-- The first entry with which anything is wrong is what the settings in a file fail by. -/
theorem settingValues_eq_error_iff {fault : LoadFault} :
    (settingValues document pairs).result = .error fault ↔
      pairs.findSome? (entryFault? document) = some fault := by
  induction pairs with
  | nil => exact ⟨nofun, nofun⟩
  | cons entry pairs ih =>
    obtain ⟨key, item⟩ := entry
    rw [List.findSome?_cons, entryFault?]
    cases hkey : Setting.ofKey? key with
    | none =>
      rw [settingValues_of_ignored hkey]
      simpa using ih
    | some setting =>
      rw [settingValues_of_setting hkey]
      by_cases haccepts : setting.accepts (document.value item) = true
      · simp only [haccepts, if_true]
        rw [← ih]
        cases (settingValues document pairs).result <;> simp [Except.map]
      · simp [haccepts]

/-- The settings in a file are the values of the keys that name them. -/
theorem lookup_settingValues (h : (settingValues document pairs).result = .ok values) :
    values.lookup setting = (pairs.lookup (.text setting.name)).map document.value := by
  induction pairs generalizing values with
  | nil =>
    obtain rfl := Except.ok.inj h
    rfl
  | cons pair pairs ih =>
    obtain ⟨key, item⟩ := pair
    rcases settingValues_cons h with ⟨hkey, hrest⟩ | ⟨other, rest, rfl, -, hrest, rfl⟩
    · -- What is ignored is not under the name of a setting.
      have hother : Yaml.Scalar.text setting.name ≠ key := by
        rintro rfl
        rw [Setting.ofKey?, setting.ofName?_name] at hkey
        cases hkey
      rw [List.lookup_cons, beq_false_of_ne hother]
      exact ih hrest
    · by_cases hsame : setting = other
      · subst hsame
        simp
      · -- Two settings have two names, so that both lists are searched on.
        have hname : Yaml.Scalar.text setting.name ≠ .text other.name := by
          intro hname
          have hkey := ofKey?_eq_some_iff.2 hname
          rw [Setting.ofKey?, setting.ofName?_name] at hkey
          exact hsame (Option.some.inj hkey)
        rw [List.lookup_cons, List.lookup_cons, beq_false_of_ne hsame, beq_false_of_ne hname]
        exact ih hrest

/-- The values in a file are of the kinds that the settings ask for. -/
theorem accepts_of_settingValues (h : (settingValues document pairs).result = .ok values) :
    ∀ given ∈ values, given.1.accepts given.2 = true := by
  induction pairs generalizing values with
  | nil =>
    obtain rfl := Except.ok.inj h
    exact nofun
  | cons pair pairs ih =>
    rcases settingValues_cons h with ⟨-, hrest⟩ | ⟨setting, rest, -, haccepts, hrest, rfl⟩
    · exact ih hrest
    · exact List.forall_mem_cons.2 ⟨haccepts, ih hrest⟩

theorem lookup_mergeSources (arguments : Arguments) (environment : Environment)
    (values : SettingValues) (setting : Setting) :
    (mergeSources arguments environment values).lookup setting =
      (arguments.values.lookup setting).or
        (((environment.lookup setting.environmentVariable).map .text).or
          (values.lookup setting)) := by
  rw [mergeSources, List.lookup_append, List.lookup_append, lookup_environmentValues,
    Option.or_assoc]

theorem source?_eq_lookup {file : ConfigFile} (h : file.values.result = .ok values) :
    Config.source? arguments environment file setting =
      (mergeSources arguments environment values).lookup setting := by
  rw [lookup_mergeSources, lookup_settingValues h]
  rfl

/-! ## 2. The words of the command line -/

namespace Arguments

/-- What the command line gives for a setting that is a text. -/
def AreTexts (arguments : Arguments) : Prop :=
  ∀ given ∈ arguments.values, given.1.isText = true →
    (∃ t, given.2 = .text t) ∨ given.2 = .list [] ∧ given.1 ≠ .inputFile

theorem areTexts_empty : AreTexts {} :=
  nofun

theorem areTexts_cons {values : List (Setting × Yaml.Value)} {configPath configPath' : Option Text}
    {value : Yaml.Value} (h : AreTexts ⟨configPath, values⟩)
    (hvalue : setting.isText = true →
      (∃ t, value = .text t) ∨ value = .list [] ∧ setting ≠ .inputFile) :
    AreTexts ⟨configPath', (setting, value) :: values⟩ :=
  List.forall_mem_cons.2 ⟨hvalue, h⟩

theorem flagValue_eq_ok {name t : Text} {value : Yaml.Value}
    (h : flagValue name setting t = .ok value) (htext : setting.isText = true) :
    value = .text t ∨ value = .list [] := by
  unfold flagValue at h
  split at h
  · exact .inr (Except.ok.inj h).symm
  · split at h
    · cases htext
    · cases htext
    · exact .inl (Except.ok.inj h).symm

/-- No flag is for the input file. -/
def Word.IsSound : Word → Prop
  | .flag _ purpose _ => purpose ≠ .setting .inputFile
  | _ => True

theorem ne_inputFile_of_mem {name : Text} {flag : Flag} (h : (name, flag) ∈ flags) :
    flag ≠ .setting .inputFile :=
  (by decide : ∀ entry ∈ flags, entry.2 ≠ .setting .inputFile) _ h

theorem isSound_ofFlag {name : Text} {flag : Flag} (h : flag ≠ .setting .inputFile)
    (value : Option Text) : (Word.ofFlag name value flag).IsSound := by
  cases flag with
  | help => trivial
  | config => exact h
  | setting setting => exact h

theorem isSound_otherWord (t : Text) : (otherWord t).IsSound := by
  unfold otherWord
  split <;> trivial

theorem isSound_abbreviated {t : Text} {word : Word} (h : abbreviated t = .ok word) :
    word.IsSound := by
  unfold abbreviated at h
  dsimp only at h
  split at h
  · obtain rfl := Except.ok.inj h
    exact isSound_otherWord t
  · rename_i name flag hfilter
    obtain rfl := Except.ok.inj h
    have hmem : (name, flag) ∈ flags := List.mem_of_mem_filter (hfilter ▸ List.mem_singleton_self _)
    exact isSound_ofFlag (ne_inputFile_of_mem hmem) _
  · cases h

theorem isSound_classify {t : Text} {word : Word} (h : classify t = .ok word) : word.IsSound := by
  unfold classify at h
  split at h
  · split at h
    · rename_i flag hflag
      obtain rfl := Except.ok.inj h
      exact isSound_ofFlag (ne_inputFile_of_mem (mem_of_lookup hflag)) _
    · dsimp only at h
      split at h
      · rename_i flag _ hflag
        obtain rfl := Except.ok.inj h
        exact isSound_ofFlag (ne_inputFile_of_mem (mem_of_lookup hflag)) _
      · split at h
        · exact isSound_abbreviated h
        · split at h
          · obtain rfl := Except.ok.inj h
            exact isSound_ofFlag (by decide) _
          · obtain rfl := Except.ok.inj h
            exact isSound_otherWord _
  · obtain rfl := Except.ok.inj h
    trivial

theorem isSound_classifyAll {ts : List Text} {words : List Word} (h : classifyAll ts = .ok words) :
    ∀ word ∈ words, word.IsSound := by
  induction ts generalizing words with
  | nil =>
    obtain rfl := Except.ok.inj h
    exact nofun
  | cons t ts ih =>
    rw [classifyAll] at h
    split at h
    · obtain rfl := Except.ok.inj h
      refine List.forall_mem_cons.2 ⟨trivial, fun word hword => ?_⟩
      obtain ⟨rest, -, rfl⟩ := List.mem_map.1 hword
      trivial
    · obtain ⟨word, hword, h⟩ := bind_eq_ok_iff.1 h
      obtain ⟨rest, hrest, h⟩ := bind_eq_ok_iff.1 h
      obtain rfl := Except.ok.inj h
      exact List.forall_mem_cons.2 ⟨isSound_classify hword, ih hrest⟩

variable {progress final : Progress} {name t : Text} {flag : Flag}

/-- What is taken for a flag keeps the settings that are texts. -/
theorem areTexts_take (hsound : flag ≠ .setting .inputFile) (h : progress.arguments.AreTexts)
    (htake : progress.take name flag t = .ok final) : final.arguments.AreTexts := by
  unfold Progress.take at htake
  cases flag with
  | help =>
    obtain rfl := Except.ok.inj htake
    exact h
  | config =>
    obtain rfl := Except.ok.inj htake
    exact h
  | setting setting =>
    obtain ⟨value, hvalue, htake⟩ := bind_eq_ok_iff.1 htake
    obtain rfl := Except.ok.inj htake
    refine areTexts_cons h fun htext => ?_
    rcases flagValue_eq_ok hvalue htext with rfl | rfl
    · exact .inl ⟨t, rfl⟩
    · exact .inr ⟨rfl, fun heq => hsound (congrArg Flag.setting heq)⟩

theorem areTexts_takePlain (h : progress.arguments.AreTexts) (t : Text) :
    (progress.takePlain t).arguments.AreTexts := by
  unfold Progress.takePlain
  split
  · exact h
  · exact areTexts_cons h fun _ => .inl ⟨t, rfl⟩

theorem arguments_takeSeparator (progress : Progress) :
    progress.takeSeparator.arguments = progress.arguments := by
  unfold Progress.takeSeparator
  split <;> rfl

/-- What the values of flags and the input file keep is kept by all words. -/
theorem readWords_keeps {holds : Arguments → Prop}
    (htake : ∀ {progress final : Progress} {name t : Text} {flag : Flag},
      flag ≠ .setting .inputFile → holds progress.arguments →
        progress.take name flag t = .ok final → holds final.arguments)
    (hplain : ∀ {progress : Progress} (t : Text), holds progress.arguments →
      holds (progress.takePlain t).arguments)
    {words : List Word} (hsound : ∀ word ∈ words, word.IsSound) (h : holds progress.arguments)
    (hread : readWords progress words = .ok final) : holds final.arguments := by
  fun_induction readWords progress words with
  | case1 progress =>
    obtain rfl := Except.ok.inj hread
    exact h
  | case2 progress t rest ih =>
    exact ih (List.forall_mem_cons.1 hsound).2 (hplain t h) hread
  | case3 progress rest ih =>
    rw [← arguments_takeSeparator] at h
    exact ih (List.forall_mem_cons.1 hsound).2 h hread
  | case4 progress t rest ih => exact ih (List.forall_mem_cons.1 hsound).2 h hread
  | case5 | case6 => cases hread
  | case7 progress name flag value rest next hnext ih =>
    obtain ⟨hflag, hrest⟩ := List.forall_mem_cons.1 hsound
    exact ih hrest (htake hflag h hnext) hread
  | case8 => cases hread
  | case9 progress name flag t rest next hnext ih =>
    obtain ⟨hflag, hrest⟩ := List.forall_mem_cons.1 hsound
    exact ih (List.forall_mem_cons.1 hrest).2 (htake hflag h hnext) hread
  | case10 | case11 => cases hread

/-- What the values of flags and the input file keep holds of the arguments in any words. -/
theorem read_keeps {holds : Arguments → Prop} (hempty : holds {})
    (htake : ∀ {progress final : Progress} {name t : Text} {flag : Flag},
      flag ≠ .setting .inputFile → holds progress.arguments →
        progress.take name flag t = .ok final → holds final.arguments)
    (hplain : ∀ {progress : Progress} (t : Text), holds progress.arguments →
      holds (progress.takePlain t).arguments)
    {words : List Text} (h : read words = .ok arguments) : holds arguments := by
  unfold read at h
  split at h
  · cases h
  · rename_i words hwords
    split at h
    · cases h
    · rename_i final hfinal
      split at h
      · obtain rfl := Except.ok.inj h
        exact readWords_keeps htake hplain (isSound_classifyAll hwords) hempty hfinal
      · cases h

/-- Whatever words are read, what they give for a setting that is a text is a text. -/
theorem areTexts_read {words : List Text} (h : read words = .ok arguments) :
    arguments.AreTexts :=
  read_keeps areTexts_empty areTexts_take (fun t h => areTexts_takePlain h t) h

end Arguments

/-! ## 3. Texts among the values -/

namespace Config

theorem null_or_text_of_accepts {value : Yaml.Value} (htext : setting.isText = true)
    (h : setting.accepts value = true) : value = .null ∨ ∃ t, value = .text t := by
  unfold Setting.accepts at h
  split at h
  · exact .inl rfl
  · exact .inr ⟨_, rfl⟩
  · rw [htext] at h
    cases h

/-- What a setting that is a text is given is a text, but for null in the file and for the separator
on the command line. -/
theorem source?_cases {file : ConfigFile} {value : Yaml.Value} (harguments : arguments.AreTexts)
    (hfile : file.values.result = .ok values) (htext : setting.isText = true)
    (h : source? arguments environment file setting = some value) :
    (∃ t, value = .text t) ∨
      (value = .null ∧ arguments.values.lookup setting = none ∧
        environment.lookup setting.environmentVariable = none) ∨
      (value = .list [] ∧ setting ≠ .inputFile ∧
        arguments.values.lookup setting = some (.list [])) := by
  unfold source? at h
  cases hcommand : arguments.values.lookup setting with
  | some given =>
    rw [hcommand, Option.some_or] at h
    obtain rfl := Option.some.inj h
    rcases harguments _ (mem_of_lookup hcommand) htext with hgiven | ⟨rfl, hfileless⟩
    · exact .inl hgiven
    · exact .inr (.inr ⟨rfl, hfileless, rfl⟩)
  | none =>
    rw [hcommand, Option.none_or] at h
    cases hvariable : environment.lookup setting.environmentVariable with
    | some t =>
      rw [hvariable, Option.map_some, Option.some_or] at h
      exact .inl ⟨t, (Option.some.inj h).symm⟩
    | none =>
      rw [hvariable, Option.map_none, Option.none_or, ConfigFile.value?,
        ← lookup_settingValues hfile] at h
      have haccepts := accepts_of_settingValues hfile _ (mem_of_lookup h)
      rcases null_or_text_of_accepts htext haccepts with rfl | hvalue
      · exact .inr (.inl ⟨rfl, rfl, rfl⟩)
      · exact .inl hvalue

/-! ## 4. Settings from their sources -/

/-- The value of a setting that should be a text. -/
def textOf (config : Config) : Setting → Json
  | .url => config.url
  | .apiKey => .text config.apiKey
  | .messageField => config.fields.message
  | .serverHostField => config.fields.serverHost
  | .logfileField => config.fields.logfile
  | .parserField => config.fields.parser
  | .inputFile => (config.inputFile.map .text).getD .null
  | .batchSize | .requestTimeout => .null

/-- What a value makes of a setting that should be a text. -/
def given : Yaml.Value → Json
  | .text t => .text t
  | .list _ => .array []
  | _ => .null

/-- The settings that sources make: a text is taken as it is, a number is converted, and a setting
without a source has its default. -/
structure IsFrom (config : Config) (source? : Setting → Option Yaml.Value) : Prop where
  texts : ∀ setting, setting.isText = true →
    config.textOf setting = (source? setting).elim (({} : Config).textOf setting) given
  batchSize : (source? .batchSize).elim (config.batchSize = 100) fun value =>
    value.toInteger = .done config.batchSize
  requestTimeout : (source? .requestTimeout).elim (config.requestTimeout = none) fun value =>
    ∃ x, value.toReal? = .done x ∧ config.requestTimeout = x.map .float

theorem givenOr_eq (values : SettingValues) (setting : Setting) (default : Json) :
    givenOr values setting default = (values.lookup setting).elim default given := by
  unfold givenOr
  split
  · rename_i hvalue
    rw [hvalue, Option.elim_none]
  · rename_i t hvalue
    rw [hvalue, Option.elim_some, given]
  · rename_i items hvalue
    rw [hvalue, Option.elim_some, given]
  · rename_i value htext hlist hvalue
    rw [hvalue, Option.elim_some]
    unfold given
    split
    · exact (htext _ rfl).elim
    · exact (hlist _ rfl).elim
    · rfl

theorem given_eq_text_iff {value : Yaml.Value} {t : Text} :
    given value = .text t ↔ value = .text t := by
  constructor
  · intro h
    unfold given at h
    split at h
    · rw [Json.text.inj h]
    · cases h
    · cases h
  · rintro rfl
    rfl

theorem text?_eq_some_iff {t : Text} :
    text? values setting = some t ↔ values.lookup setting = some (.text t) := by
  have htext : text? values setting = some t ↔ givenOr values setting .null = .text t := by
    unfold text?
    split
    · rename_i found hfound
      rw [hfound, Json.text.injEq, Option.some.injEq]
    · rename_i hnone
      exact ⟨nofun, fun h => absurd h (hnone t)⟩
  rw [htext, givenOr_eq]
  cases values.lookup setting with
  | none => exact ⟨nofun, nofun⟩
  | some value => rw [Option.elim_some, given_eq_text_iff, Option.some.injEq]

/-- A text that may be missing is given as it is, unless a list is given. -/
theorem getD_text? (hlist : ∀ items, values.lookup setting ≠ some (.list items)) :
    ((text? values setting).map .text).getD .null =
      (values.lookup setting).elim Json.null given := by
  cases htext : text? values setting with
  | some t =>
    rw [text?_eq_some_iff.1 htext]
    rfl
  | none =>
    cases hlookup : values.lookup setting with
    | none => rfl
    | some value =>
      rw [Option.elim_some]
      unfold given
      split
      · rw [text?_eq_some_iff.2 hlookup] at htext
        cases htext
      · exact absurd hlookup (hlist _)
      · rfl

theorem numberOr_eq_ok {α : Type} {convert : Yaml.Value → Conversion α} {default a : α}
    (h : numberOr convert values setting default = .ok a) :
    (values.lookup setting).elim (a = default) fun value => convert value = .done a := by
  unfold numberOr at h
  cases hvalue : values.lookup setting with
  | none =>
    rw [hvalue] at h
    exact (Except.ok.inj h).symm
  | some value =>
    rw [hvalue] at h
    cases hconvert : convert value with
    | done b =>
      simp only [hconvert] at h
      rw [Option.elim_some, hconvert, Except.ok.inj h]
    | refused fault => simp [hconvert] at h
    | impossible fault => simp [hconvert] at h
    | tooDeep => simp [hconvert] at h

theorem isFrom_ofValues {config : Config} (h : ofValues values = .ok config)
    (hfile : ∀ items, values.lookup .inputFile ≠ some (.list items)) :
    config.IsFrom fun setting => values.lookup setting := by
  have hkey := (usable_of_ofValues h).1
  obtain ⟨batchSize, hbatchSize, h⟩ := bind_eq_ok_iff.1 h
  obtain ⟨requestTimeout, hrequestTimeout, h⟩ := bind_eq_ok_iff.1 h
  obtain ⟨-, h⟩ := guard_bind_eq_ok_iff.1 h
  obtain ⟨-, h⟩ := guard_bind_eq_ok_iff.1 h
  obtain rfl := Except.ok.inj h
  refine ⟨fun setting htext => ?_, numberOr_eq_ok hbatchSize, ?_⟩
  · -- Two of the texts may not be null: the key is always given, and the file may be missing.
    cases setting with
    | url | messageField | serverHostField | logfileField | parserField => exact givenOr_eq _ _ _
    | batchSize | requestTimeout => cases htext
    | apiKey =>
      cases ht : text? values .apiKey with
      | none =>
        rw [ht] at hkey
        exact absurd rfl hkey
      | some t =>
        have hlookup := text?_eq_some_iff.1 ht
        simp only [hlookup, textOf]
        rfl
    | inputFile => exact getD_text? hfile
  · have hnumber := numberOr_eq_ok hrequestTimeout
    cases hlookup : values.lookup .requestTimeout with
    | none =>
      rw [hlookup, Option.elim_none] at hnumber
      simp only [hnumber]
      rfl
    | some value =>
      rw [hlookup, Option.elim_some] at hnumber
      exact ⟨requestTimeout, hnumber, rfl⟩

/-- Settings that are loaded come from their sources: the words of the command line, the environment
and the file. -/
theorem isFrom_of_load {words : List Text} {openFile : Text → Except OpenFault Bytes}
    {config : Config} (hread : Arguments.read words = .ok arguments)
    (h : (load arguments environment openFile).result = .ok config) :
    ∃ file values, (ConfigFile.load openFile arguments.configPath).result = .ok file ∧
      file.values.result = .ok values ∧
      config.IsFrom (source? arguments environment file) := by
  unfold load at h
  dsimp only at h
  split at h
  · cases h
  · rename_i file hfile
    obtain ⟨values, hvalues, h⟩ := bind_eq_ok_iff.1 h
    refine ⟨file, values, hfile, hvalues, ?_⟩
    have hfrom := isFrom_ofValues h fun items hitems => by
      rw [← source?_eq_lookup hvalues] at hitems
      rcases source?_cases (Arguments.areTexts_read hread) hvalues rfl hitems with
        ⟨t, ht⟩ | ⟨hnull, -⟩ | ⟨-, hfileless, -⟩
      · cases ht
      · cases hnull
      · exact hfileless rfl
    simp only [← source?_eq_lookup hvalues] at hfrom
    exact hfrom

end Config

end LogShipper
