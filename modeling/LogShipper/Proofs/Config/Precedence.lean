import LogShipper.Proofs.Config.Sources
import Mathlib.Data.List.Forall2

/-!
# Precedence of sources

The value of a setting is that of its highest source.  What lower sources give for a number is not
even converted, so it may be anything.  For a text the file is held to its kind all the same: a
value there that is no text and not null ends the loading, whatever the other sources say.
-/

namespace LogShipper

variable {setting : Setting} {environment : Environment} {arguments : Arguments}
  {openFile : Text → Except OpenFault Bytes}

theorem Setting.environmentVariable_injective : Function.Injective Setting.environmentVariable := by
  intro first second h
  cases first <;> cases second <;> first | rfl | exact absurd h (by decide)

/-! ## 1. What lower sources give -/

/-- Settings depend on the values only through the first value of each. -/
theorem Config.ofValues_congr {values values' : SettingValues}
    (h : ∀ setting, values.lookup setting = values'.lookup setting) :
    ofValues values = ofValues values' := by
  have hnumber {α : Type} (convert : Yaml.Value → Conversion α) (setting : Setting) (default : α) :
      numberOr convert values setting default = numberOr convert values' setting default := by
    unfold numberOr
    rw [h setting]
  have hgiven (setting : Setting) (default : Json) :
      givenOr values setting default = givenOr values' setting default := by
    unfold givenOr
    rw [h setting]
  have htext (setting : Setting) : text? values setting = text? values' setting := by
    unfold text?
    rw [hgiven setting .null]
  unfold ofValues
  simp only [hnumber, hgiven, htext]

/-- Results that are the same fault, or values that differ at one setting at most. -/
def AgreeBut (setting : Setting) :
    Except LoadFault SettingValues → Except LoadFault SettingValues → Prop
  | .ok values, .ok values' => ∀ other, other ≠ setting → values.lookup other = values'.lookup other
  | .error fault, .error fault' => fault = fault'
  | _, _ => False

theorem agreeBut_map_cons {result result' : Except LoadFault SettingValues}
    (h : AgreeBut setting result result') {other : Setting} {value value' : Yaml.Value}
    (hvalue : other ≠ setting → value = value') :
    AgreeBut setting (result.map ((other, value) :: ·)) (result'.map ((other, value') :: ·)) := by
  cases result with
  | error fault =>
    cases result' with
    | error fault' => exact h
    | ok values' => exact h
  | ok values =>
    cases result' with
    | error fault' => exact h
    | ok values' =>
      intro sought hsought
      show List.lookup sought ((other, value) :: values) =
        List.lookup sought ((other, value') :: values')
      by_cases hother : sought = other
      · subst hother
        rw [hvalue hsought]
        simp
      · rw [List.lookup_cons, List.lookup_cons, beq_false_of_ne hother]
        exact h sought hsought

/-- Entries of one key with one value, unless the key is that of the setting. -/
def SameBut (setting : Setting) (document document' : Yaml.Document)
    (pair pair' : Yaml.Scalar × Yaml.Item) : Prop :=
  pair.1 = pair'.1 ∧
    (pair.1 ≠ .text setting.name → document.value pair.2 = document'.value pair'.2)

/-- Files with the same keys, in which the values differ at most under the key of one setting. -/
def ConfigFile.DiffersAt (setting : Setting) (file file' : ConfigFile) : Prop :=
  List.Forall₂ (SameBut setting file.document file'.document) file.pairs file'.pairs

/-- A number in the file may be anything. -/
theorem agreeBut_settingValues (hnumber : setting.isText = false)
    {document document' : Yaml.Document} {pairs pairs' : List (Yaml.Scalar × Yaml.Item)}
    (h : List.Forall₂ (SameBut setting document document') pairs pairs') :
    AgreeBut setting (settingValues document pairs).result
      (settingValues document' pairs').result := by
  induction h with
  | nil => exact fun _ _ => rfl
  | @cons pair pair' pairs pairs' hpair _ ih =>
    obtain ⟨key, item⟩ := pair
    obtain ⟨key', item'⟩ := pair'
    obtain ⟨rfl, hvalue⟩ : key = key' ∧
      (key ≠ .text setting.name → document.value item = document'.value item') := hpair
    cases hkey : Setting.ofKey? key with
    | none =>
      rw [settingValues_of_ignored hkey, settingValues_of_ignored hkey]
      exact ih
    | some other =>
      rw [settingValues_of_setting hkey, settingValues_of_setting hkey]
      -- Only the one setting may have another value.
      have hsame : other ≠ setting → document.value item = document'.value item' := by
        intro hother
        apply hvalue
        intro hname
        apply hother
        rw [hname, Setting.ofKey?, setting.ofName?_name] at hkey
        exact (Option.some.inj hkey).symm
      by_cases hother : other = setting
      · -- Every value is of the kind that a number asks for.
        have haccepts : ∀ value, other.accepts value = true := by
          intro value
          unfold Setting.accepts
          split <;> simp [hother, hnumber]
        rw [if_pos (haccepts _), if_pos (haccepts _)]
        exact agreeBut_map_cons ih hsame
      · rw [← hsame hother]
        by_cases haccepts : other.accepts (document.value item) = true
        · rw [if_pos haccepts, if_pos haccepts]
          exact agreeBut_map_cons ih fun _ => rfl
        · rw [if_neg haccepts, if_neg haccepts]
          exact rfl

/-! ## 2. What the file must not give -/

/-- Files in which every value can be shown that stands where there should be a text. -/
def ConfigFile.IsShowable (file : ConfigFile) : Prop :=
  ∀ (setting : Setting) (item : Yaml.Item), (.text setting.name, item) ∈ file.pairs →
    setting.isText = true → (file.document.value item).showFault? Yaml.maxShownDepth = none

/-- Values that are no text and not null. -/
def Yaml.Value.IsForeign (value : Yaml.Value) : Prop :=
  value ≠ .null ∧ ∀ t, value ≠ .text t

theorem isForeign_of_not_accepts {value : Yaml.Value} (h : setting.accepts value = false) :
    setting.isText = true ∧ value.IsForeign := by
  unfold Setting.accepts at h
  split at h
  · cases h
  · cases h
  · rename_i hnull htext
    exact ⟨by simpa using h, hnull, htext⟩

/-- Why the values in a file are not taken: one of them is no text where there should be one, and it
is shown, unless it cannot be. -/
theorem fault_of_values {file : ConfigFile} {fault : LoadFault}
    (h : file.values.result = .error fault) :
    (∃ (setting : Setting) (item : Yaml.Item), (.text setting.name, item) ∈ file.pairs ∧
        setting.isText = true ∧ (file.document.value item).IsForeign ∧
        fault = .config (.notText setting (file.document.value item))) ∨
      (∃ cause, fault = .unshowable cause) ∧ ¬ file.IsShowable := by
  obtain ⟨⟨key, item⟩, hmem, hentry⟩ :=
    List.exists_of_findSome?_eq_some (settingValues_eq_error_iff.1 h)
  obtain ⟨setting, hkey, haccepts, rfl⟩ := entryFault?_eq_some_iff.1 hentry
  obtain rfl : key = .text setting.name := hkey
  obtain ⟨htext, hforeign⟩ := isForeign_of_not_accepts haccepts
  rcases setting.refuse_cases (file.document.value item) with hrefused | ⟨cause, hcause, hrefused⟩
  · exact .inl ⟨setting, item, hmem, htext, hforeign, hrefused⟩
  · refine .inr ⟨⟨cause, hrefused⟩, fun hshown => ?_⟩
    rw [hshown setting item hmem htext] at hcause
    cases hcause

/-- A value in the file that is no text where there should be one is never taken. -/
theorem values_eq_error {file : ConfigFile} (htext : setting.isText = true) {value : Yaml.Value}
    (hvalue : file.value? setting = some value) (hforeign : value.IsForeign) :
    ∃ fault, file.values.result = .error fault := by
  cases hvalues : file.values.result with
  | error fault => exact ⟨fault, rfl⟩
  | ok values =>
    have hlookup : values.lookup setting = some value :=
      (lookup_settingValues hvalues).trans hvalue
    have haccepts := accepts_of_settingValues hvalues _ (mem_of_lookup hlookup)
    rcases Config.null_or_text_of_accepts htext haccepts with rfl | ⟨t, rfl⟩
    · exact absurd rfl hforeign.1
    · exact absurd rfl (hforeign.2 t)

/-! ## 3. Settings that are loaded -/

namespace Config

theorem result_load {file : ConfigFile}
    (h : (ConfigFile.load openFile arguments.configPath).result = .ok file) :
    (load arguments environment openFile).result =
      file.values.result.bind fun values =>
        ofValues (mergeSources arguments environment values) := by
  unfold load
  dsimp only
  rw [h]

/-- A variable does not count for a setting that the command line gives. -/
theorem load_of_environment (hcommand : (arguments.values.lookup setting).isSome = true)
    {environment' : Environment} (h : ∀ name, name ≠ setting.environmentVariable →
      environment.lookup name = environment'.lookup name) :
    load arguments environment openFile = load arguments environment' openFile := by
  have hvalues (values : SettingValues) :
      ofValues (mergeSources arguments environment values) =
        ofValues (mergeSources arguments environment' values) := by
    apply ofValues_congr
    intro other
    rw [lookup_mergeSources, lookup_mergeSources]
    by_cases hother : other = setting
    · obtain ⟨value, hvalue⟩ := Option.isSome_iff_exists.1 hcommand
      rw [hother, hvalue, Option.some_or, Option.some_or]
    · rw [h _ fun hname => hother (Setting.environmentVariable_injective hname)]
  unfold load
  simp only [hvalues]

/-- The file does not count for a number that the command line or the environment gives. -/
theorem result_load_of_file (hnumber : setting.isText = false)
    (hhigher : (arguments.values.lookup setting).isSome = true ∨
      (environment.lookup setting.environmentVariable).isSome = true)
    {openFile' : Text → Except OpenFault Bytes} {file file' : ConfigFile}
    (hfile : (ConfigFile.load openFile arguments.configPath).result = .ok file)
    (hfile' : (ConfigFile.load openFile' arguments.configPath).result = .ok file')
    (h : file.DiffersAt setting file') :
    (load arguments environment openFile).result =
      (load arguments environment openFile').result := by
  rw [result_load hfile, result_load hfile']
  have hagree : AgreeBut setting file.values.result file'.values.result :=
    agreeBut_settingValues hnumber h
  -- Either both files fail with one fault, or both have values that agree but for the setting.
  cases hvalues : file.values.result with
  | error fault =>
    cases hvalues' : file'.values.result with
    | error fault' =>
      rw [hvalues, hvalues'] at hagree
      exact congrArg Except.error hagree
    | ok values' =>
      rw [hvalues, hvalues'] at hagree
      exact hagree.elim
  | ok values =>
    cases hvalues' : file'.values.result with
    | error fault' =>
      rw [hvalues, hvalues'] at hagree
      exact hagree.elim
    | ok values' =>
      rw [hvalues, hvalues'] at hagree
      apply ofValues_congr
      intro other
      rw [lookup_mergeSources, lookup_mergeSources]
      by_cases hother : other = setting
      · -- A higher source has the setting, so that what the files say is not looked at.
        rw [hother, ← Option.or_assoc, ← Option.or_assoc]
        have hsome : ((arguments.values.lookup setting).or
            ((environment.lookup setting.environmentVariable).map .text)).isSome = true := by
          simpa using hhigher
        obtain ⟨value, hvalue⟩ := Option.isSome_iff_exists.1 hsome
        rw [hvalue, Option.some_or, Option.some_or]
      · rw [hagree other hother]

/-- Settings that are loaded have the values of their highest sources or their defaults, with the
batch size converted to an integer and the time to wait to a real number; no other value has to be
converted, as it is a text, null or an empty list.  A variable does not
count for a setting that the command line gives, and the file does not count for a number that
either gives.  Nothing is loaded from a file with a value that is no text and not null where there
should be a text, whatever the other sources say; that value, or another of that kind, is the fault,
unless such a value cannot be shown, for an integer with too many digits or for its depth. -/
theorem load_precedence {words : List Text} (hread : Arguments.read words = .ok arguments)
    (environment : Environment) (openFile : Text → Except OpenFault Bytes) :
    (∀ config, (load arguments environment openFile).result = .ok config →
      ∃ file, (ConfigFile.load openFile arguments.configPath).result = .ok file ∧
        config.IsFrom (source? arguments environment file) ∧
        ∀ setting value, setting.isText = true →
          source? arguments environment file setting = some value →
          (∃ t, value = .text t) ∨ value = .null ∨ value = .list []) ∧
    (∀ setting environment', (arguments.values.lookup setting).isSome = true →
      (∀ name, name ≠ setting.environmentVariable →
        environment.lookup name = environment'.lookup name) →
      load arguments environment openFile = load arguments environment' openFile) ∧
    ∀ file, (ConfigFile.load openFile arguments.configPath).result = .ok file →
      (∀ setting openFile' file', setting.isText = false →
        (arguments.values.lookup setting).isSome = true ∨
          (environment.lookup setting.environmentVariable).isSome = true →
        (ConfigFile.load openFile' arguments.configPath).result = .ok file' →
        file.DiffersAt setting file' →
        (load arguments environment openFile).result =
          (load arguments environment openFile').result) ∧
      ∀ setting value, setting.isText = true → file.value? setting = some value →
        value.IsForeign →
        (∃ (other : Setting) (item : Yaml.Item), (.text other.name, item) ∈ file.pairs ∧
            other.isText = true ∧ (file.document.value item).IsForeign ∧
            (load arguments environment openFile).result =
              .error (.config (.notText other (file.document.value item)))) ∨
          (∃ cause, (load arguments environment openFile).result = .error (.unshowable cause)) ∧
            ¬ file.IsShowable := by
  refine ⟨fun config h => ?_, fun setting environment' hcommand h => ?_, ?_⟩
  · obtain ⟨file, values, hfile, hvalues, hfrom⟩ := isFrom_of_load hread h
    refine ⟨file, hfile, hfrom, fun setting value htext hvalue => ?_⟩
    rcases source?_cases (Arguments.areTexts_read hread) hvalues htext hvalue with
      ht | ⟨hnull, -⟩ | ⟨hlist, -⟩
    · exact .inl ht
    · exact .inr (.inl hnull)
    · exact .inr (.inr hlist)
  · exact load_of_environment hcommand h
  · intro file hfile
    refine ⟨fun setting openFile' file' hnumber hhigher hfile' =>
      result_load_of_file hnumber hhigher hfile hfile', ?_⟩
    intro setting value htext hvalue hforeign
    obtain ⟨fault, hfault⟩ := values_eq_error htext hvalue hforeign
    have hload : (load arguments environment openFile).result = .error fault := by
      rw [result_load hfile, hfault]
      rfl
    rcases fault_of_values hfault with
      ⟨other, item, hmem, hother, hitem, rfl⟩ | ⟨⟨cause, rfl⟩, hshown⟩
    · exact .inl ⟨other, item, hmem, hother, hitem, hload⟩
    · exact .inr ⟨⟨cause, hload⟩, hshown⟩

def sampleArguments : Arguments :=
  ⟨some "c.yaml", [(.batchSize, .int 5), (.apiKey, .text "k")]⟩

def sampleFile (t : String) : Text → Except OpenFault Bytes :=
  fun _ => .ok (t.toList.flatMap Utf8.encodeChar)

/-- A file with these keys and scalars. -/
def flatFile (pairs : List (Text × Yaml.Scalar)) : ConfigFile :=
  let pairs := pairs.map fun (key, value) => (.text key, .scalar value)
  ⟨⟨.collection 0, [(0, .mapping pairs)]⟩, pairs⟩

theorem eq_ok_of_parts {result : Except LoadFault ConfigFile} {file : ConfigFile}
    (h : (result.toOption.map fun file => (file.document, file.pairs)) =
      some (file.document, file.pairs)) : result = .ok file := by
  obtain ⟨found, hfound, hparts⟩ := Option.map_eq_some_iff.1 h
  obtain ⟨hdocument, hpairs⟩ := Prod.mk.inj hparts
  rw [eq_ok_of_toOption hfound]
  show Except.ok ⟨found.document, found.pairs⟩ = .ok (⟨file.document, file.pairs⟩ : ConfigFile)
  rw [hdocument, hpairs]

/-- The command line decides the batch size over a variable and a file that give no number at all,
and over any others; the file alone decides the name of a field.  A key that is no text is refused
although the command line gives another. -/
theorem sample_precedence :
    (∃ config, (load sampleArguments [("BATCH_SIZE", "y")]
        (sampleFile "message_field: m\nbatch_size: x\n")).result = .ok config ∧
      config.batchSize = 5 ∧ config.fields.message = .text "m") ∧
    load sampleArguments [("BATCH_SIZE", "y")] (sampleFile "message_field: m\nbatch_size: x\n") =
      load sampleArguments [("BATCH_SIZE", "7")]
        (sampleFile "message_field: m\nbatch_size: x\n") ∧
    (load sampleArguments [("BATCH_SIZE", "y")]
        (sampleFile "message_field: m\nbatch_size: x\n")).result =
      (load sampleArguments [("BATCH_SIZE", "y")]
        (sampleFile "message_field: m\nbatch_size: null\n")).result ∧
    ∃ setting value, (load sampleArguments [] (sampleFile "api_key: 0\n")).result =
      .error (.config (.notText setting value)) := by
  have hread : Arguments.read ["--config", "c.yaml", "--api-key", "k", "--batch-size", "5"] =
      .ok sampleArguments := by rfl
  have hfile : (ConfigFile.load (sampleFile "message_field: m\nbatch_size: x\n")
      sampleArguments.configPath).result =
        .ok (flatFile [("message_field", .text "m"), ("batch_size", .text "x")]) :=
    eq_ok_of_parts (by decide +kernel)
  obtain ⟨hvalues, hvariables, hfiles⟩ := load_precedence hread [("BATCH_SIZE", "y")]
    (sampleFile "message_field: m\nbatch_size: x\n")
  refine ⟨?_, ?_, ?_, ?_⟩
  · have hloads : (load sampleArguments [("BATCH_SIZE", "y")]
        (sampleFile "message_field: m\nbatch_size: x\n")).result.toOption.isSome = true := by
      decide +kernel
    obtain ⟨config, hconfig⟩ := Option.isSome_iff_exists.1 hloads
    obtain ⟨file, hfound, hfrom, -⟩ := hvalues config (eq_ok_of_toOption hconfig)
    obtain rfl := Except.ok.inj (hfile.symm.trans hfound)
    refine ⟨config, eq_ok_of_toOption hconfig, ?_, ?_⟩
    · have hsize : Conversion.done 5 = .done config.batchSize := hfrom.batchSize
      exact (Conversion.done.inj hsize).symm
    · exact hfrom.texts .messageField rfl
  · apply hvariables .batchSize _ rfl
    intro name hname
    have hvariable : (name == ("BATCH_SIZE" : Text)) = false := beq_false_of_ne hname
    rw [List.lookup_cons, List.lookup_cons, hvariable]
  · have hother : (ConfigFile.load (sampleFile "message_field: m\nbatch_size: null\n")
        sampleArguments.configPath).result =
          .ok (flatFile [("message_field", .text "m"), ("batch_size", .null)]) :=
      eq_ok_of_parts (by decide +kernel)
    apply (hfiles _ hfile).1 .batchSize _ _ rfl (.inl rfl) hother
    exact .cons ⟨rfl, fun _ => rfl⟩ (.cons ⟨rfl, fun hname => absurd rfl hname⟩ .nil)
  · have hkey : (ConfigFile.load (sampleFile "api_key: 0\n") sampleArguments.configPath).result =
        .ok (flatFile [("api_key", .int 0)]) := eq_ok_of_parts (by decide +kernel)
    obtain ⟨-, -, hkeys⟩ := load_precedence hread [] (sampleFile "api_key: 0\n")
    rcases (hkeys _ hkey).2 .apiKey (.int 0) rfl rfl ⟨nofun, nofun⟩ with
      ⟨other, item, -, -, -, hfault⟩ | ⟨-, hshown⟩
    · exact ⟨other, _, hfault⟩
    · refine absurd ?_ hshown
      rintro setting item hpair -
      obtain ⟨-, rfl⟩ := Prod.mk.inj (List.mem_singleton.1 hpair)
      decide +kernel

end Config

end LogShipper
