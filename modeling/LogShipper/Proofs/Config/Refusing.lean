import LogShipper.Proofs.Config.Precedence
import LogShipper.Proofs.Number.Numeral
import LogShipper.Proofs.Number.Overflow
import LogShipper.Run

/-!
# Settings that are refused

Settings that are wrong are refused with a message, and end a run with code 2.  Some values in the
file do worse: an integer with too many digits, or parts too deep inside each other, where the value
should be shown, an infinite batch size, and an integer past all finite numbers as the time to wait.
Nothing else breaks off the loading.
-/

namespace LogShipper

/-! ## 1. Numbers on the command line -/

namespace Arguments

/-- What the command line may give for a number. -/
def GivesNumber : Setting × Yaml.Value → Prop
  | (.batchSize, value) =>
    value = .list [] ∨ ∃ n, value = .int n ∧ Integer.isOversized n = false
  | (.requestTimeout, value) => value = .list [] ∨ ∃ x, value = .float x
  | _ => True

theorem givesNumber_flagValue {name t : Text} {setting : Setting} {value : Yaml.Value}
    (h : flagValue name setting t = .ok value) : GivesNumber (setting, value) := by
  unfold flagValue at h
  by_cases hseparator : t = separator
  · rw [if_pos hseparator] at h
    obtain rfl := Except.ok.inj h
    cases setting <;> first | exact .inl rfl | trivial
  · rw [if_neg hseparator] at h
    cases setting with
    | batchSize =>
      dsimp only at h
      split at h
      · rename_i n hn
        obtain rfl := Except.ok.inj h
        exact .inr ⟨n, rfl, Numeral.isOversized_of_readIntegerAs hn⟩
      · cases h
    | requestTimeout =>
      dsimp only at h
      split at h
      · obtain rfl := Except.ok.inj h
        exact .inr ⟨_, rfl⟩
      · cases h
    | _ => trivial

def GiveNumbers (arguments : Arguments) : Prop :=
  ∀ given ∈ arguments.values, GivesNumber given

/-- Whatever words are read, what they give for a number is one of the right kind, or no words. -/
theorem giveNumbers_read {words : List Text} {arguments : Arguments}
    (h : read words = .ok arguments) : arguments.GiveNumbers := by
  refine read_keeps nofun ?_ ?_ h
  · intro progress final name t flag _ hgiven htake
    unfold Progress.take at htake
    cases flag with
    | help | config =>
      obtain rfl := Except.ok.inj htake
      exact hgiven
    | setting setting =>
      obtain ⟨value, hvalue, htake⟩ := bind_eq_ok_iff.1 htake
      obtain rfl := Except.ok.inj htake
      exact List.forall_mem_cons.2 ⟨givesNumber_flagValue hvalue, hgiven⟩
  · intro progress t hgiven
    unfold Progress.takePlain
    split
    · exact hgiven
    · exact List.forall_mem_cons.2 ⟨trivial, hgiven⟩

end Arguments

/-! ## 2. Conversions -/

namespace Yaml.Value

theorem ofNumeral_ne_impossible {α : Type} (result : Except NumeralFault α)
    (fault : ArithmeticFault) : ofNumeral result ≠ .impossible fault := by
  cases result <;> nofun

theorem ofNumeral_ne_tooDeep {α : Type} (result : Except NumeralFault α) :
    ofNumeral result ≠ .tooDeep := by
  cases result <;> nofun

theorem ofNumeral_eq_done_iff {α : Type} {result : Except NumeralFault α} {a : α} :
    ofNumeral result = .done a ↔ result = .ok a := by
  cases result <;> simp [ofNumeral]

theorem showFault?_scalar (bound : Nat) (s : Scalar) :
    (scalar s).showFault? (bound + 1) = if s.isOversized then some .oversized else none := by
  show s.showFault? (bound + 1) = _
  rw [Scalar.showFault?, if_neg (Nat.succ_ne_zero bound)]

/-- A scalar is never too deep. -/
theorem showFault?_scalar_ne_tooDeep (s : Scalar) :
    (scalar s).showFault? (maxShownDepth - 1) ≠ some .tooDeep := by
  intro h
  rw [show maxShownDepth - 1 = 995 + 1 from rfl, showFault?_scalar] at h
  split at h <;> cases h

theorem showFault?_int_eq_none_iff {n : Int} :
    (int n).showFault? (maxShownDepth - 1) = none ↔ Integer.isOversized n = false := by
  rw [show maxShownDepth - 1 = 995 + 1 from rfl, showFault?_scalar]
  cases hlong : Integer.isOversized n <;> simp [Scalar.isOversized, hlong]

/-- Only an infinite number has no integer part. -/
theorem toInteger_eq_impossible_iff {value : Yaml.Value} {fault : ArithmeticFault} :
    value.toInteger = .impossible fault ↔
      fault = .infiniteToInteger ∧ ∃ negative, value = .float (.infinite negative) := by
  constructor
  · intro h
    unfold toInteger at h
    split at h
    · exact absurd h (ofNumeral_ne_impossible _ _)
    · exact absurd h (ofNumeral_ne_impossible _ _)
    · cases h
    · cases h
    · rename_i x
      cases x with
      | infinite negative =>
        obtain rfl : .infiniteToInteger = fault := Conversion.impossible.inj h
        exact ⟨rfl, negative, rfl⟩
      | finite negative rank => cases h
      | nan => cases h
    · cases h
  · rintro ⟨rfl, negative, rfl⟩
    rfl

theorem toInteger_ne_tooDeep (value : Yaml.Value) : value.toInteger ≠ .tooDeep := by
  unfold toInteger
  split
  · exact ofNumeral_ne_tooDeep _
  · exact ofNumeral_ne_tooDeep _
  · nofun
  · nofun
  · split <;> nofun
  · nofun

/-- Only an integer itself can have too many digits. -/
theorem eq_int_of_toInteger {value : Yaml.Value} {n : Int} (h : value.toInteger = .done n)
    (hlong : Integer.isOversized n = true) : value = .int n := by
  -- Texts and bytes with too many digits are not read, and a finite number is never so large.
  unfold toInteger at h
  split at h
  · rw [Numeral.isOversized_of_readIntegerAs (ofNumeral_eq_done_iff.1 h)] at hlong
    cases hlong
  · rw [Numeral.isOversized_of_readIntegerAs (ofNumeral_eq_done_iff.1 h)] at hlong
    cases hlong
  · rw [Conversion.done.inj h]
  · rename_i b
    obtain rfl := Conversion.done.inj h
    have hshort : Integer.isOversized (if b = true then 1 else 0) = false := by
      cases b <;> decide +kernel
    rw [hshort] at hlong
    cases hlong
  · split at h
    · rename_i hwhole
      obtain rfl := Conversion.done.inj h
      rw [Number.isOversized_of_truncate hwhole] at hlong
      cases hlong
    · cases h
    · cases h
  · cases h

/-- Only an integer past the finite numbers, if it can be shown, is no real number at all. -/
theorem toReal?_eq_impossible_iff {value : Yaml.Value} {fault : ArithmeticFault} :
    value.toReal? = .impossible fault ↔
      fault = .integerTooLarge ∧ ∃ n, value = .int n ∧ Integer.isOversized n = false ∧
        Binary64.overflowBound ≤ n.natAbs := by
  constructor
  · intro h
    -- Texts fail as settings.  Of the others only an integer is rounded, and it can be too large.
    unfold toReal? at h
    split at h
    · cases h
    · split at h
      · cases h
      · exact absurd h (ofNumeral_ne_impossible _ _)
    · exact absurd h (ofNumeral_ne_impossible _ _)
    · split at h
      · cases h
      · cases h
      · rename_i hshown
        split at h
        · rename_i n _ _ _
          split at h
          · cases h
          · rename_i cause hcause
            obtain rfl := Conversion.impossible.inj h
            obtain ⟨rfl, hbound⟩ := Number.ofIntRounded_eq_error_iff.1 hcause
            exact ⟨rfl, n, rfl, showFault?_int_eq_none_iff.1 hshown, hbound⟩
        · cases h
        · cases h
        · cases h
  · rintro ⟨rfl, n, rfl, hshort, hbound⟩
    have hround := Number.ofIntRounded_eq_error_iff.2 ⟨rfl, hbound⟩
    have hshown := showFault?_int_eq_none_iff.2 hshort
    unfold toReal?
    simp only [hshown, hround]

theorem toReal?_eq_tooDeep_iff {value : Yaml.Value} :
    value.toReal? = .tooDeep ↔ value.showFault? (maxShownDepth - 1) = some .tooDeep := by
  constructor
  · intro h
    unfold toReal? at h
    split at h
    · cases h
    · split at h
      · cases h
      · exact absurd h (ofNumeral_ne_tooDeep _)
    · exact absurd h (ofNumeral_ne_tooDeep _)
    · split at h
      · cases h
      · rename_i hdeep
        exact hdeep
      · split at h
        · split at h <;> cases h
        · cases h
        · cases h
        · cases h
  · intro h
    unfold toReal?
    split
    · exact absurd h (showFault?_scalar_ne_tooDeep _)
    · exact absurd h (showFault?_scalar_ne_tooDeep _)
    · exact absurd h (showFault?_scalar_ne_tooDeep _)
    · rw [h]

end Yaml.Value

/-! ## 3. The file -/

/-- Whether the value of an entry of the file would be shown in a message, as it is not of the kind
that the setting asks for, and cannot be. -/
def ConfigFile.IsUnshowable (file : ConfigFile) (entry : Yaml.Scalar × Yaml.Item)
    (cause : Yaml.ShowFault) : Prop :=
  ∃ setting : Setting, entry.1 = .text setting.name ∧
    setting.accepts (file.document.value entry.2) = false ∧
    (file.document.value entry.2).showFault? Yaml.maxShownDepth = some cause

/-- Whether nothing is wrong with an entry of the file: its key names no setting, or its value is of
the kind that the setting asks for. -/
def ConfigFile.IsSound (file : ConfigFile) (entry : Yaml.Scalar × Yaml.Item) : Prop :=
  entryFault? file.document entry = none

variable {arguments : Arguments} {environment : Environment} {file : ConfigFile}
  {values : SettingValues} {fault : LoadFault} {setting : Setting} {value : Yaml.Value}

theorem entryFault?_cases {entry : Yaml.Scalar × Yaml.Item}
    (h : entryFault? file.document entry = some fault) :
    (∃ cause, fault = .config cause) ∨
      ∃ cause, file.IsUnshowable entry cause ∧ fault = .unshowable cause := by
  obtain ⟨setting, hkey, haccepts, rfl⟩ := entryFault?_eq_some_iff.1 h
  rcases setting.refuse_cases (file.document.value entry.2) with
    hrefused | ⟨cause, hcause, hrefused⟩
  · exact .inl ⟨_, hrefused⟩
  · exact .inr ⟨cause, ⟨setting, hkey, haccepts, hcause⟩, hrefused⟩

theorem entryFault?_of_isUnshowable {entry : Yaml.Scalar × Yaml.Item} {cause : Yaml.ShowFault}
    (h : file.IsUnshowable entry cause) :
    entryFault? file.document entry = some (.unshowable cause) := by
  obtain ⟨setting, hkey, haccepts, hcause⟩ := h
  rw [entryFault?_eq_some_iff]
  refine ⟨setting, hkey, haccepts, ?_⟩
  rw [Setting.refuse, hcause]

namespace ConfigFile

theorem exists_values_iff :
    (∃ values, file.values.result = .ok values) ↔ ∀ entry ∈ file.pairs, file.IsSound entry := by
  have hnone : file.pairs.findSome? (entryFault? file.document) = none ↔
      ∀ entry ∈ file.pairs, file.IsSound entry := List.findSome?_eq_none_iff
  rw [← hnone]
  cases hvalues : file.values.result with
  | ok values =>
    refine iff_of_true ⟨values, rfl⟩ (Option.eq_none_iff_forall_ne_some.2 fun fault hfault => ?_)
    rw [ConfigFile.values, settingValues_eq_error_iff.2 hfault] at hvalues
    cases hvalues
  | error fault =>
    refine iff_of_false nofun fun hsound => ?_
    rw [settingValues_eq_error_iff.1 hvalues] at hsound
    cases hsound

/-- The settings in a file fail by a value of the wrong kind; it is the first such value, and if it
cannot be shown, that is the fault. -/
theorem values_eq_error (h : file.values.result = .error fault) :
    (∃ cause, fault = .config cause) ∨
      ∃ before entry after cause, file.pairs = before ++ entry :: after ∧
        (∀ earlier ∈ before, file.IsSound earlier) ∧ file.IsUnshowable entry cause ∧
        fault = .unshowable cause := by
  obtain ⟨before, entry, after, hpairs, hentry, hbefore⟩ :=
    List.findSome?_eq_some_iff.1 (settingValues_eq_error_iff.1 h)
  rcases entryFault?_cases hentry with hconfig | ⟨cause, hunshowable, hfault⟩
  · exact .inl hconfig
  · exact .inr ⟨before, entry, after, cause, hpairs, hbefore, hunshowable, hfault⟩

theorem values_of_isUnshowable {before after : List (Yaml.Scalar × Yaml.Item)}
    {entry : Yaml.Scalar × Yaml.Item} {cause : Yaml.ShowFault}
    (hpairs : file.pairs = before ++ entry :: after)
    (hbefore : ∀ earlier ∈ before, file.IsSound earlier) (hentry : file.IsUnshowable entry cause) :
    file.values.result = .error (.unshowable cause) :=
  settingValues_eq_error_iff.2 (List.findSome?_eq_some_iff.2
    ⟨before, entry, after, hpairs, entryFault?_of_isUnshowable hentry, hbefore⟩)

end ConfigFile

/-! ## 4. Values that only the file can give -/

namespace Config

/-- The value that the file gives for a setting, when no other source gives any. -/
def FromFile (arguments : Arguments) (environment : Environment) (file : ConfigFile)
    (setting : Setting) (value : Yaml.Value) : Prop :=
  arguments.values.lookup setting = none ∧
    environment.lookup setting.environmentVariable = none ∧ file.value? setting = some value

theorem FromFile.source?_eq (h : FromFile arguments environment file setting value) :
    source? arguments environment file setting = some value := by
  rw [source?, h.1, h.2.1, h.2.2]
  rfl

/-- A value that is no text, and that the command line does not give, can only be given by the
file. -/
theorem fromFile_of_source? (h : source? arguments environment file setting = some value)
    (hcommand : (setting, value) ∉ arguments.values) (htext : ∀ t, value ≠ .text t) :
    FromFile arguments environment file setting value := by
  unfold source? at h
  cases hgiven : arguments.values.lookup setting with
  | some given =>
    rw [hgiven, Option.some_or] at h
    obtain rfl := Option.some.inj h
    exact absurd (mem_of_lookup hgiven) hcommand
  | none =>
    rw [hgiven, Option.none_or] at h
    cases hvariable : environment.lookup setting.environmentVariable with
    | some t =>
      rw [hvariable, Option.map_some, Option.some_or] at h
      exact absurd (Option.some.inj h).symm (htext t)
    | none =>
      rw [hvariable, Option.map_none, Option.none_or] at h
      exact ⟨hgiven, hvariable, h⟩

theorem fromFile_of_infinite (harguments : arguments.GiveNumbers) {negative : Bool}
    (h : source? arguments environment file .batchSize = some (.float (.infinite negative))) :
    FromFile arguments environment file .batchSize (.float (.infinite negative)) := by
  refine fromFile_of_source? h (fun hmem => ?_) nofun
  rcases harguments _ hmem with hnone | ⟨n, hn, -⟩
  · cases hnone
  · cases hn

theorem fromFile_of_isOversized (harguments : arguments.GiveNumbers) {n : Int}
    (h : source? arguments environment file .batchSize = some (.int n))
    (hlong : Integer.isOversized n = true) :
    FromFile arguments environment file .batchSize (.int n) := by
  refine fromFile_of_source? h (fun hmem => ?_) nofun
  rcases harguments _ hmem with hnone | ⟨m, hm, hshort⟩
  · cases hnone
  · cases hm
    rw [hshort] at hlong
    cases hlong

theorem fromFile_of_integer (harguments : arguments.GiveNumbers) {n : Int}
    (h : source? arguments environment file .requestTimeout = some (.int n)) :
    FromFile arguments environment file .requestTimeout (.int n) := by
  refine fromFile_of_source? h (fun hmem => ?_) nofun
  rcases harguments _ hmem with hnone | ⟨x, hx⟩
  · cases hnone
  · cases hx

theorem fromFile_of_tooDeep (harguments : arguments.GiveNumbers)
    (h : source? arguments environment file .requestTimeout = some value)
    (hdeep : value.showFault? (Yaml.maxShownDepth - 1) = some .tooDeep) :
    FromFile arguments environment file .requestTimeout value := by
  refine fromFile_of_source? h (fun hmem => ?_) ?_
  · rcases harguments _ hmem with rfl | ⟨x, rfl⟩
    · cases hdeep
    · exact Yaml.Value.showFault?_scalar_ne_tooDeep _ hdeep
  · rintro t rfl
    exact Yaml.Value.showFault?_scalar_ne_tooDeep _ hdeep

/-! ## 5. Faults of all sources -/

/-- The ways in which the loading breaks off: a value of the wrong kind that cannot be shown is the
first that is wrong; or all entries are sound, and the batch size is infinite, the time to wait is
too deep to be shown or past the finite numbers, or the batch size is negative with too many digits,
each as the file gives it. -/
inductive BreaksOff (arguments : Arguments) (environment : Environment) (file : ConfigFile) :
    LoadFault → Prop
  | unshowable {before after : List (Yaml.Scalar × Yaml.Item)} {entry : Yaml.Scalar × Yaml.Item}
      {cause : Yaml.ShowFault} (split : file.pairs = before ++ entry :: after)
      (sound : ∀ earlier ∈ before, file.IsSound earlier)
      (first : file.IsUnshowable entry cause) :
      BreaksOff arguments environment file (.unshowable cause)
  | infinite {negative : Bool} (sound : ∀ entry ∈ file.pairs, file.IsSound entry)
      (batchSize : FromFile arguments environment file .batchSize (.float (.infinite negative))) :
      BreaksOff arguments environment file (.arithmetic .infiniteToInteger)
  | tooDeep {value : Yaml.Value} (sound : ∀ entry ∈ file.pairs, file.IsSound entry)
      (batchSize : ∀ value, source? arguments environment file .batchSize = some value →
        ∃ m, value.toInteger = .done m)
      (requestTimeout : FromFile arguments environment file .requestTimeout value)
      (deep : value.showFault? (Yaml.maxShownDepth - 1) = some .tooDeep) :
      BreaksOff arguments environment file (.unshowable .tooDeep)
  | tooLarge {n : Int} (sound : ∀ entry ∈ file.pairs, file.IsSound entry)
      (batchSize : ∀ value, source? arguments environment file .batchSize = some value →
        ∃ m, value.toInteger = .done m)
      (requestTimeout : FromFile arguments environment file .requestTimeout (.int n))
      (showable : Integer.isOversized n = false) (large : Binary64.overflowBound ≤ n.natAbs) :
      BreaksOff arguments environment file (.arithmetic .integerTooLarge)
  | notPositive {n : Int} {key : Text} (sound : ∀ entry ∈ file.pairs, file.IsSound entry)
      (batchSize : FromFile arguments environment file .batchSize (.int n)) (nonpositive : n ≤ 0)
      (long : Integer.isOversized n = true)
      (requestTimeout : ∀ value, source? arguments environment file .requestTimeout = some value →
        ∃ x, value.toReal? = .done x)
      (apiKey : source? arguments environment file .apiKey = some (.text key)) (given : key ≠ []) :
      BreaksOff arguments environment file (.unshowable .oversized)

section Values

variable {α : Type} {convert : Yaml.Value → Conversion α} {default : α}

theorem numberOr_eq_error_iff :
    numberOr convert values setting default = .error fault ↔
      ∃ value, values.lookup setting = some value ∧
        ((∃ cause, convert value = .refused cause ∧ fault = .config (.notNumber cause)) ∨
          (∃ cause, convert value = .impossible cause ∧ fault = .arithmetic cause) ∨
          convert value = .tooDeep ∧ fault = .unshowable .tooDeep) := by
  unfold numberOr
  cases values.lookup setting with
  | none => simp
  | some value =>
    cases hvalue : convert value <;> simp [hvalue, eq_comm]

theorem exists_numberOr_iff :
    (∃ a, numberOr convert values setting default = .ok a) ↔
      ∀ value, values.lookup setting = some value → ∃ a, convert value = .done a := by
  unfold numberOr
  cases values.lookup setting with
  | none => simp
  | some value =>
    cases hvalue : convert value <;> simp [hvalue]

end Values

theorem ofValues_of_batchSize
    (h : numberOr Yaml.Value.toInteger values .batchSize 100 = .error fault) :
    ofValues values = .error fault := by
  unfold ofValues
  dsimp only
  rw [h]
  rfl

theorem ofValues_of_requestTimeout {batchSize : Int}
    (hsize : numberOr Yaml.Value.toInteger values .batchSize 100 = .ok batchSize)
    (h : numberOr Yaml.Value.toReal? values .requestTimeout none = .error fault) :
    ofValues values = .error fault := by
  unfold ofValues
  dsimp only
  rw [hsize, ok_bind, h]
  rfl

/-- Behind both conversions come two checks, of the key and of the batch size. -/
theorem ofValues_of_numbers {batchSize : Int} {requestTimeout : Option Binary64}
    (hsize : numberOr Yaml.Value.toInteger values .batchSize 100 = .ok batchSize)
    (htimeout : numberOr Yaml.Value.toReal? values .requestTimeout none = .ok requestTimeout) :
    ((text? values .apiKey).getD [] = [] → ofValues values = .error (.config .keyMissing)) ∧
    ((text? values .apiKey).getD [] ≠ [] →
      (batchSize ≤ 0 → ofValues values = .error (if Integer.isOversized batchSize
        then .unshowable .oversized else .config (.notPositive batchSize))) ∧
      (0 < batchSize → ∃ config, ofValues values = .ok config)) := by
  unfold ofValues
  dsimp only
  rw [hsize, ok_bind, htimeout, ok_bind]
  refine ⟨fun hkey => ?_, fun hkey => ⟨fun hnonpositive => ?_, fun hpositive => ?_⟩⟩
  · rw [hkey]
    rfl
  · rw [if_neg (by simpa using hkey), if_pos hnonpositive]
    rfl
  · rw [if_neg (by simpa using hkey), if_neg (Int.not_le.2 hpositive)]
    exact ⟨_, rfl⟩

theorem getD_text?_ne_nil_iff :
    (text? values setting).getD [] ≠ [] ↔
      ∃ t, values.lookup setting = some (.text t) ∧ t ≠ [] := by
  simp only [← text?_eq_some_iff]
  cases text? values setting <;> simp

/-- A batch size with too many digits is an integer that the file gives. -/
theorem fromFile_of_batchSize (harguments : arguments.GiveNumbers) {batchSize : Int}
    (hvalues : file.values.result = .ok values)
    (hsize : numberOr Yaml.Value.toInteger (mergeSources arguments environment values) .batchSize
      100 = .ok batchSize) (hlong : Integer.isOversized batchSize = true) :
    FromFile arguments environment file .batchSize (.int batchSize) := by
  have hnumber := numberOr_eq_ok hsize
  rw [← source?_eq_lookup hvalues] at hnumber
  cases hsource : source? arguments environment file .batchSize with
  | none =>
    rw [hsource, Option.elim_none] at hnumber
    have hshort : Integer.isOversized 100 = false := by decide +kernel
    rw [hnumber, hshort] at hlong
    cases hlong
  | some value =>
    rw [hsource, Option.elim_some] at hnumber
    obtain rfl := Yaml.Value.eq_int_of_toInteger hnumber hlong
    exact fromFile_of_isOversized harguments hsource hlong

/-- Unless the loading breaks off, there are settings or a message about what is wrong. -/
theorem ofValues_cases (harguments : arguments.GiveNumbers)
    (hvalues : file.values.result = .ok values) :
    let merged := mergeSources arguments environment values
    (∃ config, ofValues merged = .ok config) ∨
      (∃ cause, ofValues merged = .error (.config cause)) ∨
      ∃ fault, BreaksOff arguments environment file fault ∧ ofValues merged = .error fault := by
  intro merged
  have hsound := ConfigFile.exists_values_iff.1 ⟨values, hvalues⟩
  have hlookup (setting : Setting) :
      merged.lookup setting = source? arguments environment file setting :=
    (source?_eq_lookup hvalues).symm
  -- Both numbers are converted, in this order, before it is asked what the key is.
  cases hsize : numberOr Yaml.Value.toInteger merged .batchSize 100 with
  | error fault =>
    have hfault := ofValues_of_batchSize hsize
    obtain ⟨value, hvalue, ⟨cause, -, rfl⟩ | ⟨cause, hcause, rfl⟩ | ⟨hdeep, -⟩⟩ :=
      numberOr_eq_error_iff.1 hsize
    · exact .inr (.inl ⟨_, hfault⟩)
    · obtain ⟨rfl, negative, rfl⟩ := Yaml.Value.toInteger_eq_impossible_iff.1 hcause
      rw [hlookup] at hvalue
      exact .inr (.inr ⟨_, .infinite hsound (fromFile_of_infinite harguments hvalue), hfault⟩)
    · exact absurd hdeep value.toInteger_ne_tooDeep
  | ok batchSize =>
    cases htimeout : numberOr Yaml.Value.toReal? merged .requestTimeout none with
    | error fault =>
      have hfault := ofValues_of_requestTimeout hsize htimeout
      have hconverts := exists_numberOr_iff.1 ⟨_, hsize⟩
      rw [hlookup] at hconverts
      obtain ⟨value, hvalue, ⟨cause, -, rfl⟩ | ⟨cause, hcause, rfl⟩ | ⟨hdeep, rfl⟩⟩ :=
        numberOr_eq_error_iff.1 htimeout
      · exact .inr (.inl ⟨_, hfault⟩)
      · obtain ⟨rfl, n, rfl, hshort, hlarge⟩ := Yaml.Value.toReal?_eq_impossible_iff.1 hcause
        rw [hlookup] at hvalue
        exact .inr (.inr ⟨_, .tooLarge hsound hconverts (fromFile_of_integer harguments hvalue)
          hshort hlarge, hfault⟩)
      · have hshown := Yaml.Value.toReal?_eq_tooDeep_iff.1 hdeep
        rw [hlookup] at hvalue
        exact .inr (.inr ⟨_, .tooDeep hsound hconverts
          (fromFile_of_tooDeep harguments hvalue hshown) hshown, hfault⟩)
    | ok requestTimeout =>
      obtain ⟨hmissing, hgiven⟩ := ofValues_of_numbers hsize htimeout
      by_cases hkey : (text? merged .apiKey).getD [] = []
      · exact .inr (.inl ⟨_, hmissing hkey⟩)
      · obtain ⟨hrefused, hloaded⟩ := hgiven hkey
        by_cases hpositive : 0 < batchSize
        · exact .inl (hloaded hpositive)
        · have hfault := hrefused (Int.not_lt.1 hpositive)
          by_cases hlong : Integer.isOversized batchSize = true
          · rw [if_pos hlong] at hfault
            obtain ⟨key, hsource, hne⟩ := getD_text?_ne_nil_iff.1 hkey
            rw [hlookup] at hsource
            have hconverts := exists_numberOr_iff.1 ⟨_, htimeout⟩
            rw [hlookup] at hconverts
            exact .inr (.inr ⟨_, .notPositive hsound
              (fromFile_of_batchSize harguments hvalues hsize hlong) (Int.not_lt.1 hpositive) hlong
              hconverts hsource hne, hfault⟩)
          · rw [if_neg hlong] at hfault
            exact .inr (.inl ⟨_, hfault⟩)

/-- Behind a batch size that is converted, a time to wait that is not decides. -/
theorem ofValues_of_fromFile
    (hlookup : ∀ setting, values.lookup setting = source? arguments environment file setting)
    (hsize : ∀ value, source? arguments environment file .batchSize = some value →
      ∃ m, value.toInteger = .done m)
    (htimeout : FromFile arguments environment file .requestTimeout value)
    (hfault : (∃ cause, value.toReal? = .impossible cause ∧ fault = .arithmetic cause) ∨
      value.toReal? = .tooDeep ∧ fault = .unshowable .tooDeep) :
    ofValues values = .error fault := by
  obtain ⟨m, hbatch⟩ : ∃ m, numberOr Yaml.Value.toInteger values .batchSize 100 = .ok m :=
    exists_numberOr_iff.2 fun value hvalue => hsize value ((hlookup _).symm.trans hvalue)
  apply ofValues_of_requestTimeout hbatch
  rw [numberOr_eq_error_iff]
  exact ⟨value, (hlookup _).trans htimeout.source?_eq, .inr hfault⟩

variable {openFile : Text → Except OpenFault Bytes}

/-- What breaks off the loading is met, and is its fault. -/
theorem load_of_breaksOff
    (hfile : (ConfigFile.load openFile arguments.configPath).result = .ok file)
    (h : BreaksOff arguments environment file fault) :
    (load arguments environment openFile).result = .error fault := by
  rw [result_load hfile]
  -- Behind sound entries stand the values of all sources.
  have hmerged (hsound : ∀ entry ∈ file.pairs, file.IsSound entry)
      (hfault : ∀ values : SettingValues,
        (∀ setting, values.lookup setting = source? arguments environment file setting) →
          ofValues values = .error fault) :
      (file.values.result.bind fun values =>
        ofValues (mergeSources arguments environment values)) = .error fault := by
    obtain ⟨values, hvalues⟩ := ConfigFile.exists_values_iff.2 hsound
    rw [hvalues]
    exact hfault _ fun setting => (source?_eq_lookup hvalues).symm
  cases h with
  | unshowable split sound first =>
    rw [ConfigFile.values_of_isUnshowable split sound first]
    rfl
  | infinite sound batchSize =>
    refine hmerged sound fun values hlookup => ofValues_of_batchSize ?_
    rw [numberOr_eq_error_iff]
    refine ⟨_, (hlookup _).trans batchSize.source?_eq, .inr (.inl ⟨_, ?_, rfl⟩)⟩
    exact Yaml.Value.toInteger_eq_impossible_iff.2 ⟨rfl, _, rfl⟩
  | tooDeep sound batchSize requestTimeout deep =>
    refine hmerged sound fun values hlookup => ?_
    apply ofValues_of_fromFile hlookup batchSize requestTimeout
    exact .inr ⟨Yaml.Value.toReal?_eq_tooDeep_iff.2 deep, rfl⟩
  | tooLarge sound batchSize requestTimeout showable large =>
    refine hmerged sound fun values hlookup => ?_
    apply ofValues_of_fromFile hlookup batchSize requestTimeout
    exact .inl ⟨_, Yaml.Value.toReal?_eq_impossible_iff.2 ⟨rfl, _, rfl, showable, large⟩, rfl⟩
  | @notPositive n key sound batchSize nonpositive long requestTimeout apiKey given =>
    refine hmerged sound fun values hlookup => ?_
    have hsize : numberOr Yaml.Value.toInteger values .batchSize 100 = .ok n := by
      rw [numberOr, hlookup, batchSize.source?_eq]
      rfl
    obtain ⟨x, htimeout⟩ :
        ∃ x, numberOr Yaml.Value.toReal? values .requestTimeout none = .ok x :=
      exists_numberOr_iff.2 fun value hvalue =>
        requestTimeout value ((hlookup _).symm.trans hvalue)
    have hkey : (text? values .apiKey).getD [] ≠ [] :=
      getD_text?_ne_nil_iff.2 ⟨key, (hlookup _).trans apiKey, given⟩
    rw [((ofValues_of_numbers hsize htimeout).2 hkey).1 nonpositive, if_pos long]

/-- A file of settings can be read, and then either there are settings, or a message says what is
wrong with them and the run ends with code 2, or the loading breaks off in one of five ways, all of
them by a value that the file gives; then the run does, too. -/
theorem load_refuses {words : List Text} (hread : Arguments.read words = .ok arguments)
    (environment : Environment) (openFile : Text → Except OpenFault Bytes)
    (hfile : (ConfigFile.load openFile arguments.configPath).result = .ok file) :
    let loaded := load arguments environment openFile
    ((∃ config, loaded.result = .ok config) ∨
      (∃ cause, loaded.result = .error (.config cause)) ∨
      ∃ fault, BreaksOff arguments environment file fault ∧ loaded.result = .error fault) ∧
    (∀ fault, BreaksOff arguments environment file fault → loaded.result = .error fault) ∧
    ∀ (input : List Bytes) (services : Services),
      let reported := loaded.notices.foldl Services.report services
      let ending := run ⟨words, environment, openFile, input⟩ services
      (∀ cause, loaded.result = .error (.config cause) →
        ending = (.exit 2, reported.report (.settingsInvalid cause.message))) ∧
      ∀ fault, BreaksOff arguments environment file fault →
        ending = (.broken (.load fault), reported) := by
  intro loaded
  have hbroken : ∀ fault, BreaksOff arguments environment file fault →
      loaded.result = .error fault := fun fault => load_of_breaksOff hfile
  refine ⟨?_, hbroken, fun input services => ⟨fun cause hcause => ?_, fun fault h => ?_⟩⟩
  · show (∃ config, (load arguments environment openFile).result = .ok config) ∨
      (∃ cause, (load arguments environment openFile).result = .error (.config cause)) ∨
      ∃ fault, BreaksOff arguments environment file fault ∧
        (load arguments environment openFile).result = .error fault
    -- The other sources matter only if all entries of the file are sound.
    rw [result_load hfile]
    cases hvalues : file.values.result with
    | ok values => exact ofValues_cases (Arguments.giveNumbers_read hread) hvalues
    | error fault =>
      rcases ConfigFile.values_eq_error hvalues with ⟨cause, rfl⟩ |
        ⟨before, entry, after, cause, hpairs, hbefore, hentry, rfl⟩
      · exact .inr (.inl ⟨cause, rfl⟩)
      · exact .inr (.inr ⟨_, .unshowable hpairs hbefore hentry, rfl⟩)
  · unfold run
    rw [hread]
    dsimp only
    rw [show (load arguments environment openFile).result = _ from hcause]
  · unfold run
    rw [hread]
    dsimp only
    rw [show (load arguments environment openFile).result = _ from hbroken fault h]
    cases h <;> rfl

def fileArguments : Arguments :=
  ⟨some "c.yaml", []⟩

/-- A file that gives a key and a batch size. -/
def sizedFile (batchSize : Yaml.Scalar) : ConfigFile :=
  flatFile [("api_key", .text "k"), ("batch_size", batchSize)]

def idleServices : Services where
  timeOfDay := { now := 0 }

/-- A batch size that is no number is refused with a message; an infinite one breaks off the run. -/
theorem sample_refused :
    (load fileArguments [] (sampleFile "api_key: k\nbatch_size: .nan\n")).result =
      .error (.config (.notNumber .notNumber)) ∧
    (run ⟨["--config", "c.yaml"], [], sampleFile "api_key: k\nbatch_size: .nan\n", []⟩
      idleServices).1 =
      .exit 2 ∧
    (load fileArguments [] (sampleFile "api_key: k\nbatch_size: .inf\n")).result =
      .error (.arithmetic .infiniteToInteger) ∧
    (run ⟨["--config", "c.yaml"], [], sampleFile "api_key: k\nbatch_size: .inf\n", []⟩
      idleServices).1 =
      .broken (.load (.arithmetic .infiniteToInteger)) := by
  have hread : Arguments.read ["--config", "c.yaml"] = .ok fileArguments := by rfl
  have hnan : (ConfigFile.load (sampleFile "api_key: k\nbatch_size: .nan\n")
      fileArguments.configPath).result = .ok (sizedFile (.float .nan)) :=
    eq_ok_of_parts (by decide +kernel)
  have hinfinite : (ConfigFile.load (sampleFile "api_key: k\nbatch_size: .inf\n")
      fileArguments.configPath).result = .ok (sizedFile (.float (.infinite false))) :=
    eq_ok_of_parts (by decide +kernel)
  have hrefused : (load fileArguments [] (sampleFile "api_key: k\nbatch_size: .nan\n")).result =
      .error (.config (.notNumber .notNumber)) := by
    rw [result_load hnan]
    rfl
  have hbreaks : BreaksOff fileArguments [] (sizedFile (.float (.infinite false)))
      (.arithmetic .infiniteToInteger) := by
    refine .infinite (fun entry hentry => ?_) ⟨rfl, rfl, rfl⟩
    rcases List.mem_cons.1 hentry with rfl | hentry
    · rfl
    · obtain rfl := List.mem_singleton.1 hentry
      rfl
  obtain ⟨-, -, hruns⟩ := load_refuses hread [] _ hnan
  obtain ⟨-, hloads, hbroken⟩ := load_refuses hread [] _ hinfinite
  refine ⟨hrefused, ?_, hloads _ hbreaks, ?_⟩
  · rw [(hruns [] idleServices).1 _ hrefused]
  · rw [(hbroken [] idleServices).2 _ hbreaks]

end Config

end LogShipper
