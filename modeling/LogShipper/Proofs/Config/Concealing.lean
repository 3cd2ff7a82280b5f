import LogShipper.Proofs.Config.Refusing

/-!
# The api key in messages

Two runs find the same, but for the api key: where the one is given a key the other is given another
one, of the same kind.  Then the one is refused its settings for the reason for which the other is,
and the messages are the same.  There is one exception.  A key in the file that is no text and not
null is refused by a message that shows it.
-/

namespace LogShipper

/-! ## 1. Another key -/

/-- Values of a setting in two runs: they are the same, unless the setting is the key.  Keys are of
one kind, and no empty texts. -/
def Setting.Rekeyed (setting : Setting) (value value' : Yaml.Value) : Prop :=
  value = value' ∨
    setting = .apiKey ∧ value.kind = value'.kind ∧ value ≠ .text [] ∧ value' ≠ .text []

/-- Values of all settings that are the same but for the key. -/
def SettingValues.Rekeyed (values values' : SettingValues) : Prop :=
  ∀ setting : Setting, Option.Rel setting.Rekeyed (values.lookup setting) (values'.lookup setting)

/-- Files with the same keys, whose values are the same but for the api key.  What stands under keys
that name no setting may be anything. -/
def ConfigFile.Rekeyed (file file' : ConfigFile) : Prop :=
  List.Forall₂ (fun entry entry' => entry.1 = entry'.1 ∧
    ∀ setting : Setting, entry.1 = .text setting.name →
      setting.Rekeyed (file.document.value entry.2) (file'.document.value entry'.2))
    file.pairs file'.pairs

namespace Arguments

/-- A text that is an api key as the value of a flag. -/
def IsKey (t : Text) : Prop :=
  t ≠ [] ∧ t ≠ separator

/-- Words that are the same but for the values of flags for the api key, which stand behind an
equals sign or are the next word. -/
inductive Rekeyed : List Word → List Word → Prop
  | nil : Rekeyed [] []
  | same (word : Word) {words words' : List Word} (rest : Rekeyed words words') :
      Rekeyed (word :: words) (word :: words')
  | joined (name : Text) {key key' : Text} {words words' : List Word} (first : IsKey key)
      (second : IsKey key') (rest : Rekeyed words words') :
      Rekeyed (.flag name (.setting .apiKey) (some key) :: words)
        (.flag name (.setting .apiKey) (some key') :: words')
  | apart (name : Text) {key key' : Text} {words words' : List Word} (first : IsKey key)
      (second : IsKey key') (rest : Rekeyed words words') :
      Rekeyed (.flag name (.setting .apiKey) none :: .plain key :: words)
        (.flag name (.setting .apiKey) none :: .plain key' :: words')

end Arguments

/-- Results with the same notices, that are the same fault or related. -/
structure Loaded.Alike {α : Type} (R : α → α → Prop) (loaded loaded' : Loaded α) : Prop where
  result : LogShipper.Alike R loaded.result loaded'.result
  notices : loaded.notices = loaded'.notices

/-- Two runs that find the same, but for the api key in the words, the environment and the file. -/
structure Situation.Rekeyed (situation situation' : Situation) : Prop where
  words : Alike Arguments.Rekeyed (Arguments.classifyAll situation.words)
    (Arguments.classifyAll situation'.words)
  environment : SettingValues.Rekeyed (environmentValues situation.environment)
    (environmentValues situation'.environment)
  file : ∀ arguments, Arguments.read situation.words = .ok arguments →
    Loaded.Alike ConfigFile.Rekeyed (ConfigFile.load situation.openFile arguments.configPath)
      (ConfigFile.load situation'.openFile arguments.configPath)

variable {setting : Setting} {value value' : Yaml.Value} {values values' : SettingValues}

theorem Setting.Rekeyed.eq (h : setting.Rekeyed value value') (hkey : setting ≠ .apiKey) :
    value = value' :=
  h.resolve_right fun hother => hkey hother.1

theorem Yaml.Value.kind_eq_str_iff : value.kind = "str" ↔ ∃ t, value = .text t := by
  constructor
  · intro h
    cases value with
    | scalar s =>
      cases s with
      | text t => exact ⟨t, rfl⟩
      | _ => exact absurd h (by simp only [Value.kind, Scalar.kind]; decide)
    | _ => exact absurd h (by simp only [Value.kind]; decide)
  · rintro ⟨t, rfl⟩
    rfl

theorem Yaml.Value.kind_eq_noneType_iff : value.kind = "NoneType" ↔ value = .null := by
  constructor
  · intro h
    cases value with
    | scalar s =>
      cases s with
      | null => rfl
      | _ => exact absurd h (by simp only [Value.kind, Scalar.kind]; decide)
    | _ => exact absurd h (by simp only [Value.kind]; decide)
  · rintro rfl
    rfl

/-- Whether a setting takes a value depends on the kind of the value. -/
theorem Setting.accepts_eq_of_kind (hkind : value.kind = value'.kind) :
    setting.accepts value = setting.accepts value' := by
  have haccepts (value : Yaml.Value) : setting.accepts value = true ↔
      value.kind = "NoneType" ∨ value.kind = "str" ∨ setting.isText = false := by
    rw [Yaml.Value.kind_eq_noneType_iff, Yaml.Value.kind_eq_str_iff]
    unfold accepts
    split
    · exact iff_of_true rfl (.inl rfl)
    · exact iff_of_true rfl (.inr (.inl ⟨_, rfl⟩))
    · rename_i hnull htext
      constructor
      · exact fun h => .inr (.inr (by simpa using h))
      · rintro (h | ⟨t, h⟩ | h)
        · exact absurd h hnull
        · exact absurd h (htext t)
        · rw [h]
          rfl
  rw [Bool.eq_iff_iff, haccepts, haccepts, hkind]

theorem Setting.Rekeyed.accepts_eq (h : setting.Rekeyed value value') :
    setting.accepts value = setting.accepts value' := by
  rcases h with rfl | ⟨-, hkind, -⟩
  · rfl
  · exact accepts_eq_of_kind hkind

/-- A value that is refused with a message is shown in it. -/
theorem Setting.eq_notText_of_refuse {cause : ConfigFault}
    (h : setting.refuse value = .config cause) : cause = .notText setting value := by
  rcases setting.refuse_cases value with hrefuse | ⟨_, -, hrefuse⟩
  · rw [hrefuse] at h
    exact (LoadFault.config.inj h).symm
  · rw [hrefuse] at h
    cases h

namespace SettingValues

theorem Rekeyed.lookup_eq (h : Rekeyed values values') (hkey : setting ≠ .apiKey) :
    values.lookup setting = values'.lookup setting := by
  have hvalue := h setting
  generalize values.lookup setting = given, values'.lookup setting = given' at hvalue ⊢
  cases hvalue with
  | none => rfl
  | some hvalue => rw [hvalue.eq hkey]

theorem rekeyed_refl (values : SettingValues) : Rekeyed values values := by
  intro setting
  cases values.lookup setting with
  | none => exact .none
  | some value => exact .some (.inl rfl)

theorem Rekeyed.cons (h : Rekeyed values values') (hvalue : setting.Rekeyed value value') :
    Rekeyed ((setting, value) :: values) ((setting, value') :: values') := by
  intro sought
  rw [List.lookup_cons, List.lookup_cons]
  by_cases hsought : sought = setting
  · subst hsought
    rw [beq_self_eq_true]
    exact .some hvalue
  · rw [beq_false_of_ne hsought]
    exact h sought

theorem Rekeyed.append {more more' : SettingValues} (h : Rekeyed values values')
    (hmore : Rekeyed more more') : Rekeyed (values ++ more) (values' ++ more') := by
  intro setting
  rw [List.lookup_append, List.lookup_append]
  have hvalue := h setting
  generalize values.lookup setting = given, values'.lookup setting = given' at hvalue ⊢
  cases hvalue with
  | none => exact hmore setting
  | some hvalue => exact .some hvalue

end SettingValues

/-! ## 2. The command line -/

namespace Arguments

/-- Arguments that are the same but for the key. -/
structure SameButKey (arguments arguments' : Arguments) : Prop where
  configPath : arguments.configPath = arguments'.configPath
  values : SettingValues.Rekeyed arguments.values arguments'.values

namespace Progress

/-- Words that have been read as far, with the same left over, but with other keys. -/
structure Rekeyed (progress progress' : Progress) : Prop where
  arguments : progress.arguments.SameButKey progress'.arguments
  leftOver : progress.leftOver = progress'.leftOver
  tookFile : progress.tookFile = progress'.tookFile

variable {progress progress' : Progress}

theorem rekeyed_refl (progress : Progress) : progress.Rekeyed progress :=
  ⟨⟨rfl, SettingValues.rekeyed_refl _⟩, rfl, rfl⟩

theorem Rekeyed.hasFile_eq (h : progress.Rekeyed progress') :
    progress.hasFile = progress'.hasFile := by
  rw [hasFile, hasFile, h.arguments.values.lookup_eq (by decide)]

theorem Rekeyed.leave (h : progress.Rekeyed progress') (t : Text) :
    (progress.leave t).Rekeyed (progress'.leave t) :=
  ⟨h.arguments, congrArg (· ++ [t]) h.leftOver, rfl⟩

theorem Rekeyed.takePlain (h : progress.Rekeyed progress') (t : Text) :
    (progress.takePlain t).Rekeyed (progress'.takePlain t) := by
  unfold Progress.takePlain
  rw [h.hasFile_eq]
  split
  · exact h.leave t
  · exact ⟨⟨h.arguments.configPath, h.arguments.values.cons (.inl rfl)⟩, h.leftOver, rfl⟩

theorem Rekeyed.takeSeparator (h : progress.Rekeyed progress') :
    progress.takeSeparator.Rekeyed progress'.takeSeparator := by
  unfold Progress.takeSeparator
  rw [h.hasFile_eq, h.tookFile]
  split
  · exact ⟨h.arguments, h.leftOver, rfl⟩
  · exact h.leave separator

theorem flagValue_key (name : Text) {key : Text} (h : IsKey key) :
    flagValue name .apiKey key = .ok (.text key) := by
  unfold flagValue
  rw [if_neg h.2]

/-- What a flag takes is the same, unless it is a key. -/
theorem Rekeyed.take (h : progress.Rekeyed progress') (name : Text) {flag : Flag} {t t' : Text}
    (hvalue : t = t' ∨ flag = .setting .apiKey ∧ IsKey t ∧ IsKey t') :
    Alike Rekeyed (progress.take name flag t) (progress'.take name flag t') := by
  unfold Progress.take
  rcases hvalue with rfl | ⟨rfl, hkey, hkey'⟩
  · cases flag with
    | help => exact h
    | config => exact ⟨⟨rfl, h.arguments.values⟩, h.leftOver, rfl⟩
    | setting setting =>
      refine (alike_of_eq rfl).bind ?_
      rintro value _ rfl
      exact ⟨⟨h.arguments.configPath, h.arguments.values.cons (.inl rfl)⟩, h.leftOver, rfl⟩
  · dsimp only
    rw [flagValue_key name hkey, flagValue_key name hkey', ok_bind, ok_bind]
    refine ⟨⟨h.arguments.configPath, h.arguments.values.cons (.inr ⟨rfl, rfl, ?_, ?_⟩)⟩,
      h.leftOver, rfl⟩
    · intro hempty
      cases hempty
      exact hkey.1 rfl
    · intro hempty
      cases hempty
      exact hkey'.1 rfl

end Progress

variable {progress progress' : Progress} {words words' : List Word}

theorem readWords_joined (name t : Text) (flag : Flag) :
    readWords progress (.flag name flag (some t) :: words) =
      (progress.take name flag t).mapError .usage >>= fun next => readWords next words := by
  rw [readWords]
  cases progress.take name flag t <;> rfl

theorem readWords_apart (name t : Text) (flag : Flag) :
    readWords progress (.flag name flag none :: .plain t :: words) =
      (progress.take name flag t).mapError .usage >>= fun next => readWords next words := by
  rw [readWords]
  cases progress.take name flag t <;> rfl

/-- Words with other keys are read as far, or are wrong for the same reason; so they are behind a
flag that takes its value from them. -/
theorem readWords_rekeyed (hwords : Rekeyed words words') :
    (∀ progress progress', progress.Rekeyed progress' →
      Alike Progress.Rekeyed (readWords progress words) (readWords progress' words')) ∧
    ∀ progress progress' name flag, progress.Rekeyed progress' →
      Alike Progress.Rekeyed (readWords progress (.flag name flag none :: words))
        (readWords progress' (.flag name flag none :: words')) := by
  -- A flag may take the next word, so one induction is about the words and about those behind it.
  induction hwords with
  | nil => exact ⟨fun _ _ h => h, fun _ _ _ _ _ => rfl⟩
  | @same word words words' _ ih =>
    obtain ⟨hread, hbehind⟩ := ih
    refine ⟨fun progress progress' h => ?_, fun progress progress' name flag h => ?_⟩
    · cases word with
      | plain t => exact hread _ _ (h.takePlain t)
      | separator => exact hread _ _ h.takeSeparator
      | unknownFlag t => exact hread _ _ (h.leave t)
      | help value => cases value <;> exact rfl
      | flag name flag value =>
        cases value with
        | none => exact hbehind _ _ name flag h
        | some t =>
          rw [readWords_joined, readWords_joined]
          exact ((h.take name (.inl rfl)).mapError _).bind hread
    · cases word with
      | plain t =>
        rw [readWords_apart, readWords_apart]
        exact ((h.take name (.inl rfl)).mapError _).bind hread
      | _ => exact rfl
  | joined name hkey hkey' _ ih =>
    refine ⟨fun progress progress' h => ?_, fun _ _ _ _ _ => rfl⟩
    rw [readWords_joined, readWords_joined]
    exact ((h.take name (.inr ⟨rfl, hkey, hkey'⟩)).mapError _).bind ih.1
  | apart name hkey hkey' _ ih =>
    refine ⟨fun progress progress' h => ?_, fun _ _ _ _ _ => rfl⟩
    rw [readWords_apart, readWords_apart]
    exact ((h.take name (.inr ⟨rfl, hkey, hkey'⟩)).mapError _).bind ih.1

/-- Command lines with other keys are wrong for the same reason, or give the same but for the
key. -/
theorem read_rekeyed {words words' : List Text}
    (h : Alike Rekeyed (classifyAll words) (classifyAll words')) :
    Alike SameButKey (read words) (read words') := by
  unfold read
  cases hwords : classifyAll words with
  | error fault =>
    rw [hwords] at h
    rw [h.eq_error]
    exact rfl
  | ok found =>
    rw [hwords] at h
    obtain ⟨found', hfound', hrekeyed⟩ := h.exists_ok
    rw [hfound']
    dsimp only
    -- Both read the words from the same progress, which is none.
    have hread := (readWords_rekeyed hrekeyed).1 _ _ (Progress.rekeyed_refl {})
    cases hfinal : readWords {} found with
    | error leave =>
      rw [hfinal] at hread
      rw [hread.eq_error]
      exact rfl
    | ok final =>
      rw [hfinal] at hread
      obtain ⟨final', hfinal', hsame⟩ := hread.exists_ok
      rw [hfinal']
      dsimp only
      -- What is left over decides, and it is the same in both.
      rw [hsame.leftOver]
      split
      · exact hsame.arguments
      · exact rfl

theorem rekeyed_refl (words : List Word) : Rekeyed words words := by
  induction words with
  | nil => exact .nil
  | cons word words ih => exact .same word ih

theorem classifyAll_cons {t : Text} {word : Word} (h : classify t = .ok word) (rest : List Text) :
    classifyAll (t :: rest) = classifyAll rest >>= fun words => .ok (word :: words) := by
  have hseparator : t ≠ separator := by
    rintro rfl
    cases h
  rw [classifyAll, if_neg hseparator, h]
  rfl

theorem alike_append {before words words' : List Text} (hbefore : separator ∉ before)
    (h : Alike Rekeyed (classifyAll words) (classifyAll words')) :
    Alike Rekeyed (classifyAll (before ++ words)) (classifyAll (before ++ words')) := by
  induction before with
  | nil => exact h
  | cons t before ih =>
    rw [List.mem_cons, not_or] at hbefore
    obtain ⟨hfirst, hbefore⟩ := hbefore
    rw [List.cons_append, List.cons_append, classifyAll, classifyAll, if_neg (Ne.symm hfirst),
      if_neg (Ne.symm hfirst)]
    refine (alike_of_eq rfl).bind ?_
    rintro word _ rfl
    exact (ih hbefore).bind fun _ _ hwords => .same word hwords

/-- A key that is given before the separator, by one word or by two, may be any text that is no flag
if it is a word of its own. -/
theorem alike_classifyAll {before : List Text} (hbefore : separator ∉ before) (after : List Text)
    {key key' : Text} (hkey : IsKey key) (hkey' : IsKey key') :
    Alike Rekeyed (classifyAll (before ++ (Text.ofString "--api-key=" ++ key) :: after))
        (classifyAll (before ++ (Text.ofString "--api-key=" ++ key') :: after)) ∧
      (classify key = .ok (.plain key) → classify key' = .ok (.plain key') →
        Alike Rekeyed (classifyAll (before ++ Text.ofString "--api-key" :: key :: after))
          (classifyAll (before ++ Text.ofString "--api-key" :: key' :: after))) := by
  have hafter : Alike Rekeyed (classifyAll after) (classifyAll after) := by
    cases classifyAll after with
    | error fault => exact rfl
    | ok words => exact rekeyed_refl words
  have hjoined (key : Text) : classify (Text.ofString "--api-key=" ++ key) =
      .ok (.flag "--api-key" (.setting .apiKey) (some key)) := rfl
  have hflag : classify "--api-key" = .ok (.flag "--api-key" (.setting .apiKey) none) := rfl
  refine ⟨alike_append hbefore ?_, fun hplain hplain' => alike_append hbefore ?_⟩
  · rw [classifyAll_cons (hjoined key), classifyAll_cons (hjoined key')]
    exact hafter.bind fun _ _ hwords => .joined _ hkey hkey' hwords
  · rw [classifyAll_cons hflag, classifyAll_cons hflag, classifyAll_cons hplain,
      classifyAll_cons hplain', bind_assoc, bind_assoc]
    exact hafter.bind fun _ _ hwords => .apart _ hkey hkey' hwords

end Arguments

/-! ## 3. The file -/

/-- The key that a file gives is neither a text nor null. -/
def ConfigFile.GivesForeignKey (file : ConfigFile) (value : Yaml.Value) : Prop :=
  value.IsForeign ∧
    ∃ item, (.text Setting.apiKey.name, item) ∈ file.pairs ∧ file.document.value item = value

/-- The settings in a file are refused for its key. -/
structure ConfigFile.RefusesKey (file : ConfigFile) (value : Yaml.Value) : Prop where
  given : file.GivesForeignKey value
  result : file.values.result = .error (Setting.apiKey.refuse value)

variable {document document' : Yaml.Document} {pairs pairs' : List (Yaml.Scalar × Yaml.Item)}

theorem ConfigFile.RefusesKey.cons {entry : Yaml.Scalar × Yaml.Item}
    (h : ConfigFile.RefusesKey ⟨document, pairs⟩ value)
    (hsound : entryFault? document entry = none) :
    ConfigFile.RefusesKey ⟨document, entry :: pairs⟩ value := by
  obtain ⟨⟨hforeign, item, hmem, hvalue⟩, hresult⟩ := h
  refine ⟨⟨hforeign, item, List.mem_cons_of_mem _ hmem, hvalue⟩, ?_⟩
  apply settingValues_eq_error_iff.2
  rw [List.findSome?_cons, hsound]
  exact settingValues_eq_error_iff.1 hresult

theorem ConfigFile.refusesKey_head {item : Yaml.Item}
    (h : Setting.apiKey.accepts (document.value item) = false) :
    ConfigFile.RefusesKey ⟨document, (.text Setting.apiKey.name, item) :: pairs⟩
      (document.value item) := by
  refine ⟨⟨(isForeign_of_not_accepts h).2, item, List.mem_cons_self, rfl⟩, ?_⟩
  show (settingValues document _).result = _
  rw [settingValues_of_setting (ofKey?_eq_some_iff.2 rfl), h, if_neg Bool.false_ne_true]

/-- Files with other keys give the same values but for the key, or have the same fault, or are both
refused for their keys. -/
theorem result_rekeyed (h : ConfigFile.Rekeyed ⟨document, pairs⟩ ⟨document', pairs'⟩) :
    Alike SettingValues.Rekeyed (settingValues document pairs).result
        (settingValues document' pairs').result ∨
      ∃ value value', value.kind = value'.kind ∧
        ConfigFile.RefusesKey ⟨document, pairs⟩ value ∧
        ConfigFile.RefusesKey ⟨document', pairs'⟩ value' := by
  have hpairs : List.Forall₂ _ pairs pairs' := h
  clear h
  induction hpairs with
  | nil => exact .inl (SettingValues.rekeyed_refl [])
  | @cons entry entry' pairs pairs' hentry _ ih =>
    obtain ⟨key, item⟩ := entry
    obtain ⟨key', item'⟩ := entry'
    obtain ⟨rfl, hvalue⟩ : key = key' ∧ ∀ setting : Setting, key = .text setting.name →
      setting.Rekeyed (document.value item) (document'.value item') := hentry
    cases hkey : Setting.ofKey? key with
    | none =>
      have hsound (document : Yaml.Document) (item : Yaml.Item) :
          entryFault? document (key, item) = none := by
        rw [entryFault?, hkey]
      rw [settingValues_of_ignored hkey, settingValues_of_ignored hkey]
      refine ih.imp id ?_
      rintro ⟨value, value', hkind, hrefuses, hrefuses'⟩
      exact ⟨value, value', hkind, hrefuses.cons (hsound _ _), hrefuses'.cons (hsound _ _)⟩
    | some setting =>
      have hname := ofKey?_eq_some_iff.1 hkey
      have hrekeyed := hvalue setting hname
      have haccepts := hrekeyed.accepts_eq
      rw [settingValues_of_setting hkey, settingValues_of_setting hkey]
      by_cases hsound : setting.accepts (document.value item) = true
      · rw [if_pos hsound, if_pos (haccepts ▸ hsound)]
        rcases ih with ih | ⟨value, value', hkind, hrefuses, hrefuses'⟩
        · exact .inl (ih.map fun _ _ hvalues => hvalues.cons hrekeyed)
        · refine .inr ⟨value, value', hkind, hrefuses.cons ?_, hrefuses'.cons ?_⟩
          · rw [entryFault?, hkey]
            exact if_pos hsound
          · rw [entryFault?, hkey]
            exact if_pos (haccepts ▸ hsound)
      · rw [if_neg hsound, if_neg (haccepts ▸ hsound)]
        -- The reading ends here, and only what is shown of a key can differ.
        rcases hrekeyed with hsame | ⟨rfl, hkind, -⟩
        · exact .inl (congrArg _ hsame)
        · rw [Bool.not_eq_true] at hsound
          subst hname
          exact .inr ⟨_, _, hkind, ConfigFile.refusesKey_head hsound,
            ConfigFile.refusesKey_head (haccepts ▸ hsound)⟩

/-- Keys that name no setting are reported as far as the file is read. -/
theorem notices_rekeyed (h : ConfigFile.Rekeyed ⟨document, pairs⟩ ⟨document', pairs'⟩) :
    (settingValues document pairs).notices = (settingValues document' pairs').notices := by
  have hpairs : List.Forall₂ _ pairs pairs' := h
  clear h
  induction hpairs with
  | nil => rfl
  | @cons entry entry' pairs pairs' hentry _ ih =>
    obtain ⟨key, item⟩ := entry
    obtain ⟨key', item'⟩ := entry'
    obtain ⟨rfl, hvalue⟩ : key = key' ∧ ∀ setting : Setting, key = .text setting.name →
      setting.Rekeyed (document.value item) (document'.value item') := hentry
    rw [settingValues, settingValues]
    -- A key without a setting is shown, and its value is not.  With a setting only the kind
    -- counts.
    cases hkey : Setting.ofKey? key with
    | none => exact congrArg ((ignoredNotice? key).toList ++ ·) ih
    | some setting =>
      dsimp only
      rw [(hvalue setting (ofKey?_eq_some_iff.1 hkey)).accepts_eq]
      split
      · rfl
      · exact ih

/-! ## 4. The settings -/

namespace Config

/-- Settings that are the same but for the key. -/
def SameButKey (config config' : Config) : Prop :=
  ∃ key, config' = { config with apiKey := key }

/-- Keys of one kind are both given or both not. -/
theorem isEmpty_rekeyed (h : SettingValues.Rekeyed values values') :
    ((text? values .apiKey).getD []).isEmpty = ((text? values' .apiKey).getD []).isEmpty := by
  rw [Bool.eq_iff_iff, List.isEmpty_iff, List.isEmpty_iff, ← not_iff_not, ← ne_eq, ← ne_eq,
    getD_text?_ne_nil_iff, getD_text?_ne_nil_iff]
  have hkey := h .apiKey
  generalize values.lookup .apiKey = given, values'.lookup .apiKey = given' at hkey ⊢
  cases hkey with
  | none => rfl
  | @some value value' hvalue =>
    rcases hvalue with rfl | ⟨-, hkind, hgiven, hgiven'⟩
    · rfl
    · have htext {value : Yaml.Value} (hgiven : value ≠ .text []) :
          (∃ t, some value = some (.text t) ∧ t ≠ []) ↔ value.kind = "str" := by
        rw [Yaml.Value.kind_eq_str_iff]
        constructor
        · rintro ⟨t, ht, -⟩
          exact ⟨t, Option.some.inj ht⟩
        · rintro ⟨t, rfl⟩
          exact ⟨t, rfl, fun hempty => hgiven (congrArg _ hempty)⟩
      rw [htext hgiven, htext hgiven', hkind]

/-- Values that are the same but for the key make settings that are the same but for the key, or are
wrong for the same reason. -/
theorem ofValues_rekeyed (h : SettingValues.Rekeyed values values') :
    Alike SameButKey (ofValues values) (ofValues values') := by
  have hnumber {α : Type} (convert : Yaml.Value → Conversion α) {setting : Setting} (default : α)
      (hkey : setting ≠ .apiKey) :
      numberOr convert values setting default = numberOr convert values' setting default := by
    rw [numberOr, numberOr, h.lookup_eq hkey]
  have hgiven (setting : Setting) (default : Json) (hkey : setting ≠ .apiKey) :
      givenOr values setting default = givenOr values' setting default := by
    rw [givenOr, givenOr, h.lookup_eq hkey]
  have htext : text? values .inputFile = text? values' .inputFile := by
    rw [text?, text?, hgiven .inputFile _ (by decide)]
  unfold ofValues
  dsimp only
  -- The key is looked at behind both numbers, and nothing but whether it is given.
  refine (alike_of_eq (hnumber _ _ (by decide))).bind ?_
  rintro batchSize _ rfl
  refine (alike_of_eq (hnumber _ _ (by decide))).bind ?_
  rintro requestTimeout _ rfl
  rw [isEmpty_rekeyed h]
  split
  · exact rfl
  · split
    · exact rfl
    · rw [htext, hgiven .url _ (by decide), hgiven .messageField _ (by decide),
        hgiven .serverHostField _ (by decide), hgiven .logfileField _ (by decide),
        hgiven .parserField _ (by decide)]
      exact ⟨_, rfl⟩

/-! ## 5. Loading -/

variable {arguments arguments' : Arguments} {environment environment' : Environment}
  {openFile openFile' : Text → Except OpenFault Bytes}

/-- The file of settings gives a key that is neither a text nor null. -/
def GivesForeignKey (openFile : Text → Except OpenFault Bytes) (path : Option Text)
    (value : Yaml.Value) : Prop :=
  ∃ file, (ConfigFile.load openFile path).result = .ok file ∧ file.GivesForeignKey value

theorem load_of_file {file : ConfigFile} {notices : List Notice}
    (h : ConfigFile.load openFile arguments.configPath = ⟨.ok file, notices⟩) :
    load arguments environment openFile =
      ⟨file.values.result >>= fun values => ofValues (mergeSources arguments environment values),
        notices ++ file.values.notices⟩ := by
  unfold load
  rw [h]
  rfl

/-- With other keys the same is reported, and the settings are the same but for the key or are wrong
for the same reason; or else the two keys in the files are refused. -/
theorem load_rekeyed (harguments : arguments.SameButKey arguments')
    (henvironment : SettingValues.Rekeyed (environmentValues environment)
      (environmentValues environment'))
    (hfile : Loaded.Alike ConfigFile.Rekeyed (ConfigFile.load openFile arguments.configPath)
      (ConfigFile.load openFile' arguments.configPath)) :
    let loaded := load arguments environment openFile
    let loaded' := load arguments' environment' openFile'
    loaded.notices = loaded'.notices ∧
      (Alike SameButKey loaded.result loaded'.result ∨
        ∃ value value', value.kind = value'.kind ∧
          GivesForeignKey openFile arguments.configPath value ∧
          GivesForeignKey openFile' arguments'.configPath value' ∧
          loaded.result = .error (Setting.apiKey.refuse value) ∧
          loaded'.result = .error (Setting.apiKey.refuse value')) := by
  intro loaded loaded'
  have hpath := harguments.configPath
  obtain ⟨hresult, hnotices⟩ := hfile
  -- Both runs open the files at one path.
  cases hopened : ConfigFile.load openFile arguments.configPath with
  | mk result notices =>
  cases hopened' : ConfigFile.load openFile' arguments'.configPath with
  | mk result' notices' =>
  rw [hopened, hpath, hopened'] at hresult hnotices
  obtain rfl : notices = notices' := hnotices
  cases result with
  | error fault =>
    obtain rfl := hresult.eq_error
    have hloaded : loaded = ⟨.error fault, notices⟩ := by
      show load arguments environment openFile = _
      unfold load
      rw [hopened]
    have hloaded' : loaded' = ⟨.error fault, notices⟩ := by
      show load arguments' environment' openFile' = _
      unfold load
      rw [hopened']
    rw [hloaded, hloaded']
    exact ⟨rfl, .inl rfl⟩
  | ok file =>
    obtain ⟨file', rfl, hrekeyed⟩ := hresult.exists_ok
    have hloaded : loaded = _ := load_of_file hopened
    have hloaded' : loaded' = _ := load_of_file hopened'
    rw [hloaded, hloaded']
    refine ⟨congrArg (notices ++ ·) (notices_rekeyed hrekeyed), ?_⟩
    rcases result_rekeyed hrekeyed with hvalues | ⟨value, value', hkind, hrefuses, hrefuses'⟩
    · refine .inl (hvalues.bind fun values values' hvalues => ofValues_rekeyed ?_)
      exact (harguments.values.append henvironment).append hvalues
    · refine .inr ⟨value, value', hkind, ⟨file, by rw [hopened], hrefuses.given⟩,
        ⟨file', by rw [hopened'], hrefuses'.given⟩, ?_, ?_⟩
      · rw [hrefuses.result]
        rfl
      · rw [hrefuses'.result]
        rfl

/-- Keys of one kind are refused with one message exactly if they are shown alike. -/
theorem message_notText_eq_iff (hkind : value.kind = value'.kind) :
    (ConfigFault.notText setting value).message = (ConfigFault.notText setting value').message ↔
      value.literal = value'.literal := by
  rw [ConfigFault.message, ConfigFault.message, hkind]
  simp only [List.append_cancel_left_eq, List.append_cancel_right_eq]

theorem run_of_invalid {situation : Situation} {cause : ConfigFault}
    (hread : Arguments.read situation.words = .ok arguments)
    (hcause : (load arguments situation.environment situation.openFile).result =
      .error (.config cause)) (services : Services) :
    run situation services =
      (.exit 2, ((load arguments situation.environment situation.openFile).notices.foldl
        Services.report services).report (.settingsInvalid cause.message)) := by
  unfold run
  rw [hread]
  dsimp only
  rw [hcause]

/-- What is wrong with the settings does not depend on the key.  With other keys, of the same kinds,
the command line is read as before.  Unless the key in the file is neither a text nor null, the
settings are the same but for the key, or are wrong for the same reason.  In any case, if both runs
end because the settings are wrong, they end alike but for the last message; and the two messages
are the same, unless they show the keys in the two files, which are neither texts nor null. -/
theorem load_conceals {situation situation' : Situation} (h : situation.Rekeyed situation')
    (hread : Arguments.read situation.words = .ok arguments) :
    ∃ arguments', Arguments.read situation'.words = .ok arguments' ∧
      let loaded := load arguments situation.environment situation.openFile
      let loaded' := load arguments' situation'.environment situation'.openFile
      ((∀ value, ¬ GivesForeignKey situation.openFile arguments.configPath value) →
        loaded.Alike SameButKey loaded') ∧
      ∀ cause cause', loaded.result = .error (.config cause) →
        loaded'.result = .error (.config cause') →
        (cause = cause' ∨
          ∃ value value', GivesForeignKey situation.openFile arguments.configPath value ∧
            GivesForeignKey situation'.openFile arguments'.configPath value' ∧
            cause = .notText .apiKey value ∧ cause' = .notText .apiKey value' ∧
            (cause.message = cause'.message ↔ value.literal = value'.literal)) ∧
        ∀ services : Services,
          let reported := loaded.notices.foldl Services.report services
          run situation services = (.exit 2, reported.report (.settingsInvalid cause.message)) ∧
          run situation' services =
            (.exit 2, reported.report (.settingsInvalid cause'.message)) := by
  have hsame := Arguments.read_rekeyed h.words
  rw [hread] at hsame
  obtain ⟨arguments', hread', harguments⟩ := hsame.exists_ok
  refine ⟨arguments', hread', ?_⟩
  intro loaded loaded'
  obtain ⟨hnotices, hresult⟩ := load_rekeyed harguments h.environment (h.file arguments hread)
  refine ⟨fun hforeign => ?_, fun cause cause' hcause hcause' => ⟨?_, fun services => ⟨?_, ?_⟩⟩⟩
  · rcases hresult with halike | ⟨value, -, -, hvalue, -⟩
    · exact ⟨halike, hnotices⟩
    · exact absurd hvalue (hforeign value)
  · rcases hresult with halike | ⟨value, value', hkind, hvalue, hvalue', hrefused, hrefused'⟩
    · rw [show (load arguments situation.environment situation.openFile).result = _ from hcause,
        show (load arguments' situation'.environment situation'.openFile).result = _ from hcause']
        at halike
      exact .inl (LoadFault.config.inj halike)
    · -- Both files give the key as a value that is no text, and each message shows its own value.
      have hcause := Except.error.inj (hrefused.symm.trans hcause)
      have hcause' := Except.error.inj (hrefused'.symm.trans hcause')
      obtain rfl := Setting.eq_notText_of_refuse hcause
      obtain rfl := Setting.eq_notText_of_refuse hcause'
      exact .inr ⟨value, value', hvalue, hvalue', rfl, rfl, message_notText_eq_iff hkind⟩
  · exact run_of_invalid hread hcause services
  · have hrun := run_of_invalid hread' hcause' services
    rwa [← hnotices] at hrun

/-- A run with a file of settings, a key on the command line and a key in the environment. -/
def keyedSituation (file : String) (flagKey variableKey : Text) : Situation :=
  ⟨(["--config", "c.yaml"] : List Text) ++ [Text.ofString "--api-key=" ++ flagKey],
    [("ADDEVENTS_API_KEY", variableKey)], sampleFile file, []⟩

theorem ofValues_of_zero {key : Text} (hsize : values.lookup .batchSize = some (.int 0))
    (htimeout : values.lookup .requestTimeout = none)
    (hkey : values.lookup .apiKey = some (.text key)) (hgiven : key ≠ []) :
    ofValues values = .error (.config (.notPositive 0)) := by
  have hnumber : numberOr Yaml.Value.toInteger values .batchSize 100 = .ok 0 := by
    rw [numberOr, hsize]
    rfl
  have hunlimited : numberOr Yaml.Value.toReal? values .requestTimeout none = .ok none := by
    rw [numberOr, htimeout]
  have hshort : Integer.isOversized 0 = false := by decide +kernel
  have hfault := ((ofValues_of_numbers hnumber hunlimited).2
    (getD_text?_ne_nil_iff.2 ⟨key, hkey, hgiven⟩)).1 (Int.le_refl 0)
  rwa [hshort] at hfault

/-- With other keys in all three sources a run that is refused for its batch size ends alike. -/
theorem sample_conceals :
    let situation := keyedSituation "api_key: a\nbatch_size: 0\n" "b" "c"
    let situation' := keyedSituation "api_key: x\nbatch_size: 0\n" "y" "z"
    run situation idleServices = run situation' idleServices ∧
      (run situation idleServices).1 = .exit 2 := by
  intro situation situation'
  have hread : Arguments.read situation.words = .ok ⟨some "c.yaml", [(.apiKey, .text "b")]⟩ := by
    rfl
  have hfile : (ConfigFile.load situation.openFile (some "c.yaml")).result =
      .ok (flatFile [("api_key", .text "a"), ("batch_size", .int 0)]) :=
    eq_ok_of_parts (by decide +kernel)
  have hfile' : (ConfigFile.load situation'.openFile (some "c.yaml")).result =
      .ok (flatFile [("api_key", .text "x"), ("batch_size", .int 0)]) :=
    eq_ok_of_parts (by decide +kernel)
  have hrekeyed : situation.Rekeyed situation' := by
    refine ⟨?_, fun setting => ?_, fun arguments harguments => ?_⟩
    · have hbefore : Arguments.separator ∉ (["--config", "c.yaml"] : List Text) := by decide
      have hkey : Arguments.IsKey "b" := ⟨by decide, by decide⟩
      have hkey' : Arguments.IsKey "y" := ⟨by decide, by decide⟩
      exact (Arguments.alike_classifyAll hbefore [] hkey hkey').1
    · cases setting with
      | apiKey => exact .some (.inr ⟨rfl, rfl, nofun, nofun⟩)
      | _ => exact .none
    · obtain rfl := Except.ok.inj (hread.symm.trans harguments)
      refine ⟨?_, by decide +kernel⟩
      rw [hfile, hfile']
      refine .cons ⟨rfl, fun setting hname => ?_⟩ (.cons ⟨rfl, fun _ _ => .inl rfl⟩ .nil)
      obtain rfl : Setting.apiKey = setting := by
        revert hname
        cases setting <;> decide
      exact .inr ⟨rfl, rfl, nofun, nofun⟩
  obtain ⟨arguments', hread', halike, hends⟩ := load_conceals hrekeyed hread
  have htext : ∀ value, ¬ GivesForeignKey situation.openFile (some "c.yaml") value := by
    rintro value ⟨file, hfound, hforeign, item, hmem, rfl⟩
    obtain rfl := Except.ok.inj (hfile.symm.trans hfound)
    rcases List.mem_cons.1 hmem with hkey | hmem
    · cases hkey
      exact hforeign.2 "a" rfl
    · cases List.mem_singleton.1 hmem
  have hcause : (load ⟨some "c.yaml", [(.apiKey, .text "b")]⟩ situation.environment
      situation.openFile).result = .error (.config (.notPositive 0)) := by
    rw [result_load hfile]
    exact ofValues_of_zero rfl rfl rfl (by decide)
  have hresult := (halike htext).result
  rw [hcause] at hresult
  obtain ⟨-, hruns⟩ := hends _ _ hcause hresult.eq_error
  obtain ⟨hrun, hrun'⟩ := hruns idleServices
  exact ⟨hrun.trans hrun'.symm, congrArg Prod.fst hrun⟩

/-- A key in the file that is a number is shown.  On the command line the separator is no key, and
what is wrong is another thing than with a key. -/
theorem sample_shown :
    (∃ cause cause',
      (load fileArguments [] (sampleFile "api_key: 1\n")).result = .error (.config cause) ∧
      (load fileArguments [] (sampleFile "api_key: 2\n")).result = .error (.config cause') ∧
      cause.message =
        "Config key 'api_key' must be a string, got int 1; quote the value in the YAML file" ∧
      cause'.message =
        "Config key 'api_key' must be a string, got int 2; quote the value in the YAML file") ∧
    ∃ arguments arguments' cause cause',
      Arguments.read ["--batch-size", "0", "--api-key=--"] = .ok arguments ∧
      Arguments.read ["--batch-size", "0", "--api-key=k"] = .ok arguments' ∧
      (load arguments [] (sampleFile "")).result = .error (.config cause) ∧
      (load arguments' [] (sampleFile "")).result = .error (.config cause') ∧
      cause.message = "An api key is required (--api-key or ADDEVENTS_API_KEY)" ∧
      cause'.message = "batch_size must be positive, got 0" := by
  have hfirst : (ConfigFile.load (sampleFile "api_key: 1\n") fileArguments.configPath).result =
      .ok (flatFile [("api_key", .int 1)]) := eq_ok_of_parts (by decide +kernel)
  have hsecond : (ConfigFile.load (sampleFile "api_key: 2\n") fileArguments.configPath).result =
      .ok (flatFile [("api_key", .int 2)]) := eq_ok_of_parts (by decide +kernel)
  have hrefused (n : Int) (hshown : (Yaml.Value.int n).showFault? Yaml.maxShownDepth = none) :
      (flatFile [("api_key", .int n)]).values.result =
        .error (.config (.notText .apiKey (.int n))) := by
    have hrefuses : (flatFile [("api_key", .int n)]).RefusesKey (.int n) :=
      ConfigFile.refusesKey_head rfl
    rw [hrefuses.result, Setting.refuse, hshown]
  refine ⟨⟨.notText .apiKey (.int 1), .notText .apiKey (.int 2), ?_, ?_, ?_, ?_⟩,
    ⟨none, [(.apiKey, .list []), (.batchSize, .int 0)]⟩,
    ⟨none, [(.apiKey, .text "k"), (.batchSize, .int 0)]⟩, .keyMissing, .notPositive 0,
    by rfl, by rfl, by rfl, ?_, by decide +kernel, by decide +kernel⟩
  · rw [result_load hfirst, hrefused 1 (by decide +kernel)]
    rfl
  · rw [result_load hsecond, hrefused 2 (by decide +kernel)]
    rfl
  · decide +kernel
  · decide +kernel
  · show ofValues [(.apiKey, .text "k"), (.batchSize, .int 0)] = _
    exact ofValues_of_zero rfl rfl rfl (by decide)

end Config

end LogShipper
