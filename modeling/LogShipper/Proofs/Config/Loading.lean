import LogShipper.Config.Loading
import LogShipper.Proofs.Except

/-!
# Settings that were loaded

Whatever the sources of the settings are, the settings of a run hold an api key and a positive batch
size, and all that is reported while they are loaded is about settings.
-/

namespace LogShipper.Config

/-! ## 1. What settings hold -/

theorem usable_of_ofValues {values : SettingValues} {config : Config}
    (h : ofValues values = .ok config) : config.apiKey ≠ [] ∧ 0 < config.batchSize := by
  obtain ⟨batchSize, -, h⟩ := bind_eq_ok_iff.1 h
  obtain ⟨requestTimeout, -, h⟩ := bind_eq_ok_iff.1 h
  -- Behind both numbers come the two checks, of the key and of the batch size.
  dsimp only at h
  split at h
  · cases h
  · rename_i hkey
    split at h
    · cases h
    · rename_i hsize
      obtain rfl := Except.ok.inj h
      exact ⟨fun hempty => hkey (List.isEmpty_iff.2 hempty), Int.not_le.1 hsize⟩

/-- Settings are loaded only with an api key and a positive batch size. -/
theorem usable_of_load {arguments : Arguments} {environment : Environment}
    {openFile : Text → Except OpenFault Bytes} {config : Config}
    (h : (load arguments environment openFile).result = .ok config) :
    config.apiKey ≠ [] ∧ 0 < config.batchSize := by
  unfold load at h
  dsimp only at h
  split at h
  · cases h
  · obtain ⟨values, -, hvalues⟩ := bind_eq_ok_iff.1 h
    exact usable_of_ofValues hvalues

/-! ## 2. Notices -/

variable {notice : Notice}

theorem channel_of_ignored {key : Yaml.Scalar} (h : ignoredNotice? key = some notice) :
    notice.channel = .settings := by
  unfold ignoredNotice? at h
  split at h
  · cases h
  · obtain rfl := Option.some.inj h
    rfl

theorem channel_of_settingValues {document : Yaml.Document}
    {pairs : List (Yaml.Scalar × Yaml.Item)}
    (h : notice ∈ (settingValues document pairs).notices) : notice.channel = .settings := by
  induction pairs with
  | nil => cases h
  | cons pair rest ih =>
    obtain ⟨key, item⟩ := pair
    rw [settingValues] at h
    split at h
    · -- An ignored key is reported before all that is found behind it.
      rcases List.mem_append.1 h with h | h
      · exact channel_of_ignored (Option.mem_toList.1 h)
      · exact ih h
    · dsimp only at h
      split at h
      · cases h
      · exact ih h

theorem channel_of_file {openFile : Text → Except OpenFault Bytes} {path : Option Text}
    (h : notice ∈ (ConfigFile.load openFile path).notices) : notice.channel = .settings := by
  unfold ConfigFile.load at h
  split at h
  · cases h
  · cases h
  · split at h
    · rw [List.mem_singleton.1 h]
      rfl
    · cases h
    · split at h
      · cases h
      · rw [List.mem_singleton.1 h]
        rfl

/-- All that is reported while settings are loaded is about settings. -/
theorem channel_of_load {arguments : Arguments} {environment : Environment}
    {openFile : Text → Except OpenFault Bytes}
    (h : notice ∈ (load arguments environment openFile).notices) : notice.channel = .settings := by
  unfold load at h
  dsimp only at h
  split at h
  · exact channel_of_file h
  · rcases List.mem_append.1 h with h | h
    · exact channel_of_file h
    · exact channel_of_settingValues h

end LogShipper.Config
