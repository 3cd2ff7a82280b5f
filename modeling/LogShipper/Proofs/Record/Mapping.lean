import LogShipper.Proofs.Json.LongIntegers
import LogShipper.Record.Line

/-!
# Records that make events

A record that was read from a line always makes an event, as long as the names of its fields are
texts: its value is an object, and every integer in it can be shown.
-/

namespace LogShipper

/-! ## 1. Fields -/

namespace Json

theorem not_text_or_text (value : Json) : (∀ t, value ≠ text t) ∨ ∃ t, value = text t := by
  cases value with
  | text t => exact .inr ⟨t, rfl⟩
  | _ => exact .inl nofun

theorem exists_mem_of_member? {name : Text} {members : List (Text × Json)} {value : Json}
    (h : member? name members = some value) : ∃ m ∈ members, m.2 = value := by
  induction members with
  | nil => cases h
  | cons m members ih =>
    rw [member?] at h
    split at h
    · exact ⟨m, List.mem_cons_self, Option.some.inj h⟩
    · obtain ⟨m', hm, hv⟩ := ih h
      exact ⟨m', List.mem_cons_of_mem _ hm, hv⟩

theorem hasOversized_of_member? {name : Text} {members : List (Text × Json)} {value : Json}
    (hmembers : (object members).hasOversized = false) (h : member? name members = some value) :
    value.hasOversized = false := by
  obtain ⟨m, hm, rfl⟩ := exists_mem_of_member? h
  exact anyMemberOversized_eq_false_iff.1 hmembers m hm

theorem hasOversized_of_atPath? {path : List Text} {value found : Json}
    (hvalue : value.hasOversized = false) (h : atPath? path value = some found) :
    found.hasOversized = false := by
  induction path generalizing value with
  | nil =>
    rw [atPath?] at h
    rwa [← Option.some.inj h]
  | cons name path ih =>
    cases value with
    | object members =>
      rw [atPath?] at h
      split at h
      · rename_i next hnext
        exact ih (hasOversized_of_member? hvalue hnext) h
      · cases h
    | _ =>
      rw [atPath?] at h
      · cases h
      · exact nofun

theorem hasOversized_field {members : List (Text × Json)}
    (h : (object members).hasOversized = false) (name : Text) :
    (field name members).hasOversized = false := by
  unfold field
  split
  · rename_i value hvalue
    exact hasOversized_of_member? h hvalue
  · cases hpath : atPath? (Text.splitOn '.' name) (object members) with
    | none => rfl
    | some found => exact hasOversized_of_atPath? h hpath

end Json

/-! ## 2. Events -/

/-- Names of fields that are texts. -/
def FieldNames.AreTexts (fields : FieldNames) : Prop :=
  ∃ message serverHost logfile parser,
    fields = ⟨.text message, .text serverHost, .text logfile, .text parser⟩

namespace Record

/-- A record whose value is an object with integers that can be shown. -/
def IsSound (record : Record) : Prop :=
  record.value.hasOversized = false ∧ ∃ members, record.value = .object members

/-- A record whose value is an object. -/
def IsObject (record : Record) : Prop :=
  ∃ members, record.value = .object members

theorem exists_fieldText? {members : List (Text × Json)}
    (h : (Json.object members).hasOversized = false) (name : Text) :
    ∃ t, fieldText? members (.text name) = .ok t := by
  have hfield := Json.hasOversized_field h name
  have htext : ∃ t, (Json.field name members).fieldText? = .ok t := by
    unfold Json.fieldText?
    split
    · exact ⟨_, rfl⟩
    · rw [hfield]
      exact ⟨_, rfl⟩
  obtain ⟨t, ht⟩ := htext
  exact ⟨t, by rw [fieldText?, ht]⟩

theorem exists_toEvent {fields : FieldNames} (hfields : fields.AreTexts) (now : Int)
    {record : Record} (h : record.IsSound) : ∃ event, toEvent fields now record = .ok event := by
  -- The fields are looked up in this order; none can fail.
  obtain ⟨message, serverHost, logfile, parser, rfl⟩ := hfields
  obtain ⟨hsize, members, hvalue⟩ := h
  rw [hvalue] at hsize
  obtain ⟨t₁, h₁⟩ := exists_fieldText? hsize message
  obtain ⟨t₂, h₂⟩ := exists_fieldText? hsize logfile
  obtain ⟨t₃, h₃⟩ := exists_fieldText? hsize serverHost
  obtain ⟨t₄, h₄⟩ := exists_fieldText? hsize parser
  rw [toEvent, hvalue]
  simp only [h₁, h₂, h₃, h₄]
  exact ⟨_, rfl⟩

/-- What is no text is no name of a field. -/
theorem fieldText?_of_not_text (members : List (Text × Json)) {name : Json}
    (h : ∀ t, name ≠ .text t) : fieldText? members name = .error (.notName name) := by
  cases name with
  | text t => exact absurd rfl (h t)
  | _ => rfl

/-- A sound record makes no event if the name of a field is no text, and the first such name is the
fault. -/
theorem toEvent_of_not_areTexts {fields : FieldNames} (hfields : ¬ fields.AreTexts) (now : Int)
    {record : Record} (h : record.IsSound) :
    ∃ name ∈ [fields.message, fields.logfile, fields.serverHost, fields.parser],
      (∀ t, name ≠ .text t) ∧ toEvent fields now record = .error (.notName name) := by
  obtain ⟨hsize, members, hvalue⟩ := h
  rw [hvalue] at hsize
  obtain ⟨message, serverHost, logfile, parser⟩ := fields
  rw [toEvent, hvalue]
  -- The names are tried in this order; before the first that is no text every field is found.
  rcases Json.not_text_or_text message with hname | ⟨message, rfl⟩
  · refine ⟨message, by simp, hname, ?_⟩
    simp only [fieldText?_of_not_text members hname]
    rfl
  obtain ⟨t₁, ht₁⟩ := exists_fieldText? hsize message
  rcases Json.not_text_or_text logfile with hname | ⟨logfile, rfl⟩
  · refine ⟨logfile, by simp, hname, ?_⟩
    simp only [ht₁, fieldText?_of_not_text members hname]
    rfl
  obtain ⟨t₂, ht₂⟩ := exists_fieldText? hsize logfile
  rcases Json.not_text_or_text serverHost with hname | ⟨serverHost, rfl⟩
  · refine ⟨serverHost, by simp, hname, ?_⟩
    simp only [ht₁, ht₂, fieldText?_of_not_text members hname]
    rfl
  obtain ⟨t₃, ht₃⟩ := exists_fieldText? hsize serverHost
  have hname : ∀ t, parser ≠ .text t := by
    rintro t rfl
    exact hfields ⟨_, _, _, _, rfl⟩
  refine ⟨parser, by simp, hname, ?_⟩
  simp only [ht₁, ht₂, ht₃, fieldText?_of_not_text members hname]
  rfl

/-- The events of records are made one by one; what the rest makes is made at a later time. -/
theorem toEvents_cons (fields : FieldNames) (time : TimeOfDay) (record : Record)
    (records : List Record) :
    (toEvents fields time (record :: records)).1 =
      (toEvent fields (record.readTime time).1 record >>= fun event =>
        (toEvents fields (record.readTime time).2 records).1.map (event :: ·)) := by
  rw [toEvents]
  dsimp only
  cases toEvent fields (record.readTime time).1 record <;> rfl

theorem exists_toEvents {fields : FieldNames} (hfields : fields.AreTexts) (time : TimeOfDay)
    {records : List Record} (h : ∀ record ∈ records, record.IsSound) :
    ∃ events, (toEvents fields time records).1 = .ok events := by
  induction records generalizing time with
  | nil => exact ⟨[], rfl⟩
  | cons record records ih =>
    rw [List.forall_mem_cons] at h
    obtain ⟨event, hevent⟩ := exists_toEvent hfields (record.readTime time).1 h.1
    obtain ⟨events, hevents⟩ := ih (record.readTime time).2 h.2
    rw [toEvents_cons, hevent, ok_bind, hevents]
    exact ⟨event :: events, rfl⟩

/-- The time of day when it has been read for records. -/
def timeAfter (time : TimeOfDay) (records : List Record) : TimeOfDay :=
  records.foldl (fun time record => (record.readTime time).2) time

theorem timeAfter_append (time : TimeOfDay) (records later : List Record) :
    timeAfter time (records ++ later) = timeAfter (timeAfter time records) later :=
  List.foldl_append

theorem time_of_toEvents {fields : FieldNames} {time : TimeOfDay} {records : List Record}
    {events : List Event} (h : (toEvents fields time records).1 = .ok events) :
    (toEvents fields time records).2 = timeAfter time records := by
  induction records generalizing time events with
  | nil => rfl
  | cons record records ih =>
    rw [toEvents_cons] at h
    obtain ⟨event, hevent, h⟩ := bind_eq_ok_iff.1 h
    obtain ⟨rest, hrest, rfl⟩ := map_eq_ok_iff.1 h
    rw [toEvents]
    dsimp only
    rw [hevent]
    exact ih hrest

/-- Each event is the one that its record makes at some time. -/
theorem forall₂_of_toEvents {fields : FieldNames} {time : TimeOfDay} {records : List Record}
    {events : List Event} (h : (toEvents fields time records).1 = .ok events) :
    List.Forall₂ (fun record event => ∃ now, toEvent fields now record = .ok event)
      records events := by
  induction records generalizing time events with
  | nil =>
    obtain rfl := Except.ok.inj h
    exact .nil
  | cons record records ih =>
    rw [toEvents_cons] at h
    obtain ⟨event, hevent, h⟩ := bind_eq_ok_iff.1 h
    obtain ⟨rest, hrest, rfl⟩ := map_eq_ok_iff.1 h
    exact .cons ⟨_, hevent⟩ (ih hrest)

theorem toEvent_of_not_isObject {record : Record} (h : ¬ record.IsObject) (fields : FieldNames)
    (now : Int) : toEvent fields now record = .error (.notObject record) := by
  unfold toEvent
  split
  · rename_i members hvalue
    exact absurd ⟨members, hvalue⟩ h
  · rfl

/-- A record whose fault shows its place: its topic, its partition and its offset. -/
def IsNamed (record : Record) : Prop :=
  Integer.isOversized record.partition = false → Integer.isOversized record.offset = false →
    (MappingFault.notObject record).message =
      "Record " ++ record.topic ++ "-" ++ Integer.toText record.partition ++ "@" ++
        Integer.toText record.offset ++ " value must be a dict, got " ++ record.value.kind

theorem message_notObject (record : Record) : record.IsNamed := by
  intro hpartition hoffset
  rw [MappingFault.message, hpartition, hoffset]
  rfl

/-- Of records without an event the first is the fault. -/
theorem toEvents_of_not_isObject {fields : FieldNames} (hfields : fields.AreTexts)
    (time : TimeOfDay) {before after : List Record} {record : Record}
    (hbefore : ∀ earlier ∈ before, earlier.IsObject)
    (hsize : ∀ earlier ∈ before, earlier.value.hasOversized = false) (h : ¬ record.IsObject) :
    (toEvents fields time (before ++ record :: after)).1 = .error (.notObject record) := by
  induction before generalizing time with
  | nil =>
    rw [List.nil_append, toEvents_cons, toEvent_of_not_isObject h]
    rfl
  | cons first before ih =>
    rw [List.forall_mem_cons] at hbefore hsize
    -- The first of the sound records makes an event, and time goes on.
    obtain ⟨event, hevent⟩ :=
      exists_toEvent hfields (first.readTime time).1 ⟨hsize.1, hbefore.1⟩
    rw [List.cons_append, toEvents_cons, hevent, ok_bind, ih _ hbefore.2 hsize.2]
    rfl

end Record

/-! ## 3. Lines -/

theorem RecordLine.isSound_of_read {topic line : Text} {offset : Nat} {record : Record}
    (h : RecordLine.read topic line offset = .record record) : record.IsSound := by
  unfold RecordLine.read at h
  dsimp only at h
  split at h
  · cases h
  · split at h
    · cases h
    · cases h
    · rename_i members hread
      cases h
      exact ⟨Json.hasOversized_of_read hread, members, rfl⟩
    · cases h

theorem RecordLine.offset_of_read {topic line : Text} {offset : Nat} {record : Record}
    (h : RecordLine.read topic line offset = .record record) : record.offset = offset := by
  unfold RecordLine.read at h
  dsimp only at h
  split at h
  · cases h
  · split at h
    · cases h
    · cases h
    · cases h
      rfl
    · cases h

theorem RecordReading.mem_of_mem_records {lines : List RecordLine} {record : Record}
    (h : record ∈ (ofLines lines).records) : .record record ∈ lines := by
  induction lines with
  | nil => cases h
  | cons line lines ih =>
    cases line with
    | blank => exact List.mem_cons_of_mem _ (ih h)
    | skipped notice => exact List.mem_cons_of_mem _ (ih h)
    | unreadable cause => cases h
    | record first =>
      rcases List.mem_cons.1 h with rfl | h
      · exact List.mem_cons_self
      · exact List.mem_cons_of_mem _ (ih h)

/-- The records of lines all make events. -/
theorem RecordReading.isSound_of_mem {topic : Text} {lines : List Text} {record : Record}
    (h : record ∈ (ofLines (RecordLine.readAll topic lines)).records) : record.IsSound := by
  have hline := mem_of_mem_records h
  rw [RecordLine.readAll, List.mem_mapIdx] at hline
  obtain ⟨offset, hoffset, hread⟩ := hline
  exact RecordLine.isSound_of_read hread

/-- The offsets of records increase: each line is counted, whatever it holds. -/
theorem RecordReading.pairwise_offset (topic : Text) (lines : List Text) :
    (ofLines (RecordLine.readAll topic lines)).records.Pairwise
      fun earlier later => earlier.offset < later.offset := by
  -- The offset of a record is the number of its line, so all lines are in order first.
  have hlines : (RecordLine.readAll topic lines).Pairwise fun first second =>
      ∀ earlier later, first = .record earlier → second = .record later →
        earlier.offset < later.offset := by
    rw [RecordLine.readAll, List.pairwise_iff_getElem]
    intro i j hi hj hij earlier later hearlier hlater
    rw [List.getElem_mapIdx] at hearlier hlater
    rw [RecordLine.offset_of_read hearlier, RecordLine.offset_of_read hlater]
    exact Int.ofNat_lt.2 hij
  generalize RecordLine.readAll topic lines = lines at hlines
  induction lines with
  | nil => exact .nil
  | cons line lines ih =>
    obtain ⟨hfirst, hrest⟩ := List.pairwise_cons.1 hlines
    cases line with
    | blank => exact ih hrest
    | skipped notice => exact ih hrest
    | unreadable cause => exact .nil
    | record record =>
      refine .cons (fun later hlater => ?_) (ih hrest)
      exact hfirst _ (mem_of_mem_records hlater) record later rfl rfl

end LogShipper
