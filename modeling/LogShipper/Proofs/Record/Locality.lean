import LogShipper.Proofs.Record.Mapping
import LogShipper.Proofs.Record.Reading

/-!
# Line by line

A text without an excess is read to its end: each line that holds an object is a record, and each
other line that is not blank makes one warning with its number.  What a line yields depends on
nothing but the line and how many others stand before it, so a text behind another one yields what
it would yield alone, moved by the lines of the first.
-/

namespace LogShipper

/-! ## 1. Moving by some lines -/

/-- The number of the line that a notice is about. -/
def Notice.lineNumber? : Notice → Option Nat
  | .lineUnreadable number _ | .lineNotObject number => some number
  | _ => none

/-- The notice when some more lines stand before the line that it is about. -/
def Notice.moved (lines : Nat) : Notice → Notice
  | .lineUnreadable number line => .lineUnreadable (number + lines) line
  | .lineNotObject number => .lineNotObject (number + lines)
  | notice => notice

/-- The record when some more lines stand before its own. -/
def Record.moved (lines : Nat) (record : Record) : Record :=
  { record with offset := record.offset + lines }

namespace RecordLine

def moved (lines : Nat) : RecordLine → RecordLine
  | .skipped notice => .skipped (notice.moved lines)
  | .record found => .record (found.moved lines)
  | .blank => .blank
  | .unreadable cause => .unreadable cause

/-- A line is read in the same way wherever it stands. -/
theorem read_add (topic line : Text) (offset lines : Nat) :
    read topic line (offset + lines) = (read topic line offset).moved lines := by
  have hnumber : offset + lines + 1 = offset + 1 + lines := Nat.add_right_comm offset lines 1
  unfold read
  dsimp only
  rw [hnumber]
  by_cases hempty : line.trim.isEmpty = true
  · rw [if_pos hempty, if_pos hempty]
    rfl
  · rw [if_neg hempty, if_neg hempty]
    cases Json.read line.trim with
    | ok value => cases value <;> rfl
    | error fault => cases fault <;> rfl

theorem readAll_append (topic : Text) (first second : List Text) :
    readAll topic (first ++ second) =
      readAll topic first ++ (readAll topic second).map (moved first.length) := by
  rw [readAll, readAll, readAll, List.mapIdx_append]
  simp only [read_add, List.mapIdx_eq_zipIdx_map, List.map_map, Function.comp_def]

end RecordLine

namespace RecordReading

def moved (lines : Nat) (reading : RecordReading) : RecordReading :=
  ⟨reading.records.map (·.moved lines), reading.notices.map (·.moved lines), reading.fault⟩

/-- What two readings yield one after the other: a fault in the first is the end of both. -/
def followedBy : RecordReading → RecordReading → RecordReading
  | ⟨records, notices, none⟩, second =>
    ⟨records ++ second.records, notices ++ second.notices, second.fault⟩
  | ⟨records, notices, some cause⟩, _ => ⟨records, notices, some cause⟩

theorem ofLines_append (first second : List RecordLine) :
    ofLines (first ++ second) = (ofLines first).followedBy (ofLines second) := by
  induction first with
  | nil => rfl
  | cons line first ih =>
    cases line with
    | blank => exact ih
    | unreadable cause => rfl
    | skipped notice =>
      rw [List.cons_append, ofLines, ih, ofLines]
      obtain ⟨records, notices, _ | cause⟩ := ofLines first <;> rfl
    | record record =>
      rw [List.cons_append, ofLines, ih, ofLines]
      obtain ⟨records, notices, _ | cause⟩ := ofLines first <;> rfl

theorem ofLines_moved (lines : List RecordLine) (n : Nat) :
    ofLines (lines.map (·.moved n)) = (ofLines lines).moved n := by
  induction lines with
  | nil => rfl
  | cons line lines ih =>
    rw [List.map_cons]
    cases line with
    | blank => exact ih
    | unreadable cause => rfl
    | skipped notice => rw [RecordLine.moved, ofLines, ih]; rfl
    | record record => rw [RecordLine.moved, ofLines, ih]; rfl

/-- What a text yields behind an ended line: what it yields alone, moved by the lines before it. -/
theorem ofText_append {a : Text} (h : a.getLast? = some (.char '\n')) (topic b : Text) :
    ofText topic (a ++ b) =
      (ofText topic a).followedBy ((ofText topic b).moved a.lines.length) := by
  rw [ofText, ofText, ofText, Text.lines_append h, RecordLine.readAll_append, ofLines_append,
    ofLines_moved]

/-! ## 2. One warning for each line that is skipped -/

/-- Whether a line is neither blank nor a record. -/
def isSkipped (topic : Text) (place : Text × Nat) : Bool :=
  !place.1.trim.isEmpty && (recordAt? topic place).isNone

theorem isSkipped_eq (topic : Text) (place : Text × Nat) :
    isSkipped topic place = (warningAt? place).isSome := by
  unfold isSkipped
  by_cases hblank : place.1.trim = []
  · rw [hblank, warningAt?, if_pos hblank]
    rfl
  · have hsome : place.1.trim.isEmpty = false := by simpa using hblank
    rw [hsome, ← Option.not_isSome, isSome_recordAt? topic hblank]
    cases warningAt? place <;> rfl

/-- A warning names the line that it is about. -/
theorem lineNumber?_of_warningAt? {place : Text × Nat} {notice : Notice}
    (h : warningAt? place = some notice) :
    notice.lineNumber? = some (place.2 + 1) ∧ notice.level = .warning := by
  unfold warningAt? at h
  split at h
  · cases h
  · split at h
    · cases h
    · obtain rfl := Option.some.inj h
      exact ⟨rfl, rfl⟩
    · obtain rfl := Option.some.inj h
      exact ⟨rfl, rfl⟩

theorem map_lineNumber? (topic : Text) (places : List (Text × Nat)) :
    (places.filterMap warningAt?).map Notice.lineNumber? =
      (places.filter (isSkipped topic)).map fun place => some (place.2 + 1) := by
  induction places with
  | nil => rfl
  | cons place places ih =>
    rw [List.filterMap_cons, List.filter_cons, isSkipped_eq]
    cases hwarning : warningAt? place with
    | none => exact ih
    | some notice =>
      rw [Option.isSome_some, if_pos rfl, List.map_cons, List.map_cons, ih,
        (lineNumber?_of_warningAt? hwarning).1]

/-! ## 3. Whole texts -/

/-- A text is read to its end if no line of it has an excess. -/
theorem reaches_of_readable {topic t : Text}
    (h : ∀ line ∈ t.lines, ∀ cause, Json.read line.trim ≠ .error (.excess cause)) :
    Reaches topic t.lines.zipIdx [] (ofText topic t) := by
  obtain ⟨before, after, hlines, hreaches⟩ := exists_reaches topic t.lines 0
  rw [← readAll_eq] at hreaches
  rcases hreaches.ends with ⟨rfl, -⟩ | ⟨line, rest, cause, rfl, hread, -⟩
  · obtain rfl : t.lines = before := hlines.trans (List.append_nil before)
    exact hreaches
  · have hmem : line ∈ t.lines := by
      rw [hlines]
      exact List.mem_append_right _ List.mem_cons_self
    exact absurd hread (h line hmem cause)

/-- Only an excess ends the reading of a text before its last line. -/
theorem fault_eq_none_iff {topic t : Text} : (ofText topic t).fault = none ↔
    ∀ line ∈ t.lines, ∀ cause, Json.read line.trim ≠ .error (.excess cause) := by
  constructor
  · intro hfault line hline cause
    obtain ⟨before, after, hlines, hreaches⟩ := exists_reaches topic t.lines 0
    rw [← readAll_eq] at hreaches
    rcases hreaches.ends with ⟨rfl, -⟩ | ⟨_, _, found, -, -, hfound⟩
    · rw [hlines, List.append_nil] at hline
      obtain ⟨i, hi, rfl⟩ := List.mem_iff_getElem.1 hline
      have hplace : (before[i], i) ∈ before.zipIdx :=
        List.mk_mem_zipIdx_iff_getElem?.2 (by simp [hi])
      exact hreaches.readable _ hplace cause
    · exact absurd (hfault.symm.trans hfound) nofun
  · intro h
    rcases (reaches_of_readable h).ends with ⟨-, hfault⟩ | ⟨line, rest, cause, hnil, -⟩
    · exact hfault
    · cases hnil

/-- What a text yields that is read to its end.  There is a record for each line that holds an
object, with the number of lines before it as its offset, and a warning for each other line that is
not blank, with the number of that line; both are in the order of the lines. -/
structure IsExact (topic t : Text) (reading : RecordReading) : Prop where
  fault : reading.fault = none
  records : reading.records = t.lines.zipIdx.filterMap (recordAt? topic)
  offsets : reading.records.Pairwise fun earlier later => earlier.offset < later.offset
  notices : reading.notices = t.lines.zipIdx.filterMap warningAt?
  numbers : reading.notices.map Notice.lineNumber? =
    (t.lines.zipIdx.filter (isSkipped topic)).map fun place => some (place.2 + 1)
  levels : ∀ notice ∈ reading.notices, notice.level = .warning

theorem isExact_of_readable {topic t : Text}
    (h : ∀ line ∈ t.lines, ∀ cause, Json.read line.trim ≠ .error (.excess cause)) :
    IsExact topic t (ofText topic t) where
  fault := fault_eq_none_iff.2 h
  records := (reaches_of_readable h).records
  offsets := pairwise_offset topic t.lines
  notices := (reaches_of_readable h).notices
  numbers := by rw [(reaches_of_readable h).notices, map_lineNumber?]
  levels := by
    intro notice hnotice
    rw [(reaches_of_readable h).notices] at hnotice
    obtain ⟨place, -, hwarning⟩ := List.mem_filterMap.1 hnotice
    exact (lineNumber?_of_warningAt? hwarning).2

/-- Without an excess each line yields its record, its warning or nothing, and all lines are read.
Whatever the lines hold, a text behind an ended line is read as it is read alone, with the numbers
of its lines moved by those before it. -/
theorem ofText_is_local (topic : Text) :
    (∀ t : Text, (∀ line ∈ t.lines, ∀ cause, Json.read line.trim ≠ .error (.excess cause)) →
      IsExact topic t (ofText topic t)) ∧
    ∀ a b : Text, a.getLast? = some (.char '\n') →
      ofText topic (a ++ b) =
        (ofText topic a).followedBy ((ofText topic b).moved a.lines.length) :=
  ⟨fun _ h => isExact_of_readable h, fun _ b h => ofText_append h topic b⟩

/-- An object, a blank line, JSON that is no object, no JSON, and an object behind a wide blank. -/
def sampleText : Text :=
  "\x7b\x7d\n\n[1]\n?\n\u3000\x7b\"a\":1,\"a\":2\x7d"

theorem sample_is_local :
    (∀ line ∈ sampleText.lines, ∀ cause, Json.read line.trim ≠ .error (.excess cause)) ∧
    (ofText "t" sampleText).records.map (·.offset) = [0, 4] ∧
    (ofText "t" sampleText).notices.map Notice.lineNumber? = [some 3, some 4] ∧
    (ofText "t" ("7\n" ++ sampleText)).records.map (·.offset) = [1, 5] := by
  have hread : ∀ line ∈ sampleText.lines, ∀ cause,
      Json.read line.trim ≠ .error (.excess cause) :=
    fault_eq_none_iff.1 (show (ofText [] sampleText).fault = none by decide +kernel)
  have hexact := (ofText_is_local "t").1 sampleText hread
  have hmoved := (ofText_is_local "t").2 "7\n" sampleText rfl
  refine ⟨hread, ?_, ?_, ?_⟩
  · rw [hexact.records]
    decide +kernel
  · rw [hexact.numbers]
    decide +kernel
  · rw [hmoved]
    decide +kernel

end RecordReading

end LogShipper
