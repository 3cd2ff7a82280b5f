import LogShipper.Proofs.Json.LongIntegers
import LogShipper.Proofs.Number.Numeral
import LogShipper.Proofs.Text.Splitting
import LogShipper.Record.Line

/-!
# How far a text is read

Each line that holds an object is a record and each other line that is not blank makes one warning,
up to the first line with an excess, behind which nothing is read.  Without too many digits in a row
or collections inside each other there is no such line, and the text is read to its end.
-/

namespace LogShipper

namespace Text

theorem trim_infix (t : Text) : t.trim <:+: t := by
  have hstart : t.dropBlanks <:+ t := List.dropWhile_suffix _
  have hend : t.trim.reverse <:+ t.dropBlanks.reverse := by
    unfold trim
    rw [List.reverse_reverse]
    exact List.dropWhile_suffix _
  exact (List.reverse_suffix.1 hend).isInfix.trans hstart.isInfix

theorem trim_eq_self {t : Text} (h : ∀ c ∈ t, c.isBlank = false) : t.trim = t := by
  have hkept : ∀ s : Text, (∀ c ∈ s, c.isBlank = false) → s.dropBlanks = s := by
    intro s hs
    cases s with
    | nil => rfl
    | cons c s =>
      have hc : ¬ c.isBlank = true := Bool.eq_false_iff.1 (hs c List.mem_cons_self)
      rw [dropBlanks, List.dropWhile_cons, if_neg hc]
  unfold trim
  rw [hkept t h, hkept _ fun c hc => h c (List.mem_reverse.1 hc), List.reverse_reverse]

end Text

/-- A sign and digits: nothing that ends a line, and nothing blank. -/
theorem Integer.isBlank_of_mem_toText {n : Int} {c : CodePoint} (h : c ∈ toText n) :
    c.isBlank = false ∧ c ≠ .char '\n' := by
  obtain rfl | ⟨d, rfl, hdigit⟩ := Numeral.char_of_mem_toText h
  · decide
  · have hbounds := Numeral.toNat_of_isDigit hdigit
    constructor
    · unfold CodePoint.isBlank CodePoint.value
      grind
    · intro heq
      obtain rfl := CodePoint.char.inj heq
      exact absurd hdigit (by decide)

theorem Json.read_nil : read [] = .error (.malformed .value 1 1 0) := by
  have hvalue : readValue 1 maxDepth [] = .error (.malformed .value []) := by rw [readValue]
  have hspaces : skipSpaces [] = [] := rfl
  rw [read, parse, hspaces, List.length_nil, hvalue]
  rfl

namespace RecordReading

/-! ## 1. One line -/

/-- The record of a line, given with the number of lines before it, if the line holds an object. -/
def recordAt? (topic : Text) (place : Text × Nat) : Option Record :=
  match Json.read place.1.trim with
  | .ok (.object members) => some ⟨topic, 0, place.2, .object members, none⟩
  | _ => none

/-- The warning about a line that is not blank and holds no object. -/
def warningAt? (place : Text × Nat) : Option Notice :=
  if place.1.trim = [] then none
  else
    match Json.read place.1.trim with
    | .ok (.object _) => none
    | .ok _ => some (.lineNotObject (place.2 + 1))
    | .error _ => some (.lineUnreadable (place.2 + 1) (place.1.trim.take 100))

/-- Of a line that is not blank there is a record, or else a warning. -/
theorem isSome_recordAt? {place : Text × Nat} (topic : Text) (h : place.1.trim ≠ []) :
    (recordAt? topic place).isSome = (warningAt? place).isNone := by
  unfold recordAt? warningAt?
  rw [if_neg h]
  cases Json.read place.1.trim with
  | error fault => rfl
  | ok value => cases value <;> rfl

variable {topic line : Text} {offset : Nat} {rest : List RecordLine}

theorem ofLines_of_excess {cause : Json.Excess}
    (h : Json.read line.trim = .error (.excess cause)) :
    ofLines (RecordLine.read topic line offset :: rest) = ⟨[], [], some cause⟩ := by
  have hsome : ¬ line.trim.isEmpty = true := by
    intro hempty
    rw [List.isEmpty_iff.1 hempty, Json.read_nil] at h
    cases h
  have hread : RecordLine.read topic line offset = .unreadable cause := by
    unfold RecordLine.read
    dsimp only
    rw [if_neg hsome, h]
  rw [hread, ofLines]

/-- A line without an excess adds its record or its warning. -/
theorem ofLines_of_readable (h : ∀ cause, Json.read line.trim ≠ .error (.excess cause)) :
    ofLines (RecordLine.read topic line offset :: rest) =
      ⟨(recordAt? topic (line, offset)).toList ++ (ofLines rest).records,
        (warningAt? (line, offset)).toList ++ (ofLines rest).notices, (ofLines rest).fault⟩ := by
  unfold RecordLine.read recordAt? warningAt?
  dsimp only
  by_cases hblank : line.trim = []
  · rw [hblank, Json.read_nil]
    rfl
  · have hsome : ¬ line.trim.isEmpty = true := fun hempty => hblank (List.isEmpty_iff.1 hempty)
    rw [if_neg hsome, if_neg hblank]
    cases hread : Json.read line.trim with
    | ok value => cases value <;> rfl
    | error fault =>
      cases fault with
      | excess cause => exact absurd hread (h cause)
      | malformed what row column position => rfl

/-! ## 2. All lines -/

/-- How far lines are read.  Those that are have no excess; their records and warnings are in the
order of the lines, one of the two for each line that is not blank.  If there are others, the first
of them has an excess, which is the fault. -/
structure Reaches (topic : Text) (before : List (Text × Nat)) (after : List Text)
    (reading : RecordReading) : Prop where
  readable : ∀ place ∈ before, ∀ cause, Json.read place.1.trim ≠ .error (.excess cause)
  records : reading.records = before.filterMap (recordAt? topic)
  notices : reading.notices = before.filterMap warningAt?
  either : ∀ place ∈ before, place.1.trim ≠ [] →
    (recordAt? topic place).isSome = (warningAt? place).isNone
  ends : (after = [] ∧ reading.fault = none) ∨ ∃ line rest cause, after = line :: rest ∧
    Json.read line.trim = .error (.excess cause) ∧ reading.fault = some cause

theorem Reaches.cons {before : List (Text × Nat)} {after : List Text}
    (h : Reaches topic before after (ofLines rest))
    (hline : ∀ cause, Json.read line.trim ≠ .error (.excess cause)) :
    Reaches topic ((line, offset) :: before) after
      (ofLines (RecordLine.read topic line offset :: rest)) := by
  rw [ofLines_of_readable hline]
  exact {
    readable := List.forall_mem_cons.2 ⟨hline, h.readable⟩
    records := by
      rw [List.filterMap_cons, h.records]
      cases recordAt? topic (line, offset) <;> rfl
    notices := by
      rw [List.filterMap_cons, h.notices]
      cases warningAt? (line, offset) <;> rfl
    either := List.forall_mem_cons.2 ⟨isSome_recordAt? topic, h.either⟩
    ends := h.ends }

theorem exists_reaches (topic : Text) (lines : List Text) (offset : Nat) :
    ∃ before after, lines = before ++ after ∧ Reaches topic (before.zipIdx offset) after
      (ofLines ((lines.zipIdx offset).map fun place =>
        RecordLine.read topic place.1 place.2)) := by
  induction lines generalizing offset with
  | nil => exact ⟨[], [], rfl, by simp, rfl, rfl, by simp, .inl ⟨rfl, rfl⟩⟩
  | cons line lines ih =>
    rw [List.zipIdx_cons, List.map_cons]
    by_cases hexcess : ∃ cause, Json.read line.trim = .error (.excess cause)
    · obtain ⟨cause, hcause⟩ := hexcess
      rw [ofLines_of_excess hcause]
      exact ⟨[], line :: lines, rfl, by simp, rfl, rfl, by simp,
        .inr ⟨line, lines, cause, rfl, hcause, rfl⟩⟩
    · obtain ⟨before, after, heq, hreaches⟩ := ih (offset + 1)
      refine ⟨line :: before, after, congrArg (line :: ·) heq, ?_⟩
      exact hreaches.cons (not_exists.1 hexcess)

theorem readAll_eq (topic : Text) (lines : List Text) :
    RecordLine.readAll topic lines =
      lines.zipIdx.map fun place => RecordLine.read topic place.1 place.2 := by
  rw [RecordLine.readAll, List.mapIdx_eq_zipIdx_map]

/-- An integer that is too long to be read stops the reading, whatever its line is followed by. -/
theorem ofText_of_isOversized {n : Int} (h : Integer.isOversized n = true) (topic rest : Text) :
    ofText topic (Integer.toText n ++ .char '\n' :: rest) =
      ⟨[], [], some (.digits (.read (Nat.toDigits 10 n.natAbs).length))⟩ := by
  have hline : .char '\n' ∉ Integer.toText n := fun hmem =>
    (Integer.isBlank_of_mem_toText hmem).2 rfl
  have htrim : (Integer.toText n).trim = Integer.toText n :=
    Text.trim_eq_self fun _ hc => (Integer.isBlank_of_mem_toText hc).1
  have hread := Json.read_toText_of_isOversized h
  rw [← htrim] at hread
  rw [ofText, Text.lines_append_cons, Text.splitOn_of_not_mem hline, List.singleton_append,
    readAll_eq, List.zipIdx_cons, List.map_cons]
  exact ofLines_of_excess hread

/-- A text is read up to the first line with an excess.  Digits are in excess only if more than are
allowed stand in a row; so a text without so many digits in a row, and not nested too deeply, is
read to its end.  An integer with so many digits on a line of its own is the end of the reading,
also if records follow. -/
theorem ofText_reaches (topic : Text) :
    (∀ t, ∃ before after, t.lines = before ++ after ∧
      Reaches topic before.zipIdx after (ofText topic t)) ∧
    (∀ t cause, (ofText topic t).fault = some (.digits cause) → ∃ n, cause = .read n ∧
      Integer.maxDigits < n ∧ ∃ line ∈ t.lines, line.HasDigits n) ∧
    ∀ n : Int, Integer.isOversized n = true → ∀ rest,
      ofText topic (Integer.toText n ++ .char '\n' :: rest) =
        ⟨[], [], some (.digits (.read (Nat.toDigits 10 n.natAbs).length))⟩ := by
  have hreaches : ∀ t, ∃ before after, t.lines = before ++ after ∧
      Reaches topic before.zipIdx after (ofText topic t) := by
    intro t
    have hreading : ofText topic t = ofLines (t.lines.zipIdx.map fun place =>
        RecordLine.read topic place.1 place.2) := congrArg ofLines (readAll_eq topic t.lines)
    rw [hreading]
    exact exists_reaches topic t.lines 0
  refine ⟨hreaches, ?_, fun n hlong rest => ofText_of_isOversized hlong topic rest⟩
  intro t cause hfault
  obtain ⟨before, after, hlines, hreaches⟩ := hreaches t
  rcases hreaches.ends with ⟨-, hnone⟩ | ⟨line, rest, found, hafter, hread, hfound⟩
  · rw [hnone] at hfault
    cases hfault
  · obtain rfl := Option.some.inj (hfound.symm.trans hfault)
    obtain ⟨n, hcause, hlong, hdigits⟩ := Json.hasDigits_of_read hread
    refine ⟨n, hcause, hlong, line, ?_, hdigits.mono (Text.trim_infix line)⟩
    rw [hlines, hafter]
    exact List.mem_append_right _ List.mem_cons_self

/-- An object behind an integer with 4301 digits is no record: those digits end the reading. -/
theorem sample_reaches :
    let t : Text := Integer.toText (10 ^ 4300) ++ .char '\n' :: "{}"
    Integer.isOversized (10 ^ 4300) = true ∧ (ofText "t" t).records = [] ∧
    (∃ n, (ofText "t" t).fault = some (.digits (.read n)) ∧ ∃ line ∈ t.lines, line.HasDigits n) ∧
    (ofText "t" "{}").records = [⟨"t", 0, 0, .object [], none⟩] := by
  intro t
  have hlong : Integer.isOversized (10 ^ 4300) = true := by decide +kernel
  have hreading := (ofText_reaches "t").2.2 (10 ^ 4300) hlong "{}"
  obtain ⟨n, hcause, -, hdigits⟩ := (ofText_reaches "t").2.1 t _ (by rw [hreading])
  refine ⟨hlong, by rw [hreading], ⟨n, ?_, hdigits⟩, by cbv⟩
  rw [hreading, hcause]

end RecordReading

end LogShipper
