import LogShipper.PayloadSink
import LogShipper.Proofs.Payload.Decoding

/-!
# What a sink is asked

Whatever ends the writing of a payload, its sink is closed once, after the last chunk.  The sink
takes the chunks in the order in which they are produced, up to the one that it refuses; which of
the two faults is met, that of the sink or that of the payload, is told by the number of chunks.
-/

namespace LogShipper

/-! ## 1. Sinks -/

namespace Sink

variable {sink : Sink}

/-- The chunks that a sink took. -/
def chunks (sink : Sink) : List Bytes :=
  sink.calls.filterMap fun
    | .took chunk => some chunk
    | _ => none

/-- The sink after some more calls. -/
def recordAll (sink : Sink) (calls : List SinkCall) : Sink :=
  { sink with calls := sink.calls ++ calls }

theorem recordAll_nil (sink : Sink) : sink.recordAll [] = sink := by
  rw [recordAll, List.append_nil]

theorem recordAll_cons (sink : Sink) (call : SinkCall) (calls : List SinkCall) :
    sink.recordAll (call :: calls) = (sink.record call).recordAll calls := by
  rw [recordAll, recordAll, record, List.append_assoc, List.singleton_append]

theorem data_eq (sink : Sink) : sink.data = sink.chunks.flatten := by
  obtain ⟨capacity, calls⟩ := sink
  induction calls with
  | nil => rfl
  | cons call calls ih =>
    cases call with
    | took chunk => exact congrArg (chunk ++ ·) ih
    | refused | closed => exact ih

theorem writes_record_took (sink : Sink) (chunk : Bytes) :
    (sink.record (.took chunk)).writes = sink.writes + 1 := by
  rw [writes, record, List.countP_append]
  rfl

theorem isFull_iff : sink.isFull = true ↔ ∃ n, sink.capacity = some n ∧ n ≤ sink.writes := by
  rw [isFull, Option.any_eq_true]
  simp only [decide_eq_true_eq]

/-- What becomes of a new sink: it takes some chunks, may refuse one more, and is closed. -/
def ended (capacity : Option Nat) (taken : List Bytes) (refuses : Bool) : Sink :=
  ⟨capacity, taken.map .took ++ (if refuses then [.refused] else []) ++ [.closed]⟩

theorem closes_ended (capacity : Option Nat) (taken : List Bytes) (refuses : Bool) :
    (ended capacity taken refuses).closes = 1 := by
  unfold ended closes
  cases refuses <;> simp [List.countP_append, List.countP_map, Function.comp_def]

theorem getLast?_ended (capacity : Option Nat) (taken : List Bytes) (refuses : Bool) :
    (ended capacity taken refuses).calls.getLast? = some .closed := by
  rw [ended, List.getLast?_append]
  rfl

theorem chunks_ended (capacity : Option Nat) (taken : List Bytes) (refuses : Bool) :
    (ended capacity taken refuses).chunks = taken := by
  have htaken : (taken.map SinkCall.took).filterMap (fun
      | .took chunk => some chunk
      | _ => none) = taken := by
    rw [List.filterMap_map]
    exact List.filterMap_some
  unfold ended chunks
  rw [List.filterMap_append, List.filterMap_append, htaken]
  cases refuses <;> simp

end Sink

namespace Payload

variable {sink : Sink}

/-! ## 2. Chunks -/

/-- Chunks for which there is room are all taken. -/
theorem pour_of_room {chunks : List Bytes}
    (h : ∀ n, sink.capacity = some n → sink.writes + chunks.length ≤ n) :
    pour sink chunks = (true, sink.recordAll (chunks.map .took)) := by
  induction chunks generalizing sink with
  | nil => rw [pour, List.map_nil, sink.recordAll_nil]
  | cons chunk chunks ih =>
    have hroom : ¬ sink.isFull = true := by
      intro hfull
      obtain ⟨n, hn, hle⟩ := Sink.isFull_iff.1 hfull
      have hlt := h n hn
      rw [List.length_cons] at hlt
      omega
    have hrest : pour (sink.record (.took chunk)) chunks =
        (true, (sink.record (.took chunk)).recordAll (chunks.map .took)) := by
      apply ih
      intro n hn
      have hlt := h n hn
      rw [List.length_cons] at hlt
      rw [Sink.writes_record_took]
      omega
    rw [pour, if_neg hroom, hrest, List.map_cons, Sink.recordAll_cons]

/-- Of more chunks than there is room for, the first ones are taken and the next one is refused. -/
theorem pour_of_no_room {chunks : List Bytes} {n : Nat} (hn : sink.capacity = some n)
    (hstart : sink.writes ≤ n) (h : n < sink.writes + chunks.length) :
    pour sink chunks =
      (false, sink.recordAll ((chunks.take (n - sink.writes)).map .took ++ [.refused])) := by
  induction chunks generalizing sink with
  | nil => exact absurd h (Nat.not_lt.2 hstart)
  | cons chunk chunks ih =>
    by_cases hfull : sink.isFull = true
    · obtain ⟨m, hm, hle⟩ := Sink.isFull_iff.1 hfull
      obtain rfl : m = n := Option.some.inj (hm.symm.trans hn)
      rw [pour, if_pos hfull, Nat.sub_eq_zero_of_le hle]
      rfl
    · have hlt : sink.writes < n :=
        Nat.lt_of_not_le fun hle => hfull (Sink.isFull_iff.2 ⟨n, hn, hle⟩)
      have hroom : n - sink.writes = n - (sink.writes + 1) + 1 := by omega
      rw [List.length_cons] at h
      have hrest := @ih (sink.record (.took chunk)) hn
        (by rw [Sink.writes_record_took]; omega) (by rw [Sink.writes_record_took]; omega)
      rw [pour, if_neg hfull, hrest, hroom, List.take_succ_cons, List.map_cons, List.cons_append,
        Sink.recordAll_cons, Sink.writes_record_took]

/-! ## 3. Piece by piece -/

/-- How the writing of what was produced ends, given whether the sink took all of it. -/
def ending (production : Production) (allTaken : Bool) : Except WriteFault Nat :=
  if !allTaken then .error .sinkFull
  else
    match production.fault with
    | some fault => .error (.serialization fault)
    | none => .ok production.size

/-- Gives each piece to the sink as soon as it is produced, and counts the bytes. -/
def pourEach (sink : Sink) (written : Nat) :
    List (Except SerializationFault Bytes) → Except WriteFault Nat × Sink
  | [] => (.ok written, sink)
  | .error fault :: _ => (.error (.serialization fault), sink)
  | .ok chunk :: rest =>
    if sink.isFull then (.error .sinkFull, sink.record .refused)
    else pourEach (sink.record (.took chunk)) (written + chunk.length) rest

theorem pourEach_eq (pieces : List (Except SerializationFault Bytes)) (written : Nat) :
    pourEach sink written pieces =
      ((ending (.ofPieces pieces) (pour sink (Production.ofPieces pieces).chunks).1).map
        (written + ·), (pour sink (Production.ofPieces pieces).chunks).2) := by
  induction pieces generalizing sink written with
  | nil => rfl
  | cons piece pieces ih =>
    cases piece with
    | error fault => rfl
    | ok chunk =>
      rw [pourEach, Production.ofPieces]
      dsimp only
      rw [pour]
      by_cases hfull : sink.isFull = true
      · rw [if_pos hfull, if_pos hfull]
        rfl
      · rw [if_neg hfull, if_neg hfull, ih]
        unfold ending Production.size
        dsimp only
        rw [List.flatten_cons, List.length_append]
        cases (pour (sink.record (.took chunk)) (Production.ofPieces pieces).chunks).1 with
        | false => rfl
        | true =>
          cases (Production.ofPieces pieces).fault with
          | some fault => rfl
          | none => exact congrArg (fun n => (Except.ok n, _)) (Nat.add_assoc written _ _)

/-- The writing does not wait for the whole payload. -/
theorem writeTo_eq_pourEach (payload : Payload) (sink : Sink) (given : Option LogTable) :
    let poured := pourEach sink 0 (payload.pieces (given.getD (.ofEvents payload.events)))
    payload.writeTo sink given = (poured.1, poured.2.record .closed) := by
  have hzero (result : Except WriteFault Nat) : result.map (0 + ·) = result := by
    cases result with
    | error fault => rfl
    | ok n => exact congrArg Except.ok (Nat.zero_add n)
  dsimp only
  rw [pourEach_eq, hzero]
  rfl

/-! ## 4. Whole payloads -/

/-- Whether a sink takes as many chunks as there are. -/
def fits (capacity : Option Nat) (chunks : List Bytes) : Bool :=
  capacity.all (chunks.length ≤ ·)

theorem fits_iff {capacity : Option Nat} {chunks : List Bytes} :
    fits capacity chunks = true ↔ ∀ n, capacity = some n → chunks.length ≤ n := by
  cases capacity with
  | none => exact ⟨fun _ => nofun, fun _ => rfl⟩
  | some n => simp [fits]

theorem take_of_fits {capacity : Option Nat} {chunks : List Bytes}
    (h : fits capacity chunks = true) :
    chunks.take (capacity.getD chunks.length) = chunks := by
  apply List.take_of_length_le
  cases capacity with
  | none => exact Nat.le_refl _
  | some n => exact fits_iff.1 h n rfl

/-- Writing into a new sink. -/
theorem writeTo_new (payload : Payload) (given : Option LogTable) (capacity : Option Nat) :
    let chunks := (payload.produce given).chunks
    payload.writeTo ⟨capacity, []⟩ given =
      (ending (payload.produce given) (fits capacity chunks),
        .ended capacity (chunks.take (capacity.getD chunks.length))
          (!fits capacity chunks)) := by
  intro chunks
  have hzero : Sink.writes ⟨capacity, []⟩ = 0 := rfl
  cases hfits : fits capacity chunks with
  | true =>
    have hpour : pour ⟨capacity, []⟩ chunks = _ := pour_of_room (by
      rw [hzero, Nat.zero_add]
      exact fits_iff.1 hfits)
    rw [writeTo, hpour, take_of_fits hfits, Sink.ended, Bool.not_true,
      if_neg Bool.false_ne_true, List.append_nil]
    rfl
  | false =>
    -- A sink in which not all chunks fit has a capacity.
    obtain ⟨n, rfl, hlt⟩ : ∃ n, capacity = some n ∧ n < chunks.length := by
      cases capacity with
      | none => cases hfits
      | some n => exact ⟨n, rfl, by simpa [fits] using hfits⟩
    have hpour : pour ⟨some n, []⟩ chunks = _ := pour_of_no_room rfl
      (by rw [hzero]; exact Nat.zero_le n) (by rwa [hzero, Nat.zero_add])
    rw [writeTo, hpour]
    rfl

theorem serialize_eq {payload : Payload} (h : (payload.produce none).fault = none) :
    payload.serialize = .ok (payload.produce none).chunks.flatten := by
  unfold serialize
  dsimp only
  rw [h]

/-- A sink is closed once, and last.  It took the first of the chunks that are produced, as many as
there are or as it takes.  If there are more, its refusal is the fault; else the fault of the
payload is, and without one all bytes were written and counted.  It is the same as if each piece
were given to the sink before the next is produced. -/
theorem writeTo_closes_once (payload : Payload) (given : Option LogTable)
    (capacity : Option Nat) :
    let production := payload.produce given
    let written := payload.writeTo ⟨capacity, []⟩ given
    let poured := pourEach ⟨capacity, []⟩ 0 (payload.pieces (given.getD (.ofEvents payload.events)))
    written.2.closes = 1 ∧ written.2.calls.getLast? = some .closed ∧
      written.2.chunks = production.chunks.take (capacity.getD production.chunks.length) ∧
      (∀ n, capacity = some n → n < production.chunks.length →
        written.1 = .error .sinkFull) ∧
      ((∀ n, capacity = some n → production.chunks.length ≤ n) →
        (∀ fault, production.fault = some fault → written.1 = .error (.serialization fault)) ∧
        (production.fault = none → written.1 = .ok written.2.data.length ∧
          (given = none → payload.serialize = .ok written.2.data))) ∧
      written = (poured.1, poured.2.record .closed) := by
  intro production written poured
  have hpoured : written = (poured.1, poured.2.record .closed) :=
    payload.writeTo_eq_pourEach ⟨capacity, []⟩ given
  have hwritten : written = _ := payload.writeTo_new given capacity
  refine ⟨?_, ?_, ?_, ?_, fun hroom => ?_, hpoured⟩
  · rw [hwritten]
    exact Sink.closes_ended _ _ _
  · rw [hwritten]
    exact Sink.getLast?_ended _ _ _
  · rw [hwritten]
    exact Sink.chunks_ended _ _ _
  · rintro n rfl hlt
    have hfits : fits (some n) production.chunks = false :=
      Bool.eq_false_iff.2 fun hfits => Nat.not_lt.2 (fits_iff.1 hfits n rfl) hlt
    rw [hwritten]
    show ending production (fits (some n) production.chunks) = _
    rw [hfits]
    rfl
  · -- With room for all chunks, what was written is the whole text.
    have hfits := fits_iff.2 hroom
    have hdata : written.2.data = production.chunks.flatten := by
      rw [Sink.data_eq, hwritten]
      show (Sink.ended _ _ _).chunks.flatten = _
      rw [Sink.chunks_ended, take_of_fits hfits]
    have hresult : written.1 = ending production true := by
      rw [hwritten, ← hfits]
    rw [hdata, hresult]
    unfold ending
    refine ⟨fun fault hfault => ?_, fun hfault => ⟨?_, ?_⟩⟩
    · rw [hfault]
      rfl
    · rw [hfault]
      rfl
    · rintro rfl
      exact serialize_eq hfault

/-- Two events and their two keys make seven chunks.  A sink for three refuses the fourth, a sink
for seven takes them all, and a table without the key of the first event lets only the head be
produced. -/
theorem sample_closes_once :
    sample.writeTo ⟨some 3, []⟩ =
      (.error .sinkFull, .ended (some 3) (sample.produce.chunks.take 3) true) ∧
    (sample.writeTo ⟨some 7, []⟩).1 = .ok (sample.writeTo ⟨some 7, []⟩).2.data.length ∧
    sample.serialize = .ok (sample.writeTo ⟨some 7, []⟩).2.data ∧
    (sample.writeTo ⟨some 1, []⟩ (some .empty)).1 =
      .error (.serialization (.unknownKey ⟨none, some "\"h\"", none⟩)) ∧
    (sample.writeTo ⟨some 1, []⟩ (some .empty)).2.chunks =
      (sample.produce (some .empty)).chunks.take 1 := by
  have hlength : sample.produce.chunks.length = 7 := by decide +kernel
  have hfault : sample.produce.fault = none := by decide +kernel
  have hunknown : (sample.produce (some .empty)).fault =
      some (.unknownKey ⟨none, some "\"h\"", none⟩) := by decide +kernel
  have hhead : (sample.produce (some .empty)).chunks.length = 1 := by decide +kernel
  obtain ⟨-, -, -, hfull, -, -⟩ := writeTo_closes_once sample none (some 3)
  obtain ⟨-, -, -, -, hwhole, -⟩ := writeTo_closes_once sample none (some 7)
  obtain ⟨-, -, hchunks, -, hfailed, -⟩ := writeTo_closes_once sample (some .empty) (some 1)
  have hroom : ∀ n, some 7 = some n → sample.produce.chunks.length ≤ n := by
    intro n hn
    exact hlength.le.trans (Option.some.inj hn).le
  have hone : ∀ n, some 1 = some n → (sample.produce (some .empty)).chunks.length ≤ n := by
    intro n hn
    exact hhead.le.trans (Option.some.inj hn).le
  have hrefused : (sample.writeTo ⟨some 3, []⟩).1 = .error .sinkFull :=
    hfull 3 rfl (by rw [hlength]; decide)
  obtain ⟨hcount, hserialized⟩ := (hwhole hroom).2 hfault
  refine ⟨Prod.ext hrefused (by decide +kernel), hcount, hserialized rfl,
    (hfailed hone).1 _ hunknown, hchunks⟩

end Payload

end LogShipper
