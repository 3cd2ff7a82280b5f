import LogShipper.Proofs.Metrics.Snapshot
import LogShipper.Proofs.Number.Ordering
import LogShipper.Proofs.Shipper.Counting

/-!
# Metrics of calls in any order

Calls of several threads reach the metrics in any order.  What a snapshot shows of them depends only
on which calls were made: the counts are sums, and the percentile is taken of the sorted times.  The
mean time is left out, as it is a sum that is rounded from call to call.
-/

namespace LogShipper

namespace Metrics

/-! ## 1. Calls -/

/-- A batch that was accepted. -/
structure Batch where
  events : Nat
  bytes : Nat
  millis : Binary64
  deriving DecidableEq, Repr

inductive Call where
  | accepted (batch : Batch)
  | failed (kind : Text)
  | shown
  deriving DecidableEq, Repr

namespace Call

def batch? : Call → Option Batch
  | .accepted batch => some batch
  | _ => none

def kind? : Call → Option Text
  | .failed kind => some kind
  | _ => none

/-- Whether the call records something. -/
def isRecord : Call → Bool
  | .shown => false
  | _ => true

end Call

/-- The metrics and the clock after a call.  A snapshot reads the clock and changes nothing else. -/
def perform : Metrics × Clock → Call → Metrics × Clock
  | (metrics, clock), .accepted batch =>
    (metrics.recordBatch batch.events batch.bytes (.float batch.millis), clock)
  | (metrics, clock), .failed kind => (metrics.recordFailure kind, clock)
  | (metrics, clock), .shown => (metrics, (metrics.snapshot clock).2)

/-- Metrics that are collected from now on, after some calls. -/
def performAll (clock : Clock) (calls : List Call) : Metrics × Clock :=
  calls.foldl perform ({ startTime := clock.read.1 }, clock.read.2)

/-- A snapshot that is taken after some calls. -/
def snapshotAfter (clock : Clock) (calls : List Call) : Except ArithmeticFault Snapshot :=
  ((performAll clock calls).1.snapshot (performAll clock calls).2).1

/-! ## 2. Tallies -/

/-- The number of times that each name is among some, for the names that are. -/
structure IsTally (failures : List (Text × Nat)) (kinds : List Text) : Prop where
  names : (failures.map Prod.fst).Nodup
  positive : ∀ entry ∈ failures, 0 < entry.2
  count : ∀ kind, (failures.lookup kind).getD 0 = kinds.count kind

variable {failures failures' : List (Text × Nat)} {kinds kinds' : List Text}

theorem map_fst_count (kind : Text) (failures : List (Text × Nat)) :
    (count kind failures).map Prod.fst =
      if kind ∈ failures.map Prod.fst then failures.map Prod.fst
      else failures.map Prod.fst ++ [kind] := by
  induction failures with
  | nil => rfl
  | cons entry rest ih =>
    obtain ⟨name, n⟩ := entry
    rw [count]
    by_cases h : name = kind
    · rw [if_pos h]
      simp [h]
    · rw [if_neg h, List.map_cons, ih]
      by_cases hrest : kind ∈ rest.map Prod.fst
      · simp [hrest]
      · simp [hrest, Ne.symm h]

theorem positive_count {kind : Text} (h : ∀ entry ∈ failures, 0 < entry.2) :
    ∀ entry ∈ count kind failures, 0 < entry.2 := by
  induction failures with
  | nil => simp [count]
  | cons first rest ih =>
    rw [List.forall_mem_cons] at h
    rw [count]
    split
    · exact List.forall_mem_cons.2 ⟨Nat.succ_pos _, h.2⟩
    · exact List.forall_mem_cons.2 ⟨h.1, ih h.2⟩

theorem IsTally.record (h : IsTally failures kinds) (kind : Text) :
    IsTally (Metrics.count kind failures) (kinds ++ [kind]) where
  names := by
    rw [map_fst_count]
    by_cases hkind : kind ∈ failures.map Prod.fst
    · rw [if_pos hkind]
      exact h.names
    · rw [if_neg hkind, ← List.concat_eq_append]
      exact h.names.concat hkind
  positive := positive_count h.positive
  count name := by
    rw [lookup_count, h.count, List.count_append, List.count_singleton, beq_eq_decide]
    simp

theorem IsTally.mem_iff (h : IsTally failures kinds) {kind : Text} {n : Nat} :
    (kind, n) ∈ failures ↔ 0 < n ∧ kinds.count kind = n := by
  obtain ⟨hnames, hpositive, hcount⟩ := h
  rw [← hcount]
  clear hcount
  induction failures with
  | nil =>
    simp only [List.not_mem_nil, List.lookup_nil, Option.getD_none, false_iff]
    omega
  | cons entry rest ih =>
    obtain ⟨name, m⟩ := entry
    rw [List.map_cons, List.nodup_cons] at hnames
    rw [List.forall_mem_cons] at hpositive
    have hm : 0 < m := hpositive.1
    by_cases hname : kind = name
    · subst hname
      -- The name stands nowhere else.
      have hrest : (kind, n) ∉ rest := fun hmem => hnames.1 (List.mem_map.2 ⟨_, hmem, rfl⟩)
      simp only [List.mem_cons, hrest, or_false, Prod.mk.injEq, true_and, List.lookup_cons_self,
        Option.getD_some]
      omega
    · have hne : (kind == name) = false := beq_false_of_ne hname
      simpa [List.lookup_cons, hne, hname] using ih hnames.2 hpositive.2

/-- The tallies of the same names differ only in their order. -/
theorem IsTally.perm (h : IsTally failures kinds) (h' : IsTally failures' kinds')
    (hkinds : kinds.Perm kinds') : failures.Perm failures' := by
  have hnodup := h.names.of_map
  have hnodup' := h'.names.of_map
  rw [List.perm_ext_iff_of_nodup hnodup hnodup']
  rintro ⟨kind, n⟩
  rw [h.mem_iff, h'.mem_iff, hkinds.count_eq]

/-! ## 3. Metrics after some calls -/

/-- Metrics that tell of some batches that were accepted and of some failures, and of nothing
else. -/
structure TellsOf (metrics : Metrics) (batches : List Batch) (kinds : List Text) : Prop where
  batchesSent : metrics.batchesSent = batches.length
  totalEvents : metrics.totalEvents = ((batches.map Batch.events).sum : Nat)
  totalBytes : metrics.totalBytes = ((batches.map Batch.bytes).sum : Nat)
  sendMillis : metrics.sendMillis = (batches.map Batch.millis).map Number.float
  failures : IsTally metrics.failures kinds

variable {metrics metrics' : Metrics} {batches batches' : List Batch}

theorem tellsOf_nil (now : Number) : TellsOf { startTime := now } [] [] :=
  ⟨rfl, rfl, rfl, rfl, ⟨List.nodup_nil, nofun, fun _ => rfl⟩⟩

theorem TellsOf.recordBatch (h : metrics.TellsOf batches kinds) (batch : Batch) :
    (metrics.recordBatch batch.events batch.bytes (.float batch.millis)).TellsOf
      (batches ++ [batch]) kinds where
  batchesSent := by simp [Metrics.recordBatch, h.batchesSent]
  totalEvents := by simp [Metrics.recordBatch, h.totalEvents]
  totalBytes := by simp [Metrics.recordBatch, h.totalBytes]
  sendMillis := by simp [Metrics.recordBatch, h.sendMillis]
  failures := h.failures

theorem TellsOf.recordFailure (h : metrics.TellsOf batches kinds) (kind : Text) :
    (metrics.recordFailure kind).TellsOf batches (kinds ++ [kind]) :=
  { h with failures := h.failures.record kind }

theorem performAll_concat (clock : Clock) (calls : List Call) (call : Call) :
    performAll clock (calls ++ [call]) = perform (performAll clock calls) call := by
  rw [performAll, List.foldl_append]
  rfl

theorem tellsOf_performAll (clock : Clock) (calls : List Call) :
    (performAll clock calls).1.TellsOf (calls.filterMap Call.batch?)
      (calls.filterMap Call.kind?) := by
  -- By induction from the end, where the last call is performed.
  induction calls using List.reverseRecOn with
  | nil => exact tellsOf_nil _
  | append_singleton calls call ih =>
    rw [performAll_concat, List.filterMap_append, List.filterMap_append]
    cases call with
    | accepted batch =>
      show TellsOf _ (_ ++ [batch]) (_ ++ [])
      rw [List.append_nil]
      exact ih.recordBatch batch
    | failed kind =>
      show TellsOf _ (_ ++ []) (_ ++ [kind])
      rw [List.append_nil]
      exact ih.recordFailure kind
    | shown =>
      show TellsOf _ (_ ++ []) (_ ++ [])
      rw [List.append_nil, List.append_nil]
      exact ih

/-- The clock of metrics that are collected by one. -/
theorem isReal_performAll {clock : Clock} (hclock : clock.IsReal) (calls : List Call) :
    (∃ x, (performAll clock calls).1.startTime = .float x) ∧ (performAll clock calls).2.IsReal := by
  induction calls using List.reverseRecOn with
  | nil => exact hclock.read
  | append_singleton calls call ih =>
    rw [performAll_concat]
    cases call with
    | accepted batch => exact ih
    | failed kind => exact ih
    | shown => exact ⟨ih.1, isReal_snapshot _ ih.2⟩

end Metrics

/-! ## 4. Snapshots -/

/-- Two snapshots that show the same but for the mean time, the time of the snapshot, and the order
of the failures. -/
structure Snapshot.Agrees (snapshot other : Snapshot) : Prop where
  batchesSent : snapshot.batchesSent = other.batchesSent
  totalEvents : snapshot.totalEvents = other.totalEvents
  totalBytes : snapshot.totalBytes = other.totalBytes
  averageBatchSize : snapshot.averageBatchSize = other.averageBatchSize
  slowSendMillis : snapshot.slowSendMillis = other.slowSendMillis
  names : (snapshot.failures.map Prod.fst).Nodup
  failures : snapshot.failures.Perm other.failures

namespace Metrics

variable {metrics metrics' : Metrics} {batches batches' : List Batch} {kinds kinds' : List Text}
  {times times' : List Binary64}

/-- The percentile is taken of the sorted times. -/
theorem percentile_eq_of_perm (hperm : times.Perm times') (hplain : ∀ x ∈ times, x.IsPlain)
    (percent : Number) :
    percentile (times.map .float) percent = percentile (times'.map .float) percent := by
  have hsort : Number.sort (times.map .float) = Number.sort (times'.map .float) := by
    apply Number.sort_eq_of_perm (hperm.map _)
    · rw [List.forall_mem_map]
      exact fun x hx => (hplain x hx).isFinite
    · rw [List.forall_mem_map]
      intro x hx
      rw [List.forall_mem_map]
      intro y hy hvalue
      rw [(hplain x hx).eq_of_value_eq (hplain y hy) hvalue]
  have hempty : (times.map Number.float).isEmpty = (times'.map Number.float).isEmpty := by
    rw [List.isEmpty_map, List.isEmpty_map, hperm.isEmpty_eq]
  rw [percentile, percentile, hsort, hempty]

theorem foldlM_add_float (x : Binary64) (times : List Binary64) :
    (times.map Number.float).foldlM Number.add (.float x) =
      .ok (.float (times.foldl Binary64.add x)) := by
  induction times generalizing x with
  | nil => rfl
  | cons time times ih =>
    rw [List.map_cons, List.foldlM_cons, Number.add_float, ok_bind, ih]
    rfl

theorem mean_float (x : Binary64) (n : Nat) :
    mean (.float x) (n + 1) = Number.ofIntRounded ((n + 1 : Nat) : Int) >>= fun rounded =>
      .ok (.div x rounded) := rfl

theorem sum_float (time : Binary64) (times : List Binary64) :
    Number.sum ((time :: times).map .float) =
      .ok (.float (times.foldl Binary64.add (.add (.zero false) time))) := by
  rw [List.map_cons, Number.sum, List.foldlM_cons, Number.add_zero_float, ok_bind,
    foldlM_add_float]

/-- The means of equally many times fail alike, as only their number may be too large. -/
theorem alike_mean (hlength : times.length = times'.length) :
    Alike (fun _ _ => True)
      (Number.sum (times.map .float) >>= fun total => mean total times.length)
      (Number.sum (times'.map .float) >>= fun total => mean total times'.length) := by
  cases times with
  | nil =>
    rw [List.length_eq_zero_iff.1 hlength.symm]
    exact (alike_of_eq rfl).bind fun _ _ _ => trivial
  | cons time times =>
    cases times' with
    | nil => cases hlength
    | cons time' times' =>
      rw [sum_float, sum_float, ok_bind, ok_bind, List.length_cons, List.length_cons, mean_float,
        mean_float, Nat.succ.inj hlength]
      exact (alike_of_eq rfl).bind fun _ _ _ => trivial

/-- Metrics that tell of the same batches and failures, in whatever order, have summaries that
agree. -/
theorem TellsOf.alike_summary (h : metrics.TellsOf batches kinds)
    (h' : metrics'.TellsOf batches' kinds') (hbatches : batches.Perm batches')
    (hkinds : kinds.Perm kinds') (hplain : ∀ batch ∈ batches, batch.millis.IsPlain) :
    Alike (fun shown shown' => ∀ now now', (shown now).Agrees (shown' now'))
      metrics.summary metrics'.summary := by
  have hcount : metrics.batchesSent = metrics'.batchesSent := by
    rw [h.batchesSent, h'.batchesSent, hbatches.length_eq]
  have hevents : metrics.totalEvents = metrics'.totalEvents := by
    rw [h.totalEvents, h'.totalEvents, (hbatches.map _).sum_eq]
  have hbytes : metrics.totalBytes = metrics'.totalBytes := by
    rw [h.totalBytes, h'.totalBytes, (hbatches.map _).sum_eq]
  have htimes := hbatches.map Batch.millis
  have hslow : percentile metrics.sendMillis slowPercent =
      percentile metrics'.sendMillis slowPercent := by
    rw [h.sendMillis, h'.sendMillis]
    exact percentile_eq_of_perm htimes (List.forall_mem_map.2 hplain) slowPercent
  have hmean := alike_mean htimes.length_eq
  rw [← List.length_map (f := Number.float), ← h.sendMillis,
    ← List.length_map (f := Number.float), ← h'.sendMillis] at hmean
  have hsize : mean (.int metrics.totalEvents) metrics.batchesSent =
      mean (.int metrics'.totalEvents) metrics'.batchesSent := by rw [hevents, hcount]
  unfold summary
  rw [← bind_assoc, ← bind_assoc]
  -- The mean times may differ, as the sums are rounded on the way; they are not compared.
  refine hmean.bind fun averageMillis averageMillis' _ => ?_
  refine (alike_of_eq hsize).bind fun averageSize averageSize' hsame => ?_
  refine (alike_of_eq hslow).bind fun slowMillis slowMillis' hsame' => ?_
  intro now now'
  exact ⟨hcount, hevents, hbytes, hsame, hsame', h.failures.names,
    h.failures.perm h'.failures hkinds⟩

/-- By a real clock only the summary can fail. -/
theorem exists_snapshot_fst (hstart : ∃ x, metrics.startTime = .float x) {clock : Clock}
    (hclock : clock.IsReal) :
    ∃ uptime, (metrics.snapshot clock).1 = metrics.summary >>= fun shown => .ok (shown uptime) := by
  obtain ⟨start, hstart⟩ := hstart
  obtain ⟨⟨now, hnow⟩, -⟩ := hclock.read
  refine ⟨.float (.sub now start), ?_⟩
  rw [snapshot]
  cases metrics.summary with
  | error fault => rfl
  | ok shown =>
    dsimp only
    rw [hnow, hstart, Number.sub_float]
    rfl

/-- What a call gives it gives as a record. -/
theorem filterMap_filter_isRecord {β : Type} {f : Call → Option β} (hf : f .shown = none)
    (calls : List Call) : (calls.filter Call.isRecord).filterMap f = calls.filterMap f := by
  rw [List.filterMap_filter]
  apply List.filterMap_congr
  rintro (batch | kind | _) _
  · rfl
  · rfl
  · exact hf.symm

theorem forall_batches {p : Batch → Prop} {calls : List Call}
    (h : ∀ batch, .accepted batch ∈ calls → p batch) :
    ∀ batch ∈ calls.filterMap Call.batch?, p batch := by
  intro batch hbatch
  obtain ⟨call, hcall, hsome⟩ := List.mem_filterMap.1 hbatch
  cases call with
  | accepted batch =>
    obtain rfl := Option.some.inj hsome
    exact h _ hcall
  | _ => cases hsome

/-- Two collectors of the same calls, but for their order and for snapshots in between, have
snapshots that agree, or fail alike. -/
theorem alike_snapshotAfter {calls calls' : List Call}
    (hperm : (calls.filter Call.isRecord).Perm (calls'.filter Call.isRecord))
    (hplain : ∀ batch, .accepted batch ∈ calls → batch.millis.IsPlain) {clock clock' : Clock}
    (hclock : clock.IsReal) (hclock' : clock'.IsReal) :
    Alike Snapshot.Agrees (snapshotAfter clock calls) (snapshotAfter clock' calls') := by
  have hbatches := hperm.filterMap Call.batch?
  have hkinds := hperm.filterMap Call.kind?
  rw [filterMap_filter_isRecord rfl, filterMap_filter_isRecord rfl] at hbatches hkinds
  have hplain := forall_batches hplain
  obtain ⟨hstart, hreal⟩ := isReal_performAll hclock calls
  obtain ⟨hstart', hreal'⟩ := isReal_performAll hclock' calls'
  obtain ⟨uptime, hsnapshot⟩ := exists_snapshot_fst hstart hreal
  obtain ⟨uptime', hsnapshot'⟩ := exists_snapshot_fst hstart' hreal'
  rw [snapshotAfter, snapshotAfter, hsnapshot, hsnapshot']
  have hsummary := (tellsOf_performAll clock calls).alike_summary (tellsOf_performAll clock' calls')
    hbatches hkinds hplain
  exact hsummary.bind fun _ _ h => h _ _

/-- Calls that fit in memory can be shown. -/
theorem exists_snapshotAfter {calls : List Call} (hlength : calls.length < 2 ^ 63)
    (hsizes : ∀ batch, .accepted batch ∈ calls → batch.events < 2 ^ 63 ∧ batch.bytes < 2 ^ 63)
    {clock : Clock} (hclock : clock.IsReal) :
    ∃ snapshot, snapshotAfter clock calls = .ok snapshot := by
  have htells := tellsOf_performAll clock calls
  have hsizes := forall_batches hsizes
  have hbatches := List.length_filterMap_le Call.batch? calls
  have hkinds := List.length_filterMap_le Call.kind? calls
  obtain ⟨hstart, hreal⟩ := isReal_performAll hclock calls
  rw [snapshotAfter]
  generalize performAll clock calls = state at htells hstart hreal ⊢
  generalize calls.filterMap Call.batch? = batches at htells hsizes hbatches
  generalize calls.filterMap Call.kind? = kinds at htells hkinds
  have hcount (size : Batch → Nat) : (batches.map size).length < 2 ^ 63 := by
    rw [List.length_map]
    omega
  have hevents := sum_lt (hcount Batch.events)
    (List.forall_mem_map.2 fun batch hbatch => (hsizes batch hbatch).1)
  have hbytes := sum_lt (hcount Batch.bytes)
    (List.forall_mem_map.2 fun batch hbatch => (hsizes batch hbatch).2)
  have hshowable : state.1.IsShowable := {
    startTime := hstart
    sendMillis := by
      rw [htells.sendMillis]
      exact List.forall_mem_map.2 fun x _ => ⟨x, rfl⟩
    length := by
      rw [htells.sendMillis, List.length_map, List.length_map]
      omega
    batchesSent := by
      rw [htells.batchesSent]
      omega
    totalEvents := by
      rw [htells.totalEvents, Int.natAbs_natCast]
      exact hevents
    totalBytes := by
      rw [htells.totalBytes, Json.isOversized_eq_false_iff, Int.natAbs_natCast]
      exact Json.lt_pow_ten hbytes (by decide)
    failures := by
      rintro ⟨kind, n⟩ hentry
      have hcount := (htells.failures.mem_iff.1 hentry).2
      have hle := List.count_le_length (a := kind) (l := kinds)
      show n < 2 ^ 63
      omega }
  obtain ⟨snapshot, hsnapshot, -⟩ := hshowable.exists_snapshot hreal
  exact ⟨snapshot, by rw [hsnapshot]⟩

/-- Collectors of the same calls, but for their order and for snapshots in between, have snapshots
that agree, or fail alike; and they have snapshots if the calls fit in memory. -/
theorem snapshot_ignores_order {calls calls' : List Call}
    (hperm : (calls.filter Call.isRecord).Perm (calls'.filter Call.isRecord))
    (hplain : ∀ batch, .accepted batch ∈ calls → batch.millis.IsPlain) {clock clock' : Clock}
    (hclock : clock.IsReal) (hclock' : clock'.IsReal) :
    Alike Snapshot.Agrees (snapshotAfter clock calls) (snapshotAfter clock' calls') ∧
    (calls.length < 2 ^ 63 →
      (∀ batch, .accepted batch ∈ calls → batch.events < 2 ^ 63 ∧ batch.bytes < 2 ^ 63) →
      ∃ snapshot other, snapshotAfter clock calls = .ok snapshot ∧
        snapshotAfter clock' calls' = .ok other ∧ snapshot.Agrees other) := by
  have halike := alike_snapshotAfter hperm hplain hclock hclock'
  refine ⟨halike, fun hlength hsizes => ?_⟩
  obtain ⟨snapshot, hsnapshot⟩ := exists_snapshotAfter hlength hsizes hclock
  rw [hsnapshot] at halike
  cases hother : snapshotAfter clock' calls' with
  | error fault =>
    rw [hother] at halike
    exact halike.elim
  | ok other =>
    rw [hother] at halike
    exact ⟨snapshot, other, hsnapshot, rfl, halike⟩

def sampleOrder : List Call := [
  .accepted ⟨10, 1000, .ofInt 5⟩, .failed "TransportError", .accepted ⟨30, 3000, .ofInt 15⟩,
  .failed "ProtocolError", .failed "TransportError"]

/-- The calls from the last to the first, with a snapshot before each. -/
def sampleReversed : List Call :=
  sampleOrder.reverse.flatMap fun call => [.shown, call]

theorem sample_order :
    ∃ snapshot other, snapshotAfter {} sampleOrder = .ok snapshot ∧
      snapshotAfter {} sampleReversed = .ok other ∧ snapshot.Agrees other := by
  have hclock : ({} : Clock).IsReal := ⟨⟨_, rfl⟩, nofun⟩
  have hmembers : ∀ batch, .accepted batch ∈ sampleOrder →
      batch = ⟨10, 1000, .ofInt 5⟩ ∨ batch = ⟨30, 3000, .ofInt 15⟩ := by
    simp [sampleOrder]
  have hperm : (sampleOrder.filter Call.isRecord).Perm (sampleReversed.filter Call.isRecord) := by
    decide +kernel
  refine (snapshot_ignores_order hperm ?_ hclock hclock).2 (by decide) ?_
  · intro batch hbatch
    rcases hmembers batch hbatch with rfl | rfl
    · decide +kernel
    · decide +kernel
  · intro batch hbatch
    rcases hmembers batch hbatch with rfl | rfl
    · decide +kernel
    · decide +kernel

end Metrics

end LogShipper
