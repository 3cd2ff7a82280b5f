import LogShipper.Proofs.Json.Sizes
import LogShipper.Proofs.Metrics.Percentile
import LogShipper.Proofs.Shipper.Calls

/-!
# Metrics that can be shown

A snapshot can be taken, and its numbers can be written, as long as times are floating point numbers
and the counts are those of things in memory.
-/

namespace LogShipper

namespace Metrics

/-! ## 1. The percentile -/

/-- Times that are all floating point numbers. -/
def AreReal (times : List Number) : Prop :=
  ∀ time ∈ times, ∃ x, time = .float x

theorem AreReal.perm {times sorted : List Number} (h : AreReal times) (hperm : sorted.Perm times) :
    AreReal sorted :=
  fun time ht => h time (hperm.mem_iff.1 ht)

theorem exists_percentile {times : List Number} (hreal : AreReal times)
    (hsize : times.length < 2 ^ 63) : ∃ x, percentile times slowPercent = .ok x := by
  rcases eq_or_ne times [] with rfl | hne
  · exact ⟨.zero false, rfl⟩
  · obtain ⟨low, high, weight, htaken⟩ := exists_takenBetween_slow hne hsize
    obtain ⟨below, above, hbelow, habove, hpercentile⟩ := htaken.items
    -- Of sorting nothing counts but that the items stay the same.
    have hsorted := hreal.perm (Number.sort_perm times)
    obtain ⟨x, rfl⟩ := hsorted below (List.mem_of_getElem? hbelow)
    obtain ⟨y, rfl⟩ := hsorted above (List.mem_of_getElem? habove)
    exact ⟨.add x (.mul (.sub y x) weight), hpercentile⟩

/-! ## 2. Snapshots -/

/-- Metrics with times that are floating point numbers, and with counts that fit in memory. -/
structure IsShowable (metrics : Metrics) : Prop where
  startTime : ∃ x, metrics.startTime = .float x
  sendMillis : AreReal metrics.sendMillis
  length : metrics.sendMillis.length < 2 ^ 63
  batchesSent : metrics.batchesSent < 2 ^ 63
  totalEvents : metrics.totalEvents.natAbs < 2 ^ 126
  totalBytes : Integer.isOversized metrics.totalBytes = false
  failures : ∀ entry ∈ metrics.failures, entry.2 < 2 ^ 63

theorem exists_sum {times : List Number} (hreal : AreReal times) :
    ∃ total, Number.sum times = .ok total ∧ (total = .int 0 ∨ ∃ x, total = .float x) := by
  -- The sum starts as the integer zero, and is a floating point number from the first item on.
  suffices hs : ∀ before : Number, (before = .int 0 ∨ ∃ x, before = .float x) →
      ∃ total, times.foldlM Number.add before = .ok total ∧
        (total = .int 0 ∨ ∃ x, total = .float x) from hs _ (.inl rfl)
  induction times with
  | nil => exact fun before hbefore => ⟨before, rfl, hbefore⟩
  | cons time times ih =>
    intro before hbefore
    obtain ⟨x, rfl⟩ := hreal time List.mem_cons_self
    have hrest := ih fun t ht => hreal t (List.mem_cons_of_mem _ ht)
    obtain ⟨y, hy⟩ : ∃ y, Number.add before (.float x) = .ok (.float y) := by
      rcases hbefore with rfl | ⟨w, rfl⟩
      · exact ⟨_, Number.add_zero_float x⟩
      · exact ⟨_, Number.add_float w x⟩
    rw [List.foldlM_cons, hy, ok_bind]
    exact hrest _ (.inr ⟨y, rfl⟩)

theorem exists_mean {total : Number} {n : Nat} (hn : n < 2 ^ 63)
    (h : (∃ m : Int, m.natAbs < 2 ^ 126 ∧ total = .int m) ∨ ∃ x, total = .float x) :
    ∃ x, mean total n = .ok x := by
  cases n with
  | zero => exact ⟨_, rfl⟩
  | succ n =>
    show ∃ x, total.divNat (n + 1) = .ok x
    rcases h with ⟨m, hm, rfl⟩ | ⟨x, rfl⟩
    · exact Number.exists_divNat_int n.succ_pos (by omega)
    · exact Number.exists_divNat_float x (by omega)

theorem IsShowable.exists_summary {metrics : Metrics} (h : metrics.IsShowable) :
    ∃ averageSize averageMillis slowMillis : Binary64, metrics.summary = .ok fun uptimeSeconds =>
      ⟨metrics.batchesSent, metrics.totalEvents, metrics.totalBytes, averageSize, averageMillis,
        slowMillis, metrics.failures, uptimeSeconds⟩ := by
  obtain ⟨total, htotal, hkind⟩ := exists_sum h.sendMillis
  obtain ⟨averageMillis, hmillis⟩ := exists_mean h.length
    (hkind.imp_left fun hzero => ⟨0, by decide, hzero⟩)
  obtain ⟨averageSize, hsize⟩ := exists_mean h.batchesSent
    (.inl ⟨metrics.totalEvents, h.totalEvents, rfl⟩)
  obtain ⟨slowMillis, hslow⟩ := exists_percentile h.sendMillis h.length
  refine ⟨averageSize, averageMillis, slowMillis, ?_⟩
  rw [summary, htotal, ok_bind, hmillis, ok_bind, hsize, ok_bind, hslow, ok_bind]
  rfl

end Metrics

namespace Json

theorem lt_pow_ten {n bits digits : Nat} (h : n < 2 ^ bits) (hle : bits ≤ digits) :
    n < Nat.pow 10 digits :=
  calc n < 2 ^ bits := h
    _ ≤ 10 ^ bits := Nat.pow_le_pow_left (by decide) bits
    _ ≤ 10 ^ digits := Nat.pow_le_pow_right (by decide) hle

theorem hasOversized_int {n : Int} (h : n.natAbs < 2 ^ 126) : (int n).hasOversized = false := by
  rw [hasOversized, isOversized_eq_false_iff]
  exact lt_pow_ten h (by decide)

end Json

/-- A snapshot is taken, shows the counts, and can be written. -/
theorem Metrics.IsShowable.exists_snapshot {metrics : Metrics} (h : metrics.IsShowable)
    {clock : Clock} (hclock : clock.IsReal) :
    ∃ snapshot, metrics.snapshot clock = (.ok snapshot, clock.read.2) ∧
      snapshot.batchesSent = metrics.batchesSent ∧ snapshot.totalBytes = metrics.totalBytes ∧
      snapshot.document.hasOversized = false := by
  obtain ⟨averageSize, averageMillis, slowMillis, hsummary⟩ := h.exists_summary
  obtain ⟨start, hstart⟩ := h.startTime
  obtain ⟨⟨now, hnow⟩, -⟩ := hclock.read
  refine ⟨⟨metrics.batchesSent, metrics.totalEvents, metrics.totalBytes, averageSize,
    averageMillis, slowMillis, metrics.failures, .float (.sub now start)⟩, ?_, rfl, rfl, ?_⟩
  · rw [Metrics.snapshot, hsummary]
    dsimp only
    rw [hnow, hstart, Number.sub_float]
    rfl
  · -- All numbers of the document are counts, which are small, or no integers.
    have hbatches := h.batchesSent
    refine Json.anyMemberOversized_eq_false_iff.2 ?_
    simp only [List.forall_mem_cons]
    refine ⟨Json.hasOversized_int (by omega), Json.hasOversized_int h.totalEvents,
      h.totalBytes, rfl, rfl, rfl, Json.anyMemberOversized_eq_false_iff.2 ?_, rfl,
      List.forall_mem_nil _⟩
    intro m hm
    obtain ⟨entry, he, rfl⟩ := List.mem_map.1 hm
    have hfailures := h.failures entry he
    exact Json.hasOversized_int (by omega)

/-! ## 3. Bounds -/

namespace Metrics

theorem sum_lt {sizes : List Nat} (hlength : sizes.length < 2 ^ 63)
    (h : ∀ size ∈ sizes, size < 2 ^ 63) : sizes.sum < 2 ^ 126 := by
  have hsum : sizes.sum ≤ sizes.length * 2 ^ 63 :=
    List.sum_le_card_nsmul sizes (2 ^ 63) fun size hmem => Nat.le_of_lt (h size hmem)
  omega

/-- Metrics of a number of puts, for which the events and bytes that were sent are bounded. -/
structure IsWithin (metrics : Metrics) (puts events bytes : Nat) : Prop where
  startTime : ∃ x, metrics.startTime = .float x
  sendMillis : AreReal metrics.sendMillis
  length : metrics.sendMillis.length ≤ puts
  batchesSent : metrics.batchesSent ≤ puts
  totalEvents : metrics.totalEvents.natAbs ≤ events
  totalBytes : metrics.totalBytes.natAbs ≤ bytes
  failures : ∀ entry ∈ metrics.failures, entry.2 ≤ puts

variable {metrics : Metrics} {puts events bytes : Nat}

theorem IsWithin.of_new {now : Number} (h : ∃ x, now = .float x) :
    IsWithin { startTime := now } 0 0 0 where
  startTime := h
  sendMillis := nofun
  length := Nat.le_refl 0
  batchesSent := Nat.le_refl 0
  totalEvents := Nat.le_refl 0
  totalBytes := Nat.le_refl 0
  failures := nofun

theorem IsWithin.mono {puts' events' bytes' : Nat} (h : metrics.IsWithin puts events bytes)
    (hputs : puts ≤ puts') (hevents : events ≤ events') (hbytes : bytes ≤ bytes') :
    metrics.IsWithin puts' events' bytes' where
  startTime := h.startTime
  sendMillis := h.sendMillis
  length := h.length.trans hputs
  batchesSent := h.batchesSent.trans hputs
  totalEvents := h.totalEvents.trans hevents
  totalBytes := h.totalBytes.trans hbytes
  failures entry he := (h.failures entry he).trans hputs

theorem IsWithin.recordBatch (h : metrics.IsWithin puts events bytes) (count size : Nat)
    (millis : Binary64) :
    (metrics.recordBatch count size (.float millis)).IsWithin (puts + 1) (events + count)
      (bytes + size) where
  startTime := h.startTime
  sendMillis time ht := by
    rcases List.mem_append.1 ht with ht | ht
    · exact h.sendMillis time ht
    · exact ⟨millis, List.mem_singleton.1 ht⟩
  length := by
    rw [Metrics.recordBatch, List.length_append, List.length_singleton]
    exact Nat.succ_le_succ h.length
  batchesSent := Nat.succ_le_succ h.batchesSent
  totalEvents := by
    have hbefore := h.totalEvents
    simp only [Metrics.recordBatch]
    omega
  totalBytes := by
    have hbefore := h.totalBytes
    simp only [Metrics.recordBatch]
    omega
  failures entry he := (h.failures entry he).trans (Nat.le_succ puts)

theorem le_of_mem_count {kind : Text} {failures : List (Text × Nat)}
    (h : ∀ entry ∈ failures, entry.2 ≤ puts) :
    ∀ entry ∈ count kind failures, entry.2 ≤ puts + 1 := by
  induction failures with
  | nil => simp [count]
  | cons first rest ih =>
    rw [List.forall_mem_cons] at h
    rw [count]
    split
    · rw [List.forall_mem_cons]
      exact ⟨Nat.succ_le_succ h.1, fun entry he => (h.2 entry he).trans (Nat.le_succ puts)⟩
    · rw [List.forall_mem_cons]
      exact ⟨h.1.trans (Nat.le_succ puts), ih h.2⟩

theorem IsWithin.recordFailure (h : metrics.IsWithin puts events bytes) (kind : Text) :
    (metrics.recordFailure kind).IsWithin (puts + 1) events bytes where
  startTime := h.startTime
  sendMillis := h.sendMillis
  length := h.length.trans (Nat.le_succ puts)
  batchesSent := h.batchesSent.trans (Nat.le_succ puts)
  totalEvents := h.totalEvents
  totalBytes := h.totalBytes
  failures := le_of_mem_count h.failures

theorem IsWithin.isShowable (h : metrics.IsWithin puts events bytes) (hputs : puts < 2 ^ 63)
    (hevents : events < 2 ^ 126) (hbytes : bytes < 2 ^ 126) : metrics.IsShowable where
  startTime := h.startTime
  sendMillis := h.sendMillis
  length := h.length.trans_lt hputs
  batchesSent := h.batchesSent.trans_lt hputs
  totalEvents := h.totalEvents.trans_lt hevents
  totalBytes := by
    rw [Json.isOversized_eq_false_iff]
    exact Json.lt_pow_ten (h.totalBytes.trans_lt hbytes) (by decide)
  failures entry he := (h.failures entry he).trans_lt hputs

end Metrics

/-- A shipper whose metrics can be shown is stopped, and reports them. -/
theorem Shipper.exists_stop_eq {shipper : Shipper} {services : Services}
    (hmetrics : shipper.metrics.IsShowable) (hclock : services.clock.IsReal)
    (hstopped : shipper.isStopped = false) :
    ∃ snapshot, shipper.stop services = ⟨.ok (), shipper.stopped,
        { services with clock := services.clock.read.2 }.report (.finalMetrics snapshot)⟩ ∧
      snapshot.batchesSent = shipper.metrics.batchesSent ∧
      snapshot.totalBytes = shipper.metrics.totalBytes := by
  obtain ⟨snapshot, hsnapshot, hbatches, hbytes, hsize⟩ := hmetrics.exists_snapshot hclock
  refine ⟨snapshot, ?_, hbatches, hbytes⟩
  have hshown : ¬ snapshot.document.hasOversized = true := Bool.eq_false_iff.1 hsize
  rw [stop_eq hstopped, hsnapshot]
  dsimp only
  rw [metricsNotice?, if_neg hshown]
  rfl

/-- A shipper whose metrics can be shown is stopped without a fault. -/
theorem Shipper.stop_of_isShowable {shipper : Shipper} {services : Services}
    (hmetrics : shipper.metrics.IsShowable) (hclock : services.clock.IsReal) :
    (shipper.stop services).result = .ok () := by
  cases hstopped : shipper.isStopped with
  | true => rw [stop_again hstopped]
  | false =>
    obtain ⟨snapshot, heq, -⟩ := exists_stop_eq hmetrics hclock hstopped
    rw [heq]

end LogShipper
