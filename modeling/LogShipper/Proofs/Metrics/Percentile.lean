import LogShipper.Metrics
import LogShipper.Proofs.Except
import LogShipper.Proofs.Number.Overflow
import LogShipper.Proofs.Number.Quotient
import LogShipper.Proofs.Number.Sorting

/-!
# Percentiles stay in range

The place of a percentile is a quotient that is rounded.  Its integer part is exact as long as the
product is an integer of at most 53 binary digits, so that both items between which the percentile
lies are in the list.  The percentile of a snapshot is far enough from the end for any list.  So
what can fail is the arithmetic with numbers that are too large, but no item is ever missed.
-/

namespace LogShipper

/-! ## 1. Operations on numbers -/

/-- Whether a fault is that a number is too large. -/
def ArithmeticFault.IsOverflow (fault : ArithmeticFault) : Prop :=
  fault = .integerTooLarge ∨ fault = .quotientTooLarge

namespace Number

theorem add_float (x y : Binary64) : add (.float x) (.float y) = .ok (.float (.add x y)) := rfl

theorem sub_float (x y : Binary64) : sub (.float x) (.float y) = .ok (.float (.sub x y)) := rfl

theorem add_zero_float (x : Binary64) :
    add (.int 0) (.float x) = .ok (.float (.add (.zero false) x)) := rfl

theorem sub_float_int {n : Int} {rounded : Binary64} (x : Binary64)
    (h : ofIntRounded n = .ok rounded) :
    sub (.float x) (.int n) = .ok (.float (.sub x rounded)) := by
  show (do return Number.float (.sub x (← ofIntRounded n))) = _
  rw [h, ok_bind]
  rfl

theorem mul_int_float {n : Int} {rounded : Binary64} (x : Binary64)
    (h : ofIntRounded n = .ok rounded) :
    mul (.int n) (.float x) = .ok (.float (.mul rounded x)) := by
  show (do return Number.float (.mul (← ofIntRounded n) x)) = _
  rw [h, ok_bind]
  rfl

theorem truncate_of_truncate? {x : Binary64} {n : Int} (h : x.truncate? = some n) :
    truncate (.float x) = .ok n := by
  cases x with
  | infinite _ => cases h
  | nan => cases h
  | finite negative rank =>
    show Except.ok (((Binary64.finite negative rank).truncate?).getD 0) = _
    rw [h]
    rfl

theorem eq_of_extended? {x : Number} {p : Nat} (h : x.extended? = some (.inl (p : ℚ))) :
    x = .int p ∨ ∃ y, x = .float y ∧ y.toRat? = some (p : ℚ) := by
  cases x with
  | int n =>
    have hcast : (n : ℚ) = p := Sum.inl.inj (Option.some.inj h)
    exact .inl (congrArg Number.int (by exact_mod_cast hcast))
  | float y =>
    cases y with
    | infinite _ => cases h
    | nan => cases h
    | finite negative rank => exact .inr ⟨_, rfl, congrArg some (Sum.inl.inj (Option.some.inj h))⟩

variable {x y : Number} {fault : ArithmeticFault}

theorem fault_of_toFloat (h : x.toFloat = .error fault) : fault = .integerTooLarge := by
  cases x with
  | int n => exact (ofIntRounded_eq_error_iff.1 h).1
  | float _ => cases h

theorem fault_of_combine {onInt : Int → Int → Int} {onFloat : Binary64 → Binary64 → Binary64}
    (h : combine onInt onFloat x y = .error fault) : fault = .integerTooLarge := by
  -- Unless both are integers, both are rounded first.
  have hrounded (h : (do return Number.float (onFloat (← x.toFloat) (← y.toFloat))) =
      Except.error fault) : fault = .integerTooLarge := by
    rcases bind_eq_error_iff.1 h with hx | ⟨_, -, h⟩
    · exact fault_of_toFloat hx
    · rcases bind_eq_error_iff.1 h with hy | ⟨_, -, h⟩
      · exact fault_of_toFloat hy
      · cases h
  cases x with
  | float _ => exact hrounded h
  | int _ =>
    cases y with
    | float _ => exact hrounded h
    | int _ => cases h

theorem fault_of_sum {data : List Number} (h : sum data = .error fault) :
    fault = .integerTooLarge := by
  -- The induction needs the sum to start anywhere.
  suffices hs : ∀ before : Number, data.foldlM add before = .error fault →
      fault = .integerTooLarge from hs _ h
  clear h
  induction data with
  | nil => exact fun _ h => nomatch h
  | cons first rest ih =>
    intro before h
    rw [List.foldlM_cons] at h
    rcases bind_eq_error_iff.1 h with h | ⟨next, -, h⟩
    · exact fault_of_combine h
    · exact ih next h

theorem fault_of_divNat {n : Nat} (h : x.divNat n = .error fault) : fault.IsOverflow := by
  cases x with
  | int m =>
    rw [divNat] at h
    split at h
    · cases h
    · exact .inr (Except.error.inj h).symm
  | float x =>
    rcases bind_eq_error_iff.1 h with h | ⟨_, -, h⟩
    · exact .inl (ofIntRounded_eq_error_iff.1 h).1
    · cases h

end Number

namespace Metrics

/-! ## 2. Items of the sorted list -/

theorem placeBound_eq : placeBound = 2 ^ 63 := by decide

theorem itemAt_of_getElem? {data : List Number} {place : Nat} {x : Number}
    (h : data[place]? = some x) (hsize : data.length < 2 ^ 63) : itemAt data place = .ok x := by
  have hlt := (List.getElem?_eq_some_iff.1 h).1
  have hbound : ¬ ((place : Int) < -placeBound ∨ placeBound ≤ place) := by
    rw [placeBound_eq]
    omega
  have hnonneg : ¬ (place : Int) < 0 := by omega
  unfold itemAt
  dsimp only
  rw [if_neg hbound, if_neg hnonneg, if_neg hnonneg, Int.toNat_natCast, h]

/-- The number as far on the way from one number to another as the weight says. -/
def between (below above weight : Number) : Except ArithmeticFault Binary64 := do
  let step ← above.sub below
  (← below.add (← step.mul weight)).toFloat

/-- How a percentile is taken of a list: its place has an integer part and a rest, and it lies
between two items of the sorted list. -/
structure TakenBetween (data : List Number) (percent : Number) (low high : Nat)
    (weight : Binary64) : Prop where
  place : ∃ position, percentilePosition data.length percent = .ok position ∧
    (Number.float position).truncate = .ok low ∧
    Number.sub (.float position) (.int low) = .ok (.float weight)
  items : ∃ below above, (Number.sort data)[low]? = some below ∧
    (Number.sort data)[high]? = some above ∧
    percentile data percent = between below above (.float weight)

variable {data : List Number} {percent : Number} {position rounded weight : Binary64}
  {low high : Nat} {fault : ArithmeticFault}

theorem takenBetween (hposition : percentilePosition data.length percent = .ok position)
    (hlow : (Number.float position).truncate = .ok low)
    (hrounded : Number.ofIntRounded low = .ok rounded) (hlt : low < data.length)
    (hsize : data.length < 2 ^ 63) :
    TakenBetween data percent low (min (low + 1) (data.length - 1)) (.sub position rounded) := by
  -- Sorting keeps the number of items, so places can be counted in the list as it was given.
  have hlength := (Number.sort_perm data).length_eq
  have hempty : ¬ data.isEmpty = true := by
    rw [List.isEmpty_iff_length_eq_zero]
    omega
  obtain ⟨below, hbelow⟩ : ∃ below, (Number.sort data)[low]? = some below :=
    ⟨_, List.getElem?_eq_getElem (by omega)⟩
  obtain ⟨above, habove⟩ : ∃ above,
      (Number.sort data)[min (low + 1) (data.length - 1)]? = some above :=
    ⟨_, List.getElem?_eq_getElem (by omega)⟩
  refine ⟨⟨position, hposition, hlow, Number.sub_float_int _ hrounded⟩,
    below, above, hbelow, habove, ?_⟩
  have hsorted : (Number.sort data).length < 2 ^ 63 := by omega
  -- The higher place is computed among the integers, where it is the same number.
  have hhigh : min ((low : Int) + 1) ((data.length : Int) - 1) =
      (min (low + 1) (data.length - 1) : Nat) := by omega
  rw [percentile, if_neg hempty]
  dsimp only
  rw [hlength, hposition, ok_bind, hlow, ok_bind, itemAt_of_getElem? hbelow hsorted, ok_bind,
    hhigh, itemAt_of_getElem? habove hsorted, ok_bind, Number.sub_float_int _ hrounded]
  rfl

theorem fault_of_between {below above weight : Number}
    (h : between below above weight = .error fault) : fault = .integerTooLarge := by
  rcases bind_eq_error_iff.1 h with h | ⟨step, -, h⟩
  · exact Number.fault_of_combine h
  rcases bind_eq_error_iff.1 h with h | ⟨part, -, h⟩
  · exact Number.fault_of_combine h
  rcases bind_eq_error_iff.1 h with h | ⟨result, -, h⟩
  · exact Number.fault_of_combine h
  · exact Number.fault_of_toFloat h

theorem TakenBetween.fault_eq (h : TakenBetween data percent low high weight)
    (hfault : percentile data percent = .error fault) : fault = .integerTooLarge := by
  obtain ⟨below, above, -, -, heq⟩ := h.items
  rw [heq] at hfault
  exact fault_of_between hfault

/-! ## 3. Places -/

theorem percentilePosition_int (m p : Nat) :
    percentilePosition (m + 1) (.int p) = Number.divNat (.int ((m * p : Nat) : Int)) 100 := by
  have hproduct : Number.mul (.int (((m + 1 : Nat) : Int) - 1)) (.int p) =
      .ok (.int ((m * p : Nat) : Int)) := by
    rw [Number.mul, Number.combine, Nat.cast_succ, Int.add_sub_cancel, Int.natCast_mul]
  rw [percentilePosition, hproduct, ok_bind]

/-- The place of a whole percentage, be it an integer or a floating point number. -/
theorem exists_percentilePosition_hasFloor {m p : Nat}
    (hpercent : percent.extended? = some (.inl (p : ℚ))) (hm : m < 2 ^ 53)
    (hproduct : m * p < 2 ^ 53) :
    ∃ position, percentilePosition (m + 1) percent = .ok position ∧
      position.HasFloor (m * p) 100 := by
  rcases Number.eq_of_extended? hpercent with rfl | ⟨y, rfl, hy⟩
  · rw [percentilePosition_int]
    exact Number.exists_divNat_int_hasFloor hproduct (by decide) (by decide)
  · -- Here the last place is rounded and the product too, but neither changes by that.
    obtain ⟨factor, hfactor, hvalue⟩ := Number.exists_ofIntRounded_toRat? hm
    have hmul : Number.mul (.int (((m + 1 : Nat) : Int) - 1)) (.float y) =
        .ok (.float (.mul factor y)) := by
      rw [Nat.cast_succ, Int.add_sub_cancel]
      exact Number.mul_int_float y hfactor
    rw [percentilePosition, hmul, ok_bind]
    exact Number.exists_divNat_float_hasFloor (Binary64.toRat?_mul hvalue hy hproduct) hproduct
      (by decide) (by decide)

/-- The percentile of a whole percentage is taken at exact places, and if its place is an integer,
there is no rest. -/
theorem exists_takenBetween {m p : Nat} (hlength : data.length = m + 1)
    (hpercent : percent.extended? = some (.inl (p : ℚ))) (hm : m < 2 ^ 53) (hp : p ≤ 100)
    (hproduct : m * p < 2 ^ 53) :
    ∃ weight, TakenBetween data percent (m * p / 100) (min (m * p / 100 + 1) m) weight ∧
      (100 ∣ m * p → weight.toRat? = some 0) := by
  obtain ⟨position, hposition, hfloor⟩ :=
    exists_percentilePosition_hasFloor hpercent hm hproduct
  have hle : m * p / 100 ≤ m := by
    have hmul : m * p ≤ m * 100 := Nat.mul_le_mul_left m hp
    omega
  obtain ⟨rounded, hrounded, hvalue⟩ :=
    Number.exists_ofIntRounded_toRat? (n := m * p / 100) (by omega)
  rw [← hlength] at hposition
  have htaken := takenBetween hposition (Number.truncate_of_truncate? hfloor.truncate?_eq) hrounded
    (by omega) (by omega)
  rw [hlength, Nat.add_sub_cancel] at htaken
  refine ⟨_, htaken, fun hdvd => ?_⟩
  -- The place is its own integer part, and that is not changed when the rest is computed.
  obtain ⟨q, hq, -, -, hexact⟩ := hfloor
  rw [hexact hdvd] at hq
  exact Binary64.toRat?_sub_self hq hvalue

theorem cast_slow (m : Nat) : ((m * 95 : Nat) : ℚ) / (100 : Nat) = 95 / 100 * m := by
  push_cast
  ring

theorem cast_slow_lt {m : Nat} (hm : m < 2 ^ 63) :
    ((m * 95 : Nat) : ℚ) / (100 : Nat) < 2 ^ (1023 : Int) := by
  refine lt_of_le_of_lt ?_ (Number.cast_lt_bound (n := m) (by omega))
  have hnonneg : (0 : ℚ) ≤ m := Nat.cast_nonneg m
  rw [cast_slow]
  linarith

/-- The place of the percentile in a snapshot, though rounded, stays below the last one. -/
theorem magnitude_slow_lt {m : Nat} (hm : 0 < m) :
    Binary64.magnitude (Binary64.nearestRank (m * 95) 100) < m := by
  have hone : (1 : ℚ) ≤ m := by exact_mod_cast hm
  have hnum : 0 < m * 95 := by omega
  have hsmall : (2 : ℚ) ^ (-1022 : Int) ≤ ((m * 95 : Nat) : ℚ) / (100 : Nat) := by
    refine le_trans (zpow_le_zpow_right₀ one_le_two (by decide : (-1022 : Int) ≤ -1)) ?_
    rw [cast_slow, zpow_neg_one]
    linarith
  have hscale := Binary64.two_zpow_scale_le hnum (by decide : 0 < 100) hsmall
  have herror :=
    (abs_le.1 (Binary64.abs_magnitude_nearestRank_sub_le hnum (by decide : 0 < 100))).2
  rw [cast_slow] at hscale herror
  -- The error is far less than the twentieth part of `m` that is to spare.
  linarith

theorem exists_percentilePosition_slow {m : Nat} (hm : m < 2 ^ 63) :
    ∃ position, percentilePosition (m + 1) slowPercent = .ok position ∧
      ∃ low : Nat, (Number.float position).truncate = .ok low ∧ low < m + 1 := by
  have hslow : slowPercent = .int (95 : Nat) := rfl
  rw [hslow, percentilePosition_int]
  rcases Nat.eq_zero_or_pos m with rfl | hpos
  -- A list of one item has place zero, which is not rounded at all.
  · exact ⟨.zero false, rfl, 0, by decide +kernel, Nat.one_pos⟩
  · have hrank := Binary64.ofQuotient_eq false (show 0 < m * 95 by omega) (by decide : 0 < 100)
      (cast_slow_lt hm)
    generalize hposition : Binary64.ofQuotient false (m * 95) 100 = position at hrank
    have hfloor : 0 ≤ (Binary64.magnitude (Binary64.nearestRank (m * 95) 100)).floor :=
      Rat.le_floor_iff.2 (by exact_mod_cast Binary64.magnitude_nonneg _)
    have hbelow : (Binary64.magnitude (Binary64.nearestRank (m * 95) 100)).floor < (m : Int) :=
      Rat.floor_lt_iff.2 (by exact_mod_cast magnitude_slow_lt hpos)
    obtain ⟨low, hlow⟩ := Int.eq_ofNat_of_zero_le hfloor
    refine ⟨position, ?_, low, Number.truncate_of_truncate? ?_, by omega⟩
    · have hneg : decide (((m * 95 : Nat) : Int) < 0) = false := decide_eq_false (by omega)
      rw [Number.divNat, hneg, Int.natAbs_natCast, hposition, hrank]
    · rw [hrank, Binary64.truncate?, hlow]
      rfl

/-- The percentile of a snapshot is taken within any list. -/
theorem exists_takenBetween_slow (hne : data ≠ []) (hsize : data.length < 2 ^ 63) :
    ∃ low high weight, TakenBetween data slowPercent low high weight := by
  obtain ⟨m, hlength⟩ : ∃ m, data.length = m + 1 :=
    ⟨data.length - 1, by have hpos := List.length_pos_iff.2 hne; omega⟩
  obtain ⟨position, hposition, low, hlow, hlt⟩ := exists_percentilePosition_slow (m := m) (by omega)
  obtain ⟨rounded, hrounded⟩ := Number.exists_ofIntRounded (n := low) (by omega)
  rw [← hlength] at hposition
  exact ⟨_, _, _, takenBetween hposition hlow hrounded (by omega) hsize⟩

/-! ## 4. Snapshots -/

variable {metrics : Metrics}

theorem fault_of_mean {total : Number} {n : Nat} (h : mean total n = .error fault) :
    fault.IsOverflow := by
  cases n with
  | zero => cases h
  | succ n => exact Number.fault_of_divNat h

theorem fault_of_summary (hsize : metrics.sendMillis.length < 2 ^ 63)
    (h : metrics.summary = .error fault) : fault.IsOverflow := by
  -- The sum of the times, their mean, the mean size of a batch, and the percentile.
  rcases bind_eq_error_iff.1 h with h | ⟨total, -, h⟩
  · exact .inl (Number.fault_of_sum h)
  rcases bind_eq_error_iff.1 h with h | ⟨averageMillis, -, h⟩
  · exact fault_of_mean h
  rcases bind_eq_error_iff.1 h with h | ⟨averageSize, -, h⟩
  · exact fault_of_mean h
  rcases bind_eq_error_iff.1 h with h | ⟨slowMillis, -, h⟩
  · rcases eq_or_ne metrics.sendMillis [] with hempty | hne
    · rw [hempty] at h
      cases h
    · obtain ⟨low, high, weight, htaken⟩ := exists_takenBetween_slow hne hsize
      exact .inl (htaken.fault_eq h)
  · cases h

theorem fault_of_snapshot {clock : Clock} (hsize : metrics.sendMillis.length < 2 ^ 63)
    (h : (metrics.snapshot clock).1 = .error fault) : fault.IsOverflow := by
  rw [snapshot] at h
  cases hsummary : metrics.summary with
  | error other =>
    rw [hsummary] at h
    obtain rfl := Except.error.inj h
    exact fault_of_summary hsize hsummary
  | ok shown =>
    rw [hsummary] at h
    dsimp only at h
    cases huptime : clock.read.1.sub metrics.startTime with
    | error other =>
      rw [huptime] at h
      obtain rfl := Except.error.inj h
      exact .inl (Number.fault_of_combine huptime)
    | ok uptime =>
      rw [huptime] at h
      cases h

/-- What is recorded of a batch, with any numbers. -/
structure Entry where
  events : Int
  bytes : Int
  millis : Number
  deriving DecidableEq, Repr

/-- The metrics after some more batches. -/
def recordAll (metrics : Metrics) (entries : List Entry) : Metrics :=
  entries.foldl (fun metrics entry => metrics.recordBatch entry.events entry.bytes entry.millis)
    metrics

/-- With each batch its time is added. -/
theorem sendMillis_recordAll (metrics : Metrics) (entries : List Entry) :
    (metrics.recordAll entries).sendMillis = metrics.sendMillis ++ entries.map Entry.millis := by
  induction entries generalizing metrics with
  | nil => exact (List.append_nil _).symm
  | cons entry entries ih =>
    rw [recordAll, List.foldl_cons, ← recordAll, ih, recordBatch, List.append_assoc, List.map_cons]
    rfl

/-! ## 5. The range -/

/-- The percentile of a whole percentage is taken at the exact places, which are places of the
sorted list, and with no rest if the place is an integer.  Neither a percentile nor a snapshot,
whatever was recorded before, fails for any other reason than that numbers are too large. -/
theorem percentile_stays_in_range {p : Nat} (hne : data ≠ []) (hlength : data.length ≤ 2 ^ 40)
    (hpercent : percent.extended? = some (.inl (p : ℚ))) (hp : p ≤ 100) :
    (∃ weight,
      TakenBetween data percent ((data.length - 1) * p / 100)
        (min ((data.length - 1) * p / 100 + 1) (data.length - 1)) weight ∧
      (100 ∣ (data.length - 1) * p → weight.toRat? = some 0)) ∧
    (∀ fault, percentile data percent = .error fault → fault.IsOverflow) ∧
    ∀ (metrics : Metrics) (entries : List Entry) (clock : Clock) (fault : ArithmeticFault),
      metrics.sendMillis.length + entries.length < 2 ^ 63 →
      ((metrics.recordAll entries).snapshot clock).1 = .error fault → fault.IsOverflow := by
  have hpos : 0 < data.length := List.length_pos_iff.2 hne
  have hlast : data.length = data.length - 1 + 1 := by omega
  have hproduct : (data.length - 1) * p ≤ (data.length - 1) * 100 := Nat.mul_le_mul_left _ hp
  obtain ⟨weight, htaken, hrest⟩ :=
    exists_takenBetween hlast hpercent (by omega) hp (by omega)
  refine ⟨⟨weight, htaken, hrest⟩, fun fault hfault => .inl (htaken.fault_eq hfault), ?_⟩
  intro metrics entries clock fault hsize hfault
  refine fault_of_snapshot ?_ hfault
  rw [sendMillis_recordAll, List.length_append, List.length_map]
  exact hsize

/-- Times from twenty down to zero, the even ones as integers. -/
def sampleTimes : List Number :=
  (List.range 21).reverse.map fun n => if n % 2 = 0 then .int n else .float (.ofInt n)

def sampleEntries : List Entry :=
  [⟨1, 100, .float .nan⟩, ⟨0, -1, .int (10 ^ 400)⟩, ⟨2, 200, .float (.infinite true)⟩]

/-- The place is nineteen exactly, though nineteen twentieths cannot be written with binary
digits. -/
theorem sample_in_range :
    (∃ weight, TakenBetween sampleTimes (.float (.ofInt 95)) 19 20 weight ∧
      weight.toRat? = some 0) ∧
    ∀ (clock : Clock) (fault : ArithmeticFault),
      ((recordAll { startTime := .int 0 } sampleEntries).snapshot clock).1 = .error fault →
      fault.IsOverflow := by
  have hne : sampleTimes ≠ [] := by decide
  have hlength : sampleTimes.length = 21 := rfl
  have hpercent : (Number.float (.ofInt 95)).extended? = some (.inl ((95 : Nat) : ℚ)) := by
    decide +kernel
  obtain ⟨⟨weight, htaken, hrest⟩, -, hsnapshot⟩ :=
    percentile_stays_in_range hne (by decide) hpercent (by decide)
  rw [hlength] at htaken hrest
  refine ⟨⟨weight, htaken, hrest (by decide)⟩, fun clock fault hfault => ?_⟩
  exact hsnapshot _ sampleEntries clock fault (by decide) hfault

end Metrics

end LogShipper
