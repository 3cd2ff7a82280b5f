import LogShipper.Proofs.Json.Sizes
import LogShipper.Proofs.Number.Rounding

/-!
# Past the finite numbers

The largest finite magnitude lies one step below two to the 1024th, and whatever reaches the middle
of that step is rounded past it.  All that is finite has few digits before the point.
-/

namespace LogShipper.Binary64

variable {num den : Nat}

/-- The least integer that is rounded past the largest finite magnitude. -/
def overflowBound : Nat := (2 ^ 54 - 1) * 2 ^ 970

/-! ## 1. Rounding up -/

/-- A quotient is rounded up to an even integer as soon as it lies half-way. -/
theorem lt_roundDiv_iff (hden : 0 < den) {k : Nat} (hk : k % 2 = 1) :
    k < roundDiv num den ↔ (2 * k + 1) * den ≤ 2 * num := by
  have hnum : num = den * (num / den) + num % den := (Nat.div_add_mod num den).symm
  have hrest : num % den < den := Nat.mod_lt _ hden
  have hlow : num / den ≤ roundDiv num den := by
    unfold roundDiv
    dsimp only
    split <;> omega
  have hhigh : roundDiv num den ≤ num / den + 1 := by
    unfold roundDiv
    dsimp only
    split <;> omega
  generalize hq : num / den = q at *
  generalize hr : num % den = r at *
  -- Only a quotient of the bound itself is decided by rounding, and there a tie goes up: it is
  -- odd.
  rcases Nat.lt_trichotomy k q with hlt | rfl | hgt
  · have hmul : (2 * k + 1) * den ≤ 2 * q * den := Nat.mul_le_mul_right _ (by omega)
    have htwice : 2 * q * den = 2 * (den * q) := by ring
    exact iff_of_true (by omega) (by omega)
  · have htwice : (2 * k + 1) * den = 2 * (den * k) + den := by ring
    unfold roundDiv
    rw [hq, hr]
    dsimp only
    split <;> omega
  · have hmul : (2 * q + 3) * den ≤ (2 * k + 1) * den := Nat.mul_le_mul_right _ (by omega)
    have htwice : (2 * q + 3) * den = 2 * (den * q) + 3 * den := by ring
    exact iff_of_false (by omega) (by omega)

/-! ## 2. The bound -/

theorem cast_overflowBound : (overflowBound : ℚ) = (2 ^ 54 - 1) * 2 ^ (970 : Int) := by
  have hfactor : ((2 ^ 54 - 1 : ℕ) : ℚ) = 2 ^ 54 - 1 := by norm_num
  rw [overflowBound, Nat.cast_mul, hfactor, Nat.cast_pow, Nat.cast_ofNat]
  exact congrArg _ (zpow_natCast 2 970).symm

theorem lt_overflowBound : (2 : ℚ) ^ (1023 : Int) < overflowBound := by
  rw [cast_overflowBound, show (1023 : Int) = 53 + 970 by rfl, zpow_add₀ two_ne_zero]
  exact mul_lt_mul_of_pos_right (by norm_num) (by positivity)

theorem overflowBound_le : (overflowBound : ℚ) ≤ 2 ^ (1024 : Int) := by
  rw [cast_overflowBound, show (1024 : Int) = 54 + 970 by rfl, zpow_add₀ two_ne_zero]
  exact mul_le_mul_of_nonneg_right (by norm_num) (by positivity)

/-- Exactly the quotients from the bound on have no rank among the finite numbers. -/
theorem rankBound_le_nearestRank_iff (hnum : 0 < num) (hden : 0 < den) :
    rankBound ≤ nearestRank num den ↔ overflowBound * den ≤ num := by
  have hquot : overflowBound * den ≤ num ↔ (overflowBound : ℚ) ≤ num / den := by
    rw [le_div_iff₀ (by exact_mod_cast hden)]
    exact_mod_cast Iff.rfl
  obtain ⟨hlow, hhigh⟩ := floorLog2_spec hnum hden
  -- Only the last exponent of finite numbers leaves both possible.
  rcases lt_trichotomy (floorLog2 num den) 1023 with hsmall | hlast | hlarge
  · have hlt : (num : ℚ) / den < 2 ^ (1023 : Int) :=
      lt_of_lt_of_le hhigh (zpow_le_zpow_right₀ one_le_two (by omega))
    rw [hquot]
    exact iff_of_false (Nat.not_le.2 (nearestRank_lt_rankBound hnum hden hlt))
      (not_le.2 (hlt.trans lt_overflowBound))
  · have hscale : scale num den = 971 := by
      rw [scale, hlast]
      rfl
    have hrank : nearestRank num den = 2045 * binade + roundDiv num (den <<< 971) := by
      have hexponent : ((971 : Int) + 1074).toNat = 2045 := by decide
      have hwidth : (971 : Int).toNat = 971 := by decide
      rw [nearestRank_eq, scaled, hscale, if_pos (by decide), hexponent, hwidth]
    have hshift : 0 < den <<< 971 := by
      rw [Nat.shiftLeft_eq]
      positivity
    have hround : 2 * binade - 1 < roundDiv num (den <<< 971) ↔
        (2 * (2 * binade - 1) + 1) * (den <<< 971) ≤ 2 * num :=
      lt_roundDiv_iff hshift (by decide)
    have hbound : (2 * (2 * binade - 1) + 1) * (den <<< 971) = 2 * (overflowBound * den) := by
      have hfactor : 2 * (2 * binade - 1) + 1 = 2 ^ 54 - 1 := by decide
      have hdouble : den <<< 971 = 2 * (den <<< 970) := Nat.shiftLeft_succ den 970
      have hpower (k : Nat) : den <<< k = den * 2 ^ k := Nat.shiftLeft_eq den k
      rw [hfactor, hdouble, hpower 970]
      unfold overflowBound
      generalize 2 ^ 970 = power
      ring
    have hfull : rankBound = 2045 * binade + 2 * binade := by decide
    have hbinade : 0 < binade := by decide
    rw [hbound] at hround
    rw [hrank, hfull]
    omega
  · have hreach : (2 : ℚ) ^ (1024 : Int) ≤ num / den :=
      (zpow_le_zpow_right₀ one_le_two (by omega)).trans hlow
    have hscale : 972 ≤ scale num den := by
      unfold scale
      omega
    have hscaled := binade_le_scaled hnum hden (by omega)
    rw [hquot]
    refine iff_of_true ?_ (overflowBound_le.trans hreach)
    calc rankBound = 2046 * binade + binade := by decide
      _ ≤ (scale num den + 1074).toNat * binade + scaled num den :=
        Nat.add_le_add (Nat.mul_le_mul_right _ (by omega)) hscaled

/-! ## 3. Finite numbers -/

theorem magnitude_lt {rank : Nat} (h : rank < rankBound) : magnitude rank < 2 ^ (1024 : Int) := by
  -- A significand below 2 ^ 53, and an exponent of 971 at most.
  have hsignificand : significand rank < 2 * binade := by
    unfold significand
    have hmod : rank % binade < binade := Nat.mod_lt _ (by decide)
    split <;> omega
  have hexponent : exponent rank ≤ 971 := by
    unfold exponent
    split
    · decide
    · have hdiv : rank / binade < 2047 := Nat.div_lt_of_lt_mul (by
        rw [Nat.mul_comm]
        exact h)
      omega
  have hcast : (significand rank : ℚ) < 2 ^ (53 : Int) := by
    have htwice : (2 * binade : Nat) = 2 ^ 53 := by decide
    rw [htwice] at hsignificand
    exact_mod_cast hsignificand
  calc magnitude rank ≤ significand rank * 2 ^ (971 : Int) :=
        mul_le_mul_of_nonneg_left (zpow_le_zpow_right₀ one_le_two hexponent) (by positivity)
    _ < 2 ^ (53 : Int) * 2 ^ (971 : Int) := mul_lt_mul_of_pos_right hcast (by positivity)
    _ = 2 ^ (1024 : Int) := (zpow_add₀ two_ne_zero 53 971).symm

theorem natAbs_truncate?_lt {x : Binary64} {n : Int} (h : x.truncate? = some n) :
    n.natAbs < 2 ^ 1024 := by
  cases x with
  | infinite negative => cases h
  | nan => cases h
  | finite negative rank =>
    have hfloor : (magnitude rank).floor < ((2 ^ 1024 : Nat) : Int) := by
      rw [Rat.floor_lt_iff]
      exact_mod_cast magnitude_lt rank.isLt
    have hnonneg : 0 ≤ (magnitude rank).floor :=
      Rat.le_floor_iff.2 (by exact_mod_cast magnitude_nonneg rank)
    obtain ⟨whole, hwhole⟩ := Int.eq_ofNat_of_zero_le hnonneg
    rw [hwhole] at hfloor
    rw [truncate?, hwhole] at h
    obtain rfl := Option.some.inj h
    cases negative with
    | false => exact Int.ofNat_lt.1 hfloor
    | true =>
      show (-(whole : Int)).natAbs < 2 ^ 1024
      rw [Int.natAbs_neg]
      exact Int.ofNat_lt.1 hfloor

end LogShipper.Binary64

namespace LogShipper.Number

/-- Exactly the integers from the bound on cannot be rounded. -/
theorem ofIntRounded_eq_error_iff {n : Int} {fault : ArithmeticFault} :
    ofIntRounded n = .error fault ↔
      fault = .integerTooLarge ∧ Binary64.overflowBound ≤ n.natAbs := by
  have hbound : 0 < Binary64.overflowBound := by
    unfold Binary64.overflowBound
    positivity
  rcases Nat.eq_zero_or_pos n.natAbs with hzero | hpos
  · obtain rfl := Int.natAbs_eq_zero.1 hzero
    exact iff_of_false nofun fun h => absurd h.2 (Nat.not_le.2 hbound)
  · have hrank := Binary64.rankBound_le_nearestRank_iff hpos Nat.one_pos
    rw [Nat.mul_one] at hrank
    rw [← hrank]
    unfold ofIntRounded Binary64.ofInt Binary64.ofQuotient Binary64.ofRank
    rw [if_neg hpos.ne']
    by_cases hlt : Binary64.nearestRank n.natAbs 1 < Binary64.rankBound
    · rw [dif_pos hlt]
      exact iff_of_false nofun fun h => absurd h.2 (Nat.not_le.2 hlt)
    · rw [dif_neg hlt]
      simp [Nat.le_of_not_lt hlt, eq_comm]

theorem isOversized_of_truncate {x : Binary64} {n : Int} (h : (float x).truncate = .ok n) :
    Integer.isOversized n = false := by
  have hpower (k digits : Nat) (hk : k ≤ digits) : 2 ^ k ≤ Nat.pow 10 digits :=
    (Nat.pow_le_pow_left (by decide) k).trans (Nat.pow_le_pow_right (by decide) hk)
  rw [Json.isOversized_eq_false_iff]
  cases x with
  | infinite negative => cases h
  | nan => cases h
  | finite negative rank =>
    have hsome : (Binary64.finite negative rank).truncate? = some n :=
      congrArg some (Except.ok.inj h)
    exact (Binary64.natAbs_truncate?_lt hsome).trans_le (hpower 1024 _ (by decide))

end LogShipper.Number
