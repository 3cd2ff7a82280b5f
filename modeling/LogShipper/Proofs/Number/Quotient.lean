import LogShipper.Proofs.Number.Rounding
import Mathlib.Data.Nat.Cast.Field

/-!
# The integer part of a rounded quotient

Integers of at most 53 binary digits are not changed by rounding.  A quotient of two of them that is
no integer is further away from every integer than rounding can carry it, so that its integer part
is not changed either.
-/

namespace LogShipper.Binary64

variable {num den m d : Nat}

/-! ## 1. Magnitudes -/

/-- The scale of an integer of at most 53 digits leaves nothing behind the point. -/
theorem scale_le_zero {k : Nat} (hnum : 0 < num) (hden : 0 < den) (hk : k < 2 ^ 53)
    (h : (num : ℚ) / den = k) : scale num den ≤ 0 := by
  have hpower : (2 : ℚ) ^ floorLog2 num den < 2 ^ (53 : Int) := by
    refine lt_of_le_of_lt (floorLog2_spec hnum hden).1 ?_
    rw [h]
    exact_mod_cast hk
  have hexponent := (zpow_lt_zpow_iff_right₀ one_lt_two).1 hpower
  unfold scale
  omega

theorem magnitude_nearestRank_of_eq {k : Nat} (hnum : 0 < num) (hden : 0 < den) (hk : k < 2 ^ 53)
    (h : (num : ℚ) / den = k) : magnitude (nearestRank num den) = k := by
  have hscale := scale_le_zero hnum hden hk h
  obtain ⟨j, hj⟩ : ∃ j : Nat, scale num den = -(j : Int) := ⟨(scale num den).natAbs, by omega⟩
  have hround := abs_scaled_sub_le num hden
  rw [h, hj, zpow_neg, zpow_natCast, div_inv_eq_mul] at hround
  -- The scaled integer is rounded to an integer that is at most one half away.
  have hscaled : scaled num den = k * 2 ^ j := by
    have hnear : |((scaled num den : Int) - (k * 2 ^ j : Nat) : ℚ)| < 1 := by
      refine lt_of_le_of_lt ?_ (by norm_num : (1 / 2 : ℚ) < 1)
      exact_mod_cast hround
    have hsame : ((scaled num den : Int) - (k * 2 ^ j : Nat)) = 0 :=
      Int.abs_lt_one_iff.1 (by exact_mod_cast hnear)
    omega
  rw [magnitude_nearestRank hnum hden, hscaled, hj, zpow_neg, zpow_natCast, Nat.cast_mul,
    Nat.cast_pow, Nat.cast_ofNat]
  exact mul_inv_cancel_right₀ (by positivity) _

theorem pos_of_div_eq (hnum : 0 < num) (hden : 0 < den) (hd : 0 < d)
    (h : (num : ℚ) / den = m / d) : 0 < m := by
  have hdpos : (0 : ℚ) < d := by exact_mod_cast hd
  have hquot : (0 : ℚ) < m / d := by
    rw [← h]
    positivity
  exact_mod_cast (div_pos_iff_of_pos_right hdpos).1 hquot

/-- The error of a rounded quotient is less than what a quotient by the same number that is no
integer is away from the nearest integer. -/
theorem abs_magnitude_sub_lt (hnum : 0 < num) (hden : 0 < den) (hm : m < 2 ^ 53) (hd : 0 < d)
    (hd' : d < 2 ^ 53) (h : (num : ℚ) / den = m / d) :
    |magnitude (nearestRank num den) - m / d| < 1 / d := by
  have hdpos : (0 : ℚ) < d := by exact_mod_cast hd
  have hone : (1 : ℚ) ≤ m := by exact_mod_cast pos_of_div_eq hnum hden hd h
  -- With so few digits the quotient is no subnormal number.
  have hsmall : (2 : ℚ) ^ (-1022 : Int) ≤ num / den := by
    have hdle : (d : ℚ) ≤ 2 ^ (53 : Int) := by exact_mod_cast hd'.le
    calc (2 : ℚ) ^ (-1022 : Int) ≤ 2 ^ (-53 : Int) := zpow_le_zpow_right₀ one_le_two (by decide)
      _ = 1 / 2 ^ (53 : Int) := by rw [zpow_neg, one_div]
      _ ≤ m / d := div_le_div₀ (by positivity) hone hdpos hdle
      _ = num / den := h.symm
  have hscale := two_zpow_scale_le hnum hden hsmall
  have herror := abs_magnitude_nearestRank_sub_le hnum hden
  rw [h] at hscale herror
  calc |magnitude (nearestRank num den) - m / d| ≤ 1 / 2 * (m / d / 2 ^ 52) := by linarith
    _ = m / 2 ^ 53 / d := by ring
    _ < 1 / d := by
      have hm' : (m : ℚ) < 2 ^ 53 := by exact_mod_cast hm
      exact div_lt_div_of_pos_right ((div_lt_one (by positivity)).2 hm') hdpos

theorem magnitude_bounds (hnum : 0 < num) (hden : 0 < den) (hm : m < 2 ^ 53) (hd : 0 < d)
    (hd' : d < 2 ^ 53) (h : (num : ℚ) / den = m / d) :
    ((m / d : Nat) : ℚ) ≤ magnitude (nearestRank num den) ∧
      magnitude (nearestRank num den) < (m / d : Nat) + 1 := by
  have hdpos : (0 : ℚ) < d := by exact_mod_cast hd
  by_cases hdvd : d ∣ m
  · have hexact : (num : ℚ) / den = (m / d : Nat) := by rw [h, Nat.cast_div hdvd hdpos.ne']
    have hlt : m / d < 2 ^ 53 := (Nat.div_le_self m d).trans_lt hm
    rw [magnitude_nearestRank_of_eq hnum hden hlt hexact]
    exact ⟨le_rfl, lt_add_one _⟩
  · -- There is a rest, and it is one at least and one less than the divisor at most.
    have hrest : 0 < m % d := Nat.pos_of_ne_zero (mt Nat.dvd_of_mod_eq_zero hdvd)
    have hrest' : m % d + 1 ≤ d := Nat.mod_lt m hd
    have hlow : (1 : ℚ) / d ≤ (m % d : Nat) / d := by
      refine div_le_div_of_nonneg_right ?_ hdpos.le
      exact_mod_cast hrest
    have hhigh : ((m % d : Nat) : ℚ) / d + 1 / d ≤ 1 := by
      rw [← add_div, div_le_one hdpos]
      exact_mod_cast hrest'
    obtain ⟨hbelow, habove⟩ := abs_lt.1 (abs_magnitude_sub_lt hnum hden hm hd hd' h)
    rw [div_eq_whole_add_rest m hd] at hbelow habove
    constructor <;> linarith

/-! ## 2. Integers -/

theorem toRat?_zero (negative : Bool) : (zero negative).toRat? = some 0 := by
  cases negative <;> decide +kernel

theorem toRat?_ofQuotient {k : Nat} (negative : Bool) (num : Nat) (hden : 0 < den)
    (hk : k < 2 ^ 53) (h : (num : ℚ) / den = k) :
    (ofQuotient negative num den).toRat? = some (if negative then -(k : ℚ) else k) := by
  rcases Nat.eq_zero_or_pos num with rfl | hnum
  · rw [Nat.cast_zero, zero_div] at h
    rw [ofQuotient, if_pos rfl, toRat?_zero, ← h, neg_zero, ite_self]
  · have hlt : (num : ℚ) / den < 2 ^ (1023 : Int) := by
      rw [h]
      exact Number.cast_lt_bound (by omega)
    rw [ofQuotient_eq negative hnum hden hlt, toRat?, magnitude_nearestRank_of_eq hnum hden hk h]

theorem exists_eq_finite {x : Binary64} {q : ℚ} (h : x.toRat? = some q) :
    ∃ negative rank, x = finite negative rank := by
  cases x with
  | finite negative rank => exact ⟨negative, rank, rfl⟩
  | infinite _ => cases h
  | nan => cases h

theorem toRat?_sub_self {x y : Binary64} {q : ℚ} (hx : x.toRat? = some q)
    (hy : y.toRat? = some q) : (sub x y).toRat? = some 0 := by
  obtain ⟨a, m, rfl⟩ := exists_eq_finite hx
  obtain ⟨b, n, rfl⟩ := exists_eq_finite hy
  have hx := Option.some.inj hx
  have hy := Option.some.inj hy
  have hneg : (if !b then -magnitude n else magnitude n) = -q := by
    rw [← hy]
    cases b <;> simp
  rw [sub, neg, add, hx, hneg, add_neg_cancel, if_pos rfl, toRat?_zero]

/-- A number with the value of a natural number has that magnitude, and no minus sign unless both
are zero. -/
theorem magnitude_of_toRat? {negative : Bool} {rank : Fin rankBound} {k : Nat}
    (h : (finite negative rank).toRat? = some (k : ℚ)) :
    magnitude rank = k ∧ (negative = true → k = 0) := by
  have hvalue := Option.some.inj h
  have hk : (0 : ℚ) ≤ k := Nat.cast_nonneg k
  have hnonneg := magnitude_nonneg rank
  cases negative with
  | false => exact ⟨hvalue, nofun⟩
  | true =>
    rw [if_pos rfl] at hvalue
    refine ⟨by linarith, fun _ => ?_⟩
    exact_mod_cast (by linarith : (k : ℚ) = 0)

/-- Products of integers are exact. -/
theorem toRat?_mul {x y : Binary64} {a b : Nat} (hx : x.toRat? = some (a : ℚ))
    (hy : y.toRat? = some (b : ℚ)) (h : a * b < 2 ^ 53) :
    (mul x y).toRat? = some ((a * b : Nat) : ℚ) := by
  obtain ⟨s, m, rfl⟩ := exists_eq_finite hx
  obtain ⟨t, n, rfl⟩ := exists_eq_finite hy
  obtain ⟨hm, hs⟩ := magnitude_of_toRat? hx
  obtain ⟨hn, ht⟩ := magnitude_of_toRat? hy
  have hproduct : magnitude m * magnitude n = (a * b : Nat) := by rw [hm, hn, Nat.cast_mul]
  have hquot := cast_natAbs_num_div (q := magnitude m * magnitude n)
    (mul_nonneg (magnitude_nonneg m) (magnitude_nonneg n))
  rw [mul, toRat?_ofQuotient _ _ (Rat.den_pos _) h (hquot.trans hproduct)]
  -- With different signs one of the factors is a negative zero.
  cases s with
  | false =>
    cases t with
    | false => rfl
    | true => simp [ht rfl]
  | true => simp [hs rfl]

/-! ## 3. Quotients -/

/-- A number that has the integer part of a quotient, and is the quotient if that is an integer. -/
def HasFloor (x : Binary64) (m d : Nat) : Prop :=
  ∃ q : ℚ, x.toRat? = some q ∧ (m / d : Nat) ≤ q ∧ q < (m / d : Nat) + 1 ∧
    (d ∣ m → q = (m / d : Nat))

theorem hasFloor_ofQuotient (negative : Bool) (num : Nat) (hden : 0 < den) (hm : m < 2 ^ 53)
    (hd : 0 < d) (hd' : d < 2 ^ 53) (h : (num : ℚ) / den = m / d)
    (hsign : negative = true → m = 0) : (ofQuotient negative num den).HasFloor m d := by
  have hdpos : (0 : ℚ) < d := by exact_mod_cast hd
  -- Zero may have a sign, and nothing else.
  rcases Nat.eq_zero_or_pos num with rfl | hnum
  · have hzero : m = 0 := by
      rw [Nat.cast_zero, zero_div, eq_comm, div_eq_zero_iff, or_iff_left hdpos.ne'] at h
      exact_mod_cast h
    rw [ofQuotient, if_pos rfl, hzero]
    exact ⟨0, toRat?_zero negative, by simp, by simp, by simp⟩
  · have hpos := pos_of_div_eq hnum hden hd h
    have hplain : negative = false := Bool.eq_false_iff.2 fun htrue => hpos.ne' (hsign htrue)
    have hlt : (num : ℚ) / den < 2 ^ (1023 : Int) := by
      rw [h]
      refine lt_of_le_of_lt (div_le_self (Nat.cast_nonneg m) ?_)
        (Number.cast_lt_bound (n := m) (by omega))
      exact_mod_cast hd
    obtain ⟨hlow, hhigh⟩ := magnitude_bounds hnum hden hm hd hd' h
    refine ⟨magnitude (nearestRank num den), ?_, hlow, hhigh, fun hdvd => ?_⟩
    · rw [ofQuotient_eq negative hnum hden hlt, hplain]
      rfl
    · apply magnitude_nearestRank_of_eq hnum hden ((Nat.div_le_self m d).trans_lt hm)
      rw [h, Nat.cast_div hdvd hdpos.ne']

theorem hasFloor_div {x y : Binary64} (hx : x.toRat? = some (m : ℚ)) (hy : y.toRat? = some (d : ℚ))
    (hm : m < 2 ^ 53) (hd : 0 < d) (hd' : d < 2 ^ 53) : (div x y).HasFloor m d := by
  obtain ⟨s, rank, rfl⟩ := exists_eq_finite hx
  obtain ⟨t, rank', rfl⟩ := exists_eq_finite hy
  obtain ⟨hrank, hs⟩ := magnitude_of_toRat? hx
  obtain ⟨hrank', ht⟩ := magnitude_of_toRat? hy
  -- The divisor is positive, so it has no sign and is not the rank of zero.
  have hplain : t = false := Bool.eq_false_iff.2 fun htrue => hd.ne' (ht htrue)
  have hdivisor : ¬ rank'.val = 0 := by
    intro hzero
    have hcast : (d : ℚ) = 0 := by
      rw [← hrank', hzero]
      decide +kernel
    exact hd.ne' (by exact_mod_cast hcast)
  have hquot := cast_natAbs_num_div (q := magnitude rank / magnitude rank')
    (div_nonneg (magnitude_nonneg rank) (magnitude_nonneg rank'))
  rw [div, if_neg hdivisor, hplain]
  apply hasFloor_ofQuotient _ _ (Rat.den_pos _) hm hd hd'
  · rw [hquot, hrank, hrank']
  · rw [Bool.bne_false]
    exact hs

/-- The integer part of such a number is that of the quotient. -/
theorem HasFloor.truncate?_eq {x : Binary64} (h : x.HasFloor m d) :
    x.truncate? = some ((m / d : Nat) : Int) := by
  obtain ⟨q, hq, hlow, hhigh, -⟩ := h
  obtain ⟨negative, rank, rfl⟩ := exists_eq_finite hq
  have hvalue := Option.some.inj hq
  have hnonneg := magnitude_nonneg rank
  have hwhole : (0 : ℚ) ≤ (m / d : Nat) := Nat.cast_nonneg _
  cases negative with
  | false =>
    rw [if_neg Bool.false_ne_true] at hvalue
    have hfloor : (magnitude rank).floor = ((m / d : Nat) : Int) := by
      rw [hvalue]
      refine le_antisymm (Int.lt_add_one_iff.1 (Rat.floor_lt_iff.2 ?_)) (Rat.le_floor_iff.2 ?_)
      · exact_mod_cast hhigh
      · exact_mod_cast hlow
    rw [truncate?, hfloor]
    rfl
  | true =>
    -- Only zero has the minus sign.
    rw [if_pos rfl] at hvalue
    have hzero : magnitude rank = 0 := by linarith
    have hnone : m / d = 0 := by
      rw [← hvalue, hzero, neg_zero] at hlow
      exact_mod_cast le_antisymm hlow hwhole
    rw [truncate?, hzero, hnone]
    rfl

end LogShipper.Binary64

namespace LogShipper.Number

theorem exists_ofIntRounded_toRat? {n : Nat} (h : n < 2 ^ 53) :
    ∃ x, ofIntRounded n = .ok x ∧ x.toRat? = some (n : ℚ) := by
  have hvalue := Binary64.toRat?_ofQuotient (k := n) false n Nat.one_pos h (by simp)
  have hplain : decide ((n : Int) < 0) = false := decide_eq_false (by omega)
  obtain ⟨negative, rank, hx⟩ := Binary64.exists_eq_finite hvalue
  rw [hx] at hvalue
  refine ⟨_, ?_, hvalue⟩
  rw [ofIntRounded, Binary64.ofInt, hplain, Int.natAbs_natCast, hx]

theorem exists_divNat_int_hasFloor {m d : Nat} (hm : m < 2 ^ 53) (hd : 0 < d) (hd' : d < 2 ^ 53) :
    ∃ x, divNat (.int m) d = .ok x ∧ x.HasFloor m d := by
  obtain ⟨q, hq, hfloor⟩ := Binary64.hasFloor_ofQuotient false m hd hm hd hd' rfl nofun
  have hplain : decide ((m : Int) < 0) = false := decide_eq_false (by omega)
  obtain ⟨negative, rank, hx⟩ := Binary64.exists_eq_finite hq
  rw [hx] at hq
  refine ⟨_, ?_, q, hq, hfloor⟩
  rw [divNat, hplain, Int.natAbs_natCast, hx]

theorem exists_divNat_float_hasFloor {x : Binary64} {m d : Nat} (hx : x.toRat? = some (m : ℚ))
    (hm : m < 2 ^ 53) (hd : 0 < d) (hd' : d < 2 ^ 53) :
    ∃ y, divNat (.float x) d = .ok y ∧ y.HasFloor m d := by
  obtain ⟨y, hy, hvalue⟩ := exists_ofIntRounded_toRat? hd'
  exact ⟨_, by rw [divNat, hy]; rfl, Binary64.hasFloor_div hx hvalue hm hd hd'⟩

end LogShipper.Number
