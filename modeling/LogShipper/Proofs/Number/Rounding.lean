import LogShipper.Number
import Mathlib.Algebra.Order.Field.Power
import Mathlib.Algebra.Order.Floor.Ring
import Mathlib.Data.Rat.Floor
import Mathlib.Tactic.FieldSimp
import Mathlib.Tactic.Linarith
import Mathlib.Tactic.NormNum
import Mathlib.Tactic.Positivity
import Mathlib.Tactic.Ring

/-!
# How far rounding goes

A quotient is scaled so that its integer part has 53 digits, or fewer if it is very small, and that
integer is rounded.  So the magnitude that is found is off by at most half of the scale, which is a
tiny part of the quotient unless that is very small.
-/

namespace LogShipper.Binary64

variable {num den : Nat}

/-! ## 1. The exponent -/

theorem two_zpow_le_iff (num : Nat) (hden : 0 < den) (e : Int) :
    (2 : ℚ) ^ e ≤ num / den ↔
      (if 0 ≤ e then den <<< e.toNat ≤ num else den ≤ num <<< (-e).toNat) := by
  have hd : (0 : ℚ) < den := by exact_mod_cast hden
  rw [le_div_iff₀ hd]
  split
  next h =>
    obtain ⟨k, rfl⟩ := Int.eq_ofNat_of_zero_le h
    rw [Int.toNat_natCast, Nat.shiftLeft_eq, zpow_natCast, mul_comm]
    exact_mod_cast Iff.rfl
  next h =>
    obtain ⟨k, hk⟩ := Int.eq_ofNat_of_zero_le (show 0 ≤ -e by omega)
    obtain rfl : e = -(k : Int) := by omega
    rw [neg_neg, Int.toNat_natCast, Nat.shiftLeft_eq, zpow_neg, zpow_natCast,
      inv_mul_le_iff₀ (by positivity), mul_comm]
    exact_mod_cast Iff.rfl

/-- The exponent lies between that of the quotient and the next one. -/
theorem floorLog2_spec (hnum : 0 < num) (hden : 0 < den) :
    (2 : ℚ) ^ floorLog2 num den ≤ num / den ∧ (num : ℚ) / den < 2 ^ (floorLog2 num den + 1) := by
  have hd : (0 : ℚ) < den := by exact_mod_cast hden
  have hn₁ : (2 : ℚ) ^ (num.log2 : Int) ≤ num := by
    rw [zpow_natCast]
    exact_mod_cast Nat.log2_self_le hnum.ne'
  have hn₂ : (num : ℚ) < 2 ^ ((num.log2 : Int) + 1) := by
    have h : num < 2 ^ (num.log2 + 1) := Nat.lt_log2_self
    exact_mod_cast h
  have hd₁ : (2 : ℚ) ^ (den.log2 : Int) ≤ den := by
    rw [zpow_natCast]
    exact_mod_cast Nat.log2_self_le hden.ne'
  have hd₂ : (den : ℚ) < 2 ^ ((den.log2 : Int) + 1) := by
    have h : den < 2 ^ (den.log2 + 1) := Nat.lt_log2_self
    exact_mod_cast h
  have hupper : (num : ℚ) / den < 2 ^ ((num.log2 : Int) - den.log2 + 1) := by
    rw [div_lt_iff₀ hd]
    calc (num : ℚ) < 2 ^ ((num.log2 : Int) + 1) := hn₂
      _ = 2 ^ ((num.log2 : Int) - den.log2 + 1) * 2 ^ (den.log2 : Int) := by
        rw [← zpow_add₀ two_ne_zero]
        congr 1
        ring
      _ ≤ 2 ^ ((num.log2 : Int) - den.log2 + 1) * den := by gcongr
  have hlower : (2 : ℚ) ^ ((num.log2 : Int) - den.log2 - 1) ≤ num / den := by
    rw [le_div_iff₀ hd]
    calc (2 : ℚ) ^ ((num.log2 : Int) - den.log2 - 1) * den
        ≤ 2 ^ ((num.log2 : Int) - den.log2 - 1) * 2 ^ ((den.log2 : Int) + 1) := by gcongr
      _ = 2 ^ (num.log2 : Int) := by
        rw [← zpow_add₀ two_ne_zero]
        congr 1
        ring
      _ ≤ num := hn₁
  have hreached := two_zpow_le_iff num hden ((num.log2 : Int) - den.log2)
  -- The difference of the two logarithms is the exponent or one too many.
  unfold floorLog2
  dsimp only
  by_cases h : (2 : ℚ) ^ ((num.log2 : Int) - den.log2) ≤ num / den
  · rw [if_pos (hreached.1 h)]
    exact ⟨h, hupper⟩
  · rw [if_neg (mt hreached.2 h), sub_add_cancel]
    exact ⟨hlower, lt_of_not_ge h⟩

/-! ## 2. The rounded integer -/

theorem div_eq_whole_add_rest (num : Nat) (hden : 0 < den) :
    (num : ℚ) / den = (num / den : Nat) + (num % den : Nat) / den := by
  have hd : (0 : ℚ) < den := by exact_mod_cast hden
  have hsplit : (num : ℚ) = den * (num / den : Nat) + (num % den : Nat) := by
    exact_mod_cast (Nat.div_add_mod num den).symm
  rw [div_eq_iff hd.ne', add_mul, div_mul_cancel₀ _ hd.ne', mul_comm]
  exact hsplit

theorem abs_roundDiv_sub_le (num : Nat) (hden : 0 < den) :
    |(roundDiv num den : ℚ) - num / den| ≤ 1 / 2 := by
  have hd : (0 : ℚ) < den := by exact_mod_cast hden
  have hmod : ((num % den : Nat) : ℚ) < den := by exact_mod_cast Nat.mod_lt num hden
  unfold roundDiv
  dsimp only
  rw [div_eq_whole_add_rest num hden]
  split
  -- Down if the remainder is less than half, or half and the quotient even; up else.
  next h =>
    have hle : 2 * ((num % den : Nat) : ℚ) ≤ den := by
      have : 2 * (num % den) ≤ den := by omega
      exact_mod_cast this
    have hfrac : ((num % den : Nat) : ℚ) / den ≤ 1 / 2 := by
      rw [div_le_iff₀ hd]
      linarith
    rw [abs_le]
    have hpos : (0 : ℚ) ≤ ((num % den : Nat) : ℚ) / den := by positivity
    constructor <;> linarith
  next h =>
    have hge : (den : ℚ) ≤ 2 * ((num % den : Nat) : ℚ) := by
      have : den ≤ 2 * (num % den) := by omega
      exact_mod_cast this
    have hfrac : 1 / 2 ≤ ((num % den : Nat) : ℚ) / den := by
      rw [le_div_iff₀ hd]
      linarith
    have hlt : ((num % den : Nat) : ℚ) / den < 1 := by
      rw [div_lt_one hd]
      exact hmod
    rw [abs_le]
    push_cast
    constructor <;> linarith

/-- The power of two by which a quotient is scaled before it is rounded. -/
def scale (num den : Nat) : Int :=
  max (floorLog2 num den - 52) (-1074)

/-- The rounded integer of a scaled quotient. -/
def scaled (num den : Nat) : Nat :=
  if 0 ≤ scale num den then roundDiv num (den <<< (scale num den).toNat)
  else roundDiv (num <<< (-scale num den).toNat) den

theorem nearestRank_eq (num den : Nat) :
    nearestRank num den = (scale num den + 1074).toNat * binade + scaled num den := rfl

theorem abs_scaled_sub_le (num : Nat) (hden : 0 < den) :
    |(scaled num den : ℚ) - num / den / 2 ^ scale num den| ≤ 1 / 2 := by
  have hd : (0 : ℚ) < den := by exact_mod_cast hden
  unfold scaled
  -- A scale above zero shifts the denominator, one below zero the numerator.
  split
  next h =>
    obtain ⟨k, hk⟩ := Int.eq_ofNat_of_zero_le h
    have hpos : 0 < den <<< k := by
      rw [Nat.shiftLeft_eq]
      positivity
    have hround := abs_roundDiv_sub_le num hpos
    rw [hk, Int.toNat_natCast, zpow_natCast, div_div]
    rw [Nat.shiftLeft_eq] at hround ⊢
    exact_mod_cast hround
  next h =>
    obtain ⟨k, hk⟩ := Int.eq_ofNat_of_zero_le (show 0 ≤ -scale num den by omega)
    have hround := abs_roundDiv_sub_le (num <<< k) hden
    have hneg : scale num den = -(k : Int) := by omega
    rw [hneg, neg_neg, Int.toNat_natCast, zpow_neg, zpow_natCast, div_inv_eq_mul,
      div_mul_eq_mul_div]
    rw [Nat.shiftLeft_eq] at hround ⊢
    exact_mod_cast hround

theorem cast_binade : (binade : ℚ) = 2 ^ (52 : Int) := by
  norm_num [binade]

theorem scaled_le (hnum : 0 < num) (hden : 0 < den) : scaled num den ≤ 2 * binade := by
  have hround := (abs_le.1 (abs_scaled_sub_le num hden)).2
  -- The scaled quotient is below two to the 53; rounding may reach that but not pass it.
  have hlt : (num : ℚ) / den / 2 ^ scale num den < 2 * binade := by
    rw [div_lt_iff₀ (by positivity), cast_binade]
    calc (num : ℚ) / den < 2 ^ (floorLog2 num den + 1) := (floorLog2_spec hnum hden).2
      _ ≤ 2 ^ (53 + scale num den) := by
        refine zpow_le_zpow_right₀ one_le_two ?_
        unfold scale
        omega
      _ = 2 * 2 ^ (52 : Int) * 2 ^ scale num den := by
        rw [zpow_add₀ two_ne_zero]
        norm_num
  have hsucc : (scaled num den : ℚ) < 2 * binade + 1 := by linarith
  have hnat : scaled num den < 2 * binade + 1 := by exact_mod_cast hsucc
  omega

theorem binade_le_scaled (hnum : 0 < num) (hden : 0 < den) (h : -1074 < scale num den) :
    binade ≤ scaled num den := by
  have hround := (abs_le.1 (abs_scaled_sub_le num hden)).1
  have hge : (binade : ℚ) ≤ num / den / 2 ^ scale num den := by
    rw [le_div_iff₀ (by positivity), cast_binade, ← zpow_add₀ two_ne_zero]
    refine le_trans (zpow_le_zpow_right₀ one_le_two ?_) (floorLog2_spec hnum hden).1
    unfold scale at h ⊢
    omega
  have hpred : (binade : ℚ) < scaled num den + 1 := by linarith
  have hnat : binade < scaled num den + 1 := by exact_mod_cast hpred
  omega

/-! ## 3. The magnitude -/

theorem magnitude_nonneg (rank : Nat) : 0 ≤ magnitude rank := by
  unfold magnitude
  positivity

theorem magnitude_of_normal {e r : Nat} (hr : r < binade) :
    magnitude ((e + 1) * binade + r) = (binade + r : Nat) * (2 : ℚ) ^ ((e : Int) - 1074) := by
  have hbinade : 0 < binade := by decide
  have hrank : ¬ (e + 1) * binade + r < binade := by
    rw [Nat.add_mul]
    omega
  have hdiv : ((e + 1) * binade + r) / binade = e + 1 := by
    rw [Nat.add_comm, Nat.add_mul_div_right _ _ hbinade, Nat.div_eq_of_lt hr, Nat.zero_add]
  have hmod : ((e + 1) * binade + r) % binade = r := by
    rw [Nat.add_comm, Nat.add_mul_mod_self_right, Nat.mod_eq_of_lt hr]
  rw [magnitude, significand, exponent, if_neg hrank, if_neg hrank, hdiv, hmod]
  congr 2
  push_cast
  ring

theorem magnitude_of_scaled {e n : Nat} (hn : n ≤ 2 * binade) (he : e = 0 ∨ binade ≤ n) :
    magnitude (e * binade + n) = n * (2 : ℚ) ^ ((e : Int) - 1074) := by
  rcases Nat.lt_or_ge n binade with hsmall | hlarge
  · obtain rfl : e = 0 := he.resolve_right (Nat.not_le.2 hsmall)
    rw [Nat.zero_mul, Nat.zero_add, magnitude, significand, exponent, if_pos hsmall,
      if_pos hsmall]
    rfl
  · obtain ⟨r, rfl⟩ := Nat.exists_eq_add_of_le hlarge
    rcases Nat.lt_or_ge r binade with hr | hr
    · rw [← magnitude_of_normal hr, Nat.add_mul, Nat.one_mul, Nat.add_assoc]
    · -- The integer was rounded up to the next power of two.
      obtain rfl : r = binade := by omega
      have hcarry := magnitude_of_normal (e := e + 1) (by decide : 0 < binade)
      rw [show e * binade + (binade + binade) = (e + 1 + 1) * binade + 0 by ring, hcarry]
      push_cast
      rw [show ((e : Int) + 1 - 1074) = (e - 1074) + 1 by ring, zpow_add_one₀ two_ne_zero]
      ring

theorem magnitude_nearestRank (hnum : 0 < num) (hden : 0 < den) :
    magnitude (nearestRank num den) = scaled num den * (2 : ℚ) ^ scale num den := by
  have hscale : -1074 ≤ scale num den := le_max_right _ _
  rw [nearestRank_eq, magnitude_of_scaled (scaled_le hnum hden)]
  · congr 2
    omega
  · rcases hscale.eq_or_lt with h | h
    -- Either the scale is the least one, or the integer has all its 53 digits.
    · exact .inl (by omega)
    · exact .inr (binade_le_scaled hnum hden h)

/-- Rounding is off by at most half of the scale. -/
theorem abs_magnitude_nearestRank_sub_le (hnum : 0 < num) (hden : 0 < den) :
    |magnitude (nearestRank num den) - num / den| ≤ 1 / 2 * (2 : ℚ) ^ scale num den := by
  have hpos : (0 : ℚ) < 2 ^ scale num den := by positivity
  have hround := abs_scaled_sub_le num hden
  have hdiff : magnitude (nearestRank num den) - num / den =
      (scaled num den - num / den / 2 ^ scale num den) * 2 ^ scale num den := by
    rw [magnitude_nearestRank hnum hden, sub_mul, div_mul_cancel₀ _ hpos.ne']
  rw [hdiff, abs_mul, abs_of_pos hpos]
  exact mul_le_mul_of_nonneg_right hround hpos.le

/-- Unless a quotient is very small, the scale is a tiny part of it. -/
theorem two_zpow_scale_le (hnum : 0 < num) (hden : 0 < den)
    (h : (2 : ℚ) ^ (-1022 : Int) ≤ num / den) :
    (2 : ℚ) ^ scale num den ≤ num / den / 2 ^ 52 := by
  obtain ⟨hlow, hhigh⟩ := floorLog2_spec hnum hden
  have hexponent : -1022 ≤ floorLog2 num den := by
    have hlt := (zpow_lt_zpow_iff_right₀ one_lt_two).1 (lt_of_le_of_lt h hhigh)
    omega
  have hscale : scale num den = floorLog2 num den - 52 := by
    unfold scale
    omega
  rw [hscale, zpow_sub₀ two_ne_zero, zpow_ofNat]
  exact div_le_div_of_nonneg_right hlow (by positivity)

theorem nearestRank_lt_rankBound (hnum : 0 < num) (hden : 0 < den)
    (h : (num : ℚ) / den < 2 ^ (1023 : Int)) : nearestRank num den < rankBound := by
  have hexponent : floorLog2 num den < 1023 :=
    (zpow_lt_zpow_iff_right₀ one_lt_two).1 (lt_of_le_of_lt (floorLog2_spec hnum hden).1 h)
  have hscale : (scale num den + 1074).toNat ≤ 2044 := by
    unfold scale
    omega
  calc nearestRank num den ≤ 2044 * binade + 2 * binade :=
        Nat.add_le_add (Nat.mul_le_mul_right _ hscale) (scaled_le hnum hden)
    _ < rankBound := by decide

/-! ## 4. Rounded quotients -/

theorem cast_natAbs_num_div {q : ℚ} (h : 0 ≤ q) : ((q.num.natAbs : ℕ) : ℚ) / q.den = q := by
  have hnum : ((q.num.natAbs : ℕ) : ℤ) = q.num := Int.natAbs_of_nonneg (Rat.num_nonneg.2 h)
  rw [← Int.cast_natCast, hnum, Rat.num_div_den]

theorem ofQuotient_eq (negative : Bool) (hnum : 0 < num) (hden : 0 < den)
    (h : (num : ℚ) / den < 2 ^ (1023 : Int)) :
    ofQuotient negative num den =
      .finite negative ⟨nearestRank num den, nearestRank_lt_rankBound hnum hden h⟩ := by
  rw [ofQuotient, if_neg hnum.ne', ofRank, dif_pos (nearestRank_lt_rankBound hnum hden h)]

theorem exists_ofQuotient_eq (negative : Bool) (num : Nat) (hden : 0 < den)
    (h : (num : ℚ) / den < 2 ^ (1023 : Int)) :
    ∃ rank, ofQuotient negative num den = .finite negative rank := by
  rcases Nat.eq_zero_or_pos num with rfl | hnum
  · exact ⟨_, rfl⟩
  · exact ⟨_, ofQuotient_eq negative hnum hden h⟩

end LogShipper.Binary64

namespace LogShipper.Number

theorem cast_lt_bound {n : Nat} (h : n < 2 ^ 126) : (n : ℚ) < 2 ^ (1023 : Int) := by
  have hn : (n : ℚ) < 2 ^ (126 : Int) := by exact_mod_cast h
  exact lt_of_lt_of_le hn (zpow_le_zpow_right₀ one_le_two (by decide))

theorem exists_ofIntRounded {n : Int} (h : n.natAbs < 2 ^ 126) :
    ∃ x, ofIntRounded n = .ok x := by
  have hquot : (n.natAbs : ℚ) / (1 : Nat) < 2 ^ (1023 : Int) := by
    rw [Nat.cast_one, div_one]
    exact cast_lt_bound h
  obtain ⟨rank, hrank⟩ := Binary64.exists_ofQuotient_eq (n < 0) n.natAbs Nat.one_pos hquot
  exact ⟨_, by rw [ofIntRounded, Binary64.ofInt, hrank]⟩

theorem exists_divNat_int {m : Int} {n : Nat} (hn : 0 < n) (h : m.natAbs < 2 ^ 126) :
    ∃ x, divNat (.int m) n = .ok x := by
  have hquot : (m.natAbs : ℚ) / n < 2 ^ (1023 : Int) := by
    refine lt_of_le_of_lt (div_le_self (by positivity) ?_) (cast_lt_bound h)
    exact_mod_cast hn
  obtain ⟨rank, hrank⟩ := Binary64.exists_ofQuotient_eq (m < 0) m.natAbs hn hquot
  exact ⟨_, by rw [divNat, hrank]⟩

theorem exists_divNat_float (x : Binary64) {n : Nat} (h : n < 2 ^ 126) :
    ∃ y, divNat (.float x) n = .ok y := by
  obtain ⟨y, hy⟩ := exists_ofIntRounded (n := n) h
  exact ⟨_, by rw [divNat, hy]; rfl⟩

end LogShipper.Number
