import LogShipper.Number.Shortest
import LogShipper.Proofs.Number.Numeral
import LogShipper.Proofs.Number.Rounding
import Mathlib.Data.List.TakeWhile

/-!
# Decimals that read back

The rationals that round to a magnitude are an interval, and no two of these intervals meet.  With
seventeen digits some decimal lies in the interval of a magnitude, as the decimals with so many
digits are closer to each other than any two magnitudes, so the shortest decimal is found.  What is
written is worth that decimal; hence no two numbers have the same text.
-/

namespace LogShipper

theorem Text.ofChars_injective : Function.Injective ofChars :=
  List.map_injective_iff.2 fun _ _ => CodePoint.char.inj

namespace Binary64

variable {rank : Nat} {q : ℚ}

/-! ## 1. The magnitudes in order -/

theorem significand_lt (rank : Nat) : significand rank < 2 * binade := by
  have hmod : rank % binade < binade := Nat.mod_lt _ (by decide)
  unfold significand
  split <;> omega

/-- From a magnitude to the next it is one unit of its power of two. -/
theorem magnitude_succ (rank : Nat) :
    magnitude (rank + 1) = magnitude rank + 2 ^ exponent rank := by
  have hbinade : 0 < binade := by decide
  -- A rank is an exponent and a significand; one more in the significand is one unit of the
  -- exponent.
  have hstep {e n : Nat} (hn : n < 2 * binade) (he : e = 0 ∨ binade ≤ n) :
      magnitude (e * binade + n + 1) = magnitude (e * binade + n) + 2 ^ ((e : Int) - 1074) := by
    have hnext := magnitude_of_scaled (e := e) (n := n + 1) (by omega) (by omega)
    rw [Nat.add_assoc, hnext, magnitude_of_scaled hn.le he]
    push_cast
    ring
  -- Below the first binade the exponent is that of the first binade.
  rcases Nat.lt_or_ge rank binade with hsmall | hlarge
  · have hzero := hstep (e := 0) (n := rank) (by omega) (.inl rfl)
    rw [Nat.zero_mul, Nat.zero_add] at hzero
    rw [hzero, exponent, if_pos hsmall]
    rfl
  · have hdiv : 0 < rank / binade := Nat.div_pos hlarge hbinade
    have hrank : rank = (rank / binade - 1) * binade + (binade + rank % binade) := by
      have hmul := Nat.div_add_mod rank binade
      obtain ⟨k, hk⟩ := Nat.exists_eq_add_of_lt hdiv
      rw [Nat.zero_add] at hk
      rw [hk] at hmul ⊢
      rw [Nat.add_sub_cancel]
      linarith
    have hmod : rank % binade < binade := Nat.mod_lt _ hbinade
    have hnext := hstep (e := rank / binade - 1) (n := binade + rank % binade) (by omega)
      (.inr (by omega))
    rw [← hrank] at hnext
    rw [hnext, exponent, if_neg (by omega)]
    congr 2
    omega

theorem magnitude_strictMono : StrictMono magnitude := by
  refine strictMono_nat_of_lt_succ fun rank => ?_
  have hunit : (0 : ℚ) < 2 ^ exponent rank := by positivity
  rw [magnitude_succ]
  linarith

theorem magnitude_pos (h : 0 < rank) : 0 < magnitude rank :=
  lt_of_le_of_lt (magnitude_nonneg 0) (magnitude_strictMono h)

theorem exponent_le_succ (rank : Nat) : exponent rank ≤ exponent (rank + 1) := by
  have hdiv : rank / binade ≤ (rank + 1) / binade := Nat.div_le_div_right (Nat.le_succ rank)
  have hlarge : binade ≤ rank + 1 → 1 ≤ (rank + 1) / binade := fun h =>
    Nat.div_pos h (by decide)
  unfold exponent
  split_ifs <;> omega

/-- A magnitude is a number of 53 binary digits in the unit below it. -/
theorem magnitude_succ_le (rank : Nat) :
    magnitude (rank + 1) ≤ 2 ^ 53 * 2 ^ exponent rank := by
  have hsignificand : (significand rank : ℚ) + 1 ≤ 2 ^ 53 := by
    have hlt := significand_lt rank
    have hbinade : 2 * binade = 2 ^ 53 := by decide
    have hle : significand rank + 1 ≤ 2 ^ 53 := by omega
    exact_mod_cast hle
  calc magnitude (rank + 1) = (significand rank + 1) * 2 ^ exponent rank := by
        rw [magnitude_succ, magnitude]
        ring
    _ ≤ 2 ^ 53 * 2 ^ exponent rank := mul_le_mul_of_nonneg_right hsignificand (by positivity)

/-! ## 2. Rounding intervals -/

theorem bounds_of_roundsTo (h : roundsTo rank q = true) :
    (magnitude (rank - 1) + magnitude rank) / 2 ≤ q ∧
      q ≤ (magnitude rank + magnitude (rank + 1)) / 2 := by
  unfold roundsTo at h
  dsimp only at h
  split_ifs at h
  · simpa using h
  · obtain ⟨hlow, hhigh⟩ : _ < _ ∧ _ < _ := by simpa using h
    exact ⟨hlow.le, hhigh.le⟩

/-- The ends of an interval belong to it only if the rank is even. -/
theorem even_of_roundsTo (h : roundsTo rank q = true)
    (hend : q = (magnitude (rank - 1) + magnitude rank) / 2 ∨
      q = (magnitude rank + magnitude (rank + 1)) / 2) : rank % 2 = 0 := by
  by_contra hodd
  unfold roundsTo at h
  dsimp only at h
  rw [if_neg hodd] at h
  obtain ⟨hlow, hhigh⟩ : _ < _ ∧ _ < _ := by simpa using h
  rcases hend with rfl | rfl
  · exact lt_irrefl _ hlow
  · exact lt_irrefl _ hhigh

theorem roundsTo_of_abs_lt (hrank : 0 < rank)
    (h : |q - magnitude rank| < 1 / 2 * 2 ^ exponent (rank - 1)) : roundsTo rank q = true := by
  obtain ⟨below, rfl⟩ : ∃ below, rank = below + 1 := ⟨rank - 1, by omega⟩
  rw [Nat.add_sub_cancel] at h
  obtain ⟨hlow, hhigh⟩ := abs_lt.1 h
  -- The units below a rank are no larger than those above it, so both neighbours are far enough.
  have hunits : (2 : ℚ) ^ exponent below ≤ 2 ^ exponent (below + 1) :=
    zpow_le_zpow_right₀ one_le_two (exponent_le_succ below)
  have hbelow := magnitude_succ below
  have habove := magnitude_succ (below + 1)
  have hlower : (magnitude below + magnitude (below + 1)) / 2 < q := by linarith
  have hupper : q < (magnitude (below + 1) + magnitude (below + 1 + 1)) / 2 := by linarith
  unfold roundsTo
  dsimp only
  rw [Nat.add_sub_cancel]
  split_ifs
  · simpa using ⟨hlower.le, hupper.le⟩
  · simpa using ⟨hlower, hupper⟩

/-- No rational rounds to two magnitudes. -/
theorem rank_eq_of_roundsTo {rank rank' : Nat} (h : roundsTo rank q = true)
    (h' : roundsTo rank' q = true) : rank = rank' := by
  wlog hle : rank ≤ rank' generalizing rank rank'
  · exact (this h' h (Nat.le_of_not_le hle)).symm
  by_contra hne
  have hhigh := (bounds_of_roundsTo h).2
  have hlow := (bounds_of_roundsTo h').1
  have hmono : magnitude rank ≤ magnitude (rank' - 1) :=
    magnitude_strictMono.monotone (by omega)
  have hmono' : magnitude (rank + 1) ≤ magnitude rank' :=
    magnitude_strictMono.monotone (by omega)
  -- Only neighbours have a common end, and one of two neighbours is odd.
  have hnext : rank + 1 = rank' := magnitude_strictMono.injective (by linarith)
  have heven := even_of_roundsTo h (.inr (by linarith))
  have heven' := even_of_roundsTo h' (.inl (by linarith))
  omega

/-! ## 3. Seventeen digits -/

theorem pow_le_of_length_toDigits {n : Nat} (hn : 0 < n) :
    10 ^ ((Nat.toDigits 10 n).length - 1) ≤ n := by
  rcases Nat.eq_zero_or_pos ((Nat.toDigits 10 n).length - 1) with hone | hmore
  · rw [hone]
    exact hn
  · exact (Integer.lt_length_toDigits_iff hmore).1 (by omega)

theorem lt_pow_length_toDigits (n : Nat) : n < 10 ^ (Nat.toDigits 10 n).length :=
  (Nat.length_toDigits_le_iff (by decide) (List.length_pos_of_ne_nil Nat.toDigits_ne_nil)).1 le_rfl

theorem zpow_floorLog10_le (hq : 0 < q) : (10 : ℚ) ^ floorLog10 q ≤ q := by
  unfold floorLog10
  dsimp only
  split_ifs with hestimate
  · exact hestimate
  · -- The estimate by the numbers of digits is too large by one at most.
    have hnum : 0 < q.num.natAbs := Int.natAbs_pos.2 (Rat.num_pos.2 hq).ne'
    have hlow : ((10 : ℕ) : ℚ) ^ ((Nat.toDigits 10 q.num.natAbs).length - 1) ≤ q.num.natAbs := by
      exact_mod_cast pow_le_of_length_toDigits hnum
    have hhigh : (q.den : ℚ) ≤ ((10 : ℕ) : ℚ) ^ (Nat.toDigits 10 q.den).length := by
      exact_mod_cast (lt_pow_length_toDigits q.den).le
    have hlength : 0 < (Nat.toDigits 10 q.num.natAbs).length :=
      List.length_pos_of_ne_nil Nat.toDigits_ne_nil
    have hden : (0 : ℚ) < q.den := by exact_mod_cast q.den_pos
    have hpower : (10 : ℚ) ^ (((Nat.toDigits 10 q.num.natAbs).length : Int) -
        (Nat.toDigits 10 q.den).length - 1) =
          10 ^ ((Nat.toDigits 10 q.num.natAbs).length - 1) /
            10 ^ (Nat.toDigits 10 q.den).length := by
      rw [← zpow_natCast, ← zpow_natCast, ← zpow_sub₀ (by norm_num)]
      congr 1
      omega
    rw [hpower]
    conv_rhs => rw [← cast_natAbs_num_div hq.le]
    exact div_le_div₀ (by positivity) hlow hden hhigh

/-- Decimals with seventeen digits are closer to each other than magnitudes are. -/
theorem zpow_floorLog10_lt (hrank : 0 < rank) :
    (10 : ℚ) ^ (floorLog10 (magnitude rank) - 16) < 2 ^ exponent (rank - 1) := by
  obtain ⟨below, rfl⟩ : ∃ below, rank = below + 1 := ⟨rank - 1, by omega⟩
  rw [Nat.add_sub_cancel, zpow_sub₀ (by norm_num)]
  have hunit : (0 : ℚ) < 2 ^ exponent below := by positivity
  calc (10 : ℚ) ^ floorLog10 (magnitude (below + 1)) / 10 ^ (16 : Int)
      ≤ 2 ^ 53 * 2 ^ exponent below / 10 ^ (16 : Int) :=
        div_le_div_of_nonneg_right
          ((zpow_floorLog10_le (magnitude_pos hrank)).trans (magnitude_succ_le below))
          (by positivity)
    _ < 2 ^ exponent below := by
        rw [div_lt_iff₀ (by positivity), mul_comm]
        exact mul_lt_mul_of_pos_left (by norm_num) hunit

/-- With so many digits the nearer of the two neighbours lies in the interval. -/
theorem exists_decimalOf?_seventeen (hrank : 0 < rank) : ∃ d, decimalOf? rank 17 = some d := by
  have hclose := zpow_floorLog10_lt hrank
  have hpositive := magnitude_pos hrank
  unfold decimalOf?
  rw [show ((17 - 1 : Nat) : Int) = 16 by rfl]
  dsimp only
  generalize floorLog10 (magnitude rank) - 16 = power at hclose ⊢
  -- The magnitude is measured in units of the grid of seventeen digits.
  have hgrid : (0 : ℚ) < 10 ^ power := by positivity
  generalize hscaled : magnitude rank / (10 : ℚ) ^ power = scaled
  have hmagnitude : magnitude rank = scaled * 10 ^ power := by
    rw [← hscaled, div_mul_cancel₀ _ hgrid.ne']
  have hscaledPos : 0 < scaled := by
    rw [← hscaled]
    exact div_pos hpositive hgrid
  have hfloor : ((scaled.floor.toNat : ℕ) : ℚ) = scaled.floor := by
    have hnonneg : 0 ≤ scaled.floor := Rat.le_floor_iff.2 (by exact_mod_cast hscaledPos.le)
    rw [← Int.cast_natCast, Int.toNat_of_nonneg hnonneg]
  have hlow : ((scaled.floor.toNat : ℕ) : ℚ) ≤ scaled := by
    rw [hfloor]
    exact Rat.floor_le scaled
  have hhigh : scaled < (scaled.floor.toNat : ℕ) + 1 := by
    rw [hfloor]
    exact_mod_cast Rat.lt_floor_add_one scaled
  generalize scaled.floor.toNat = below at hlow hhigh ⊢
  -- What is half a unit away still rounds to the rank, since the grid is finer than the ranks.
  have hnear {n : Nat} (h : |(n : ℚ) - scaled| ≤ 1 / 2) :
      roundsTo rank (Decimal.toRat ⟨n, power⟩) = true := by
    apply roundsTo_of_abs_lt hrank
    rw [Decimal.toRat, hmagnitude, ← sub_mul, abs_mul, abs_of_pos hgrid]
    calc |(n : ℚ) - scaled| * 10 ^ power ≤ 1 / 2 * 10 ^ power :=
          mul_le_mul_of_nonneg_right h hgrid.le
      _ < 1 / 2 * 2 ^ exponent (rank - 1) := mul_lt_mul_of_pos_left hclose (by norm_num)
  split_ifs with hlower hfirst hsecond hfirst hsecond
  · exact ⟨_, rfl⟩
  · exact ⟨_, rfl⟩
  · refine absurd (hnear ?_) hfirst
    rw [abs_le]
    constructor <;> rcases hlower with h | ⟨h, -⟩ <;> linarith
  · exact ⟨_, rfl⟩
  · exact ⟨_, rfl⟩
  · refine absurd (hnear ?_) hfirst
    rw [not_or, not_lt] at hlower
    have hhalf := hlower.1
    push_cast
    rw [abs_le]
    constructor <;> linarith

theorem roundsTo_decimalOf? {digits : Nat} {d : Decimal} (h : decimalOf? rank digits = some d) :
    roundsTo rank d.toRat = true := by
  unfold decimalOf? at h
  dsimp only at h
  split_ifs at h with hlower hnear hfar hnear hfar
  · rwa [← Option.some.inj h]
  · rwa [← Option.some.inj h]
  · rwa [← Option.some.inj h]
  · rwa [← Option.some.inj h]

theorem roundsTo_shortestFrom (hrank : 0 < rank) {attempts digits : Nat}
    (h : attempts + digits = 17) :
    roundsTo rank (shortestFrom rank attempts digits).toRat = true := by
  induction attempts generalizing digits with
  | zero =>
    obtain rfl : digits = 17 := by omega
    obtain ⟨d, hd⟩ := exists_decimalOf?_seventeen hrank
    rw [shortestFrom, hd]
    exact roundsTo_decimalOf? hd
  | succ attempts ih =>
    rw [shortestFrom]
    split
    · rename_i d hd
      exact roundsTo_decimalOf? hd
    · exact ih (by omega)

/-- The shortest decimal rounds to the magnitude that it stands for. -/
theorem roundsTo_shortest (hrank : 0 < rank) : roundsTo rank (shortest rank).toRat = true :=
  roundsTo_shortestFrom hrank rfl

/-! ## 4. What is written -/

/-- What digits with a point among them are worth. -/
def pointedValue (cs : List Char) : ℚ :=
  let fraction := (cs.dropWhile (· ≠ '.')).drop 1
  Nat.ofDigitChars 10 (cs.takeWhile (· ≠ '.') ++ fraction) 0 * 10 ^ (-(fraction.length : Int))

/-- The exponent that is written behind a mark. -/
def writtenExponent : List Char → Int
  | '-' :: digits => -Nat.ofDigitChars 10 digits 0
  | _ :: digits => Nat.ofDigitChars 10 digits 0
  | [] => 0

/-- What a number that is written is worth. -/
def writtenValue (cs : List Char) : ℚ :=
  pointedValue (cs.takeWhile (· ≠ 'e')) * 10 ^ writtenExponent ((cs.dropWhile (· ≠ 'e')).drop 1)

section Reading

variable {cs : List Char} {mark : Char}

theorem takeWhile_of_not_mem (h : mark ∉ cs) :
    cs.takeWhile (· ≠ mark) = cs ∧ cs.dropWhile (· ≠ mark) = [] := by
  have hcs : ∀ c ∈ cs, decide (c ≠ mark) = true := fun c hc =>
    decide_eq_true fun hmark => h (hmark ▸ hc)
  exact ⟨List.takeWhile_eq_self_iff.2 hcs, List.dropWhile_eq_nil_iff.2 hcs⟩

theorem takeWhile_append_cons (rest : List Char) (h : mark ∉ cs) :
    (cs ++ mark :: rest).takeWhile (· ≠ mark) = cs ∧
      (cs ++ mark :: rest).dropWhile (· ≠ mark) = mark :: rest := by
  have hcs : ∀ c ∈ cs, decide (c ≠ mark) = true := fun c hc =>
    decide_eq_true fun hmark => h (hmark ▸ hc)
  rw [List.takeWhile_append_of_pos hcs, List.dropWhile_append_of_pos hcs]
  simp

theorem pointedValue_of_not_mem (h : '.' ∉ cs) : pointedValue cs = Nat.ofDigitChars 10 cs 0 := by
  obtain ⟨hwhole, hrest⟩ := takeWhile_of_not_mem h
  rw [pointedValue, hwhole, hrest]
  simp

theorem pointedValue_append (rest : List Char) (h : '.' ∉ cs) :
    pointedValue (cs ++ '.' :: rest) =
      Nat.ofDigitChars 10 (cs ++ rest) 0 * 10 ^ (-(rest.length : Int)) := by
  obtain ⟨hwhole, hrest⟩ := takeWhile_append_cons rest h
  rw [pointedValue, hwhole, hrest]
  rfl

theorem writtenValue_of_not_mem (h : 'e' ∉ cs) : writtenValue cs = pointedValue cs := by
  obtain ⟨hmantissa, hrest⟩ := takeWhile_of_not_mem h
  rw [writtenValue, hmantissa, hrest]
  simp [writtenExponent]

theorem writtenValue_append (rest : List Char) (h : 'e' ∉ cs) :
    writtenValue (cs ++ 'e' :: rest) = pointedValue cs * 10 ^ writtenExponent rest := by
  obtain ⟨hmantissa, hrest⟩ := takeWhile_append_cons rest h
  rw [writtenValue, hmantissa, hrest]
  rfl

end Reading

theorem not_mem_of_digits {cs : List Char} (h : ∀ c ∈ cs, c.isDigit = true) :
    '.' ∉ cs ∧ 'e' ∉ cs :=
  ⟨fun hmem => absurd (h _ hmem) (by decide), fun hmem => absurd (h _ hmem) (by decide)⟩

/-- The exponent has a sign, and at least two digits. -/
theorem writtenExponent_eq (exponent : Int) :
    let power := Nat.toDigits 10 exponent.natAbs
    writtenExponent ((if exponent < 0 then '-' else '+') ::
      (if power.length < 2 then '0' :: power else power)) = exponent := by
  intro power
  have hpower : Nat.ofDigitChars 10 (if power.length < 2 then '0' :: power else power) 0 =
      exponent.natAbs := by
    split
    · rw [Nat.ofDigitChars_cons]
      exact Nat.ofDigitChars_ten_toDigits
    · exact Nat.ofDigitChars_ten_toDigits
  by_cases hnegative : exponent < 0
  · rw [if_pos hnegative, writtenExponent, hpower]
    omega
  · rw [if_neg hnegative, writtenExponent, hpower]
    · omega
    · decide

theorem writtenMantissa {digits : List Char} (hdigits : ∀ c ∈ digits, c.isDigit = true) :
    let mantissa := digits.take 1 ++ match digits.tail with
      | [] => []
      | tail => '.' :: tail
    'e' ∉ mantissa ∧ pointedValue mantissa =
      Nat.ofDigitChars 10 digits 0 * 10 ^ (1 - digits.length : Int) := by
  have hmarks := not_mem_of_digits hdigits
  -- Without a second digit there is no point.
  match digits with
  | [] => simp [pointedValue]
  | [d] =>
    refine ⟨hmarks.2, ?_⟩
    show pointedValue [d] = _
    rw [pointedValue_of_not_mem hmarks.1]
    simp
  | first :: second :: tail =>
    obtain ⟨hfirst, hothers⟩ := List.forall_mem_cons.1 hdigits
    have hsingle := not_mem_of_digits (List.forall_mem_singleton.2 hfirst)
    refine ⟨?_, ?_⟩
    · show 'e' ∉ [first] ++ '.' :: second :: tail
      exact List.not_mem_append hsingle.2
        (List.not_mem_cons_of_ne_of_not_mem (by decide) (not_mem_of_digits hothers).2)
    · show pointedValue ([first] ++ '.' :: second :: tail) = _
      rw [pointedValue_append _ hsingle.1]
      congr 2

theorem isDigit_of_mem_zeros {n : Nat} : ∀ c ∈ List.replicate n '0', c.isDigit = true := by
  intro c hc
  rw [(List.mem_replicate.1 hc).2]
  rfl

/-- Behind the point the zeros come first. -/
theorem writtenValue_fraction {digits : List Char} (hdigits : ∀ c ∈ digits, c.isDigit = true)
    (zeros : Nat) :
    writtenValue ('0' :: '.' :: List.replicate zeros '0' ++ digits) =
      Nat.ofDigitChars 10 digits 0 * 10 ^ (-((zeros + digits.length : Nat) : Int)) := by
  have hfraction := List.forall_mem_append.2 ⟨isDigit_of_mem_zeros (n := zeros), hdigits⟩
  have hmark : 'e' ∉ '0' :: '.' :: (List.replicate zeros '0' ++ digits) := by
    simpa using (not_mem_of_digits hfraction).2
  rw [List.cons_append, List.cons_append, writtenValue_of_not_mem hmark, ← List.singleton_append,
    pointedValue_append _ (by decide), List.singleton_append, Nat.ofDigitChars_cons,
    Nat.ofDigitChars_append, Nat.ofDigitChars_replicate_zero, List.length_append,
    List.length_replicate]
  rfl

theorem writtenValue_inside {digits : List Char} (hdigits : ∀ c ∈ digits, c.isDigit = true)
    {n : Nat} (hinside : n < digits.length) :
    writtenValue (digits.take n ++ '.' :: digits.drop n) =
      Nat.ofDigitChars 10 digits 0 * 10 ^ (n - digits.length : Int) := by
  have hwhole := not_mem_of_digits fun c (hc : c ∈ digits.take n) =>
    hdigits c (List.mem_of_mem_take hc)
  have hrest := not_mem_of_digits fun c (hc : c ∈ digits.drop n) =>
    hdigits c (List.mem_of_mem_drop hc)
  have hmark : 'e' ∉ digits.take n ++ '.' :: digits.drop n :=
    List.not_mem_append hwhole.2 (List.not_mem_cons_of_ne_of_not_mem (by decide) hrest.2)
  rw [writtenValue_of_not_mem hmark, pointedValue_append _ hwhole.1, List.take_append_drop,
    List.length_drop]
  congr 2
  omega

/-- Before the point the zeros come last, and a single one stands behind it. -/
theorem writtenValue_whole {digits : List Char} (hdigits : ∀ c ∈ digits, c.isDigit = true)
    (zeros : Nat) :
    writtenValue (digits ++ List.replicate zeros '0' ++ ['.', '0']) =
      Nat.ofDigitChars 10 digits 0 * 10 ^ zeros := by
  have hwhole := not_mem_of_digits
    (List.forall_mem_append.2 ⟨hdigits, isDigit_of_mem_zeros (n := zeros)⟩)
  have hlast (m : Nat) : Nat.ofDigitChars 10 ['0'] m = 10 * m := by
    rw [Nat.ofDigitChars_cons]
    rfl
  rw [writtenValue_of_not_mem (List.not_mem_append hwhole.2 (by decide)),
    pointedValue_append _ hwhole.1, Nat.ofDigitChars_append, Nat.ofDigitChars_append,
    Nat.ofDigitChars_replicate_zero, hlast]
  push_cast
  norm_num
  ring

/-- Written digits are worth what they are by the place of their point. -/
theorem writtenValue_writeDigits {digits : List Char} (hdigits : ∀ c ∈ digits, c.isDigit = true)
    (point : Int) :
    writtenValue (writeDigits digits point) =
      Nat.ofDigitChars 10 digits 0 * 10 ^ (point - digits.length) := by
  have hten : (10 : ℚ) ≠ 0 := by norm_num
  unfold writeDigits
  split_ifs with hexponential hsmall
  · -- One digit stands before the point, the others behind it.
    have hmantissa := writtenMantissa hdigits
    dsimp only
    generalize digits.take 1 ++ (match digits.tail with
      | [] => []
      | tail => '.' :: tail) = mantissa at hmantissa ⊢
    obtain ⟨hmark, hvalue⟩ := hmantissa
    rw [List.append_assoc, List.cons_append, List.cons_append, List.nil_append,
      writtenValue_append _ hmark, hvalue, writtenExponent_eq, mul_assoc, ← zpow_add₀ hten]
    congr 2
    ring
  · rw [writtenValue_fraction hdigits]
    congr 2
    push_cast
    omega
  · obtain ⟨n, rfl⟩ : ∃ n : Nat, point = n := ⟨point.toNat, by omega⟩
    dsimp only
    rw [Int.toNat_natCast]
    -- The point stands among the digits or behind the last one.
    rcases Nat.lt_or_ge n digits.length with hinside | houtside
    · have hfraction : (digits.drop n).isEmpty = false := by simpa using hinside
      rw [hfraction, List.length_take_of_le hinside.le, Nat.sub_self, List.replicate_zero,
        List.append_nil, if_neg Bool.false_ne_true]
      exact writtenValue_inside hdigits hinside
    · obtain ⟨zeros, rfl⟩ := Nat.exists_eq_add_of_le houtside
      have hvalue := writtenValue_whole hdigits zeros
      rw [List.take_of_length_le houtside, List.drop_of_length_le houtside, List.isEmpty_nil,
        if_pos rfl, Nat.add_sub_cancel_left, hvalue]
      push_cast
      rw [add_sub_cancel_left, zpow_natCast]

/-! ## 5. Numbers and their texts -/

/-- The digits without zeros at the end, and the place of their point, are worth the decimal. -/
theorem Decimal.layout_spec (d : Decimal) :
    (∀ c ∈ d.layout.1, c.isDigit = true) ∧
      Nat.ofDigitChars 10 d.layout.1 0 * (10 : ℚ) ^ (d.layout.2 - d.layout.1.length) = d.toRat := by
  unfold Decimal.layout
  dsimp only
  have hall := Json.isDigit_of_mem_toDigits d.digits
  have hvalue : Nat.ofDigitChars 10 (Nat.toDigits 10 d.digits) 0 = d.digits :=
    Nat.ofDigitChars_ten_toDigits
  generalize Nat.toDigits 10 d.digits = all at hall hvalue ⊢
  -- Behind the digits that are kept stand only zeros.
  have hsplit : all = (all.reverse.dropWhile (· = '0')).reverse ++
      (all.reverse.takeWhile (· = '0')).reverse := by
    rw [← List.reverse_append, List.takeWhile_append_dropWhile, List.reverse_reverse]
  have hzeros : all.reverse.takeWhile (· = '0') =
      List.replicate (all.reverse.takeWhile (· = '0')).length '0' :=
    List.eq_replicate_of_mem fun c hc => by
      have hzero := List.mem_takeWhile_imp hc
      exact of_decide_eq_true hzero
  rw [hzeros, List.reverse_replicate] at hsplit
  generalize (all.reverse.dropWhile (· = '0')).reverse = kept at hsplit ⊢
  generalize (all.reverse.takeWhile (· = '0')).length = zeros at hsplit
  subst hsplit
  refine ⟨fun c hc => hall c (List.mem_append_left _ hc), ?_⟩
  rw [Nat.ofDigitChars_append, Nat.ofDigitChars_replicate_zero] at hvalue
  rw [Decimal.toRat, ← hvalue, List.length_append, List.length_replicate]
  have hpoint : ((kept.length + zeros : Nat) : Int) + d.power - kept.length = zeros + d.power := by
    push_cast
    ring
  rw [hpoint, zpow_add₀ (by norm_num), zpow_natCast]
  push_cast
  ring

theorem toRat_shortest_pos (hrank : 0 < rank) : 0 < (shortest rank).toRat := by
  have hlow := (bounds_of_roundsTo (roundsTo_shortest hrank)).1
  have hpositive := magnitude_pos hrank
  have hbelow := magnitude_nonneg (rank - 1)
  linarith

theorem writtenValue_writeMagnitude (rank : Nat) :
    writtenValue (writeMagnitude rank) = if rank = 0 then 0 else (shortest rank).toRat := by
  unfold writeMagnitude
  split_ifs with hrank
  · rw [show "0.0".toList = ['0'] ++ '.' :: ['0'] by rfl, writtenValue_of_not_mem (by decide),
      pointedValue_append _ (by decide)]
    exact zero_mul _
  · obtain ⟨hdigits, hvalue⟩ := (shortest rank).layout_spec
    dsimp only
    rw [writtenValue_writeDigits hdigits, hvalue]

/-- A magnitude can be told from how it is written. -/
theorem writeMagnitude_injective : Function.Injective writeMagnitude := by
  intro rank rank' h
  have hvalue := congrArg writtenValue h
  rw [writtenValue_writeMagnitude, writtenValue_writeMagnitude] at hvalue
  split_ifs at hvalue with hzero hzero' hzero'
  · rw [hzero, hzero']
  · exact absurd hvalue (toRat_shortest_pos (Nat.pos_of_ne_zero hzero')).ne
  · exact absurd hvalue (toRat_shortest_pos (Nat.pos_of_ne_zero hzero)).ne'
  · have hrounds := roundsTo_shortest (Nat.pos_of_ne_zero hzero)
    rw [hvalue] at hrounds
    exact rank_eq_of_roundsTo hrounds (roundsTo_shortest (Nat.pos_of_ne_zero hzero'))

theorem layout_ne_nil {d : Decimal} (h : 0 < d.toRat) : d.layout.1 ≠ [] := by
  intro hnil
  have hvalue := d.layout_spec.2
  rw [hnil] at hvalue
  rw [← hvalue] at h
  simp at h

/-- What is written begins with a digit, and holds a point or the mark of an exponent. -/
theorem writeDigits_form {digits : List Char} (hne : digits ≠ [])
    (hdigits : ∀ c ∈ digits, c.isDigit = true) (point : Int) :
    (∃ c cs, writeDigits digits point = c :: cs ∧ c.isDigit = true) ∧
      ('.' ∈ writeDigits digits point ∨ 'e' ∈ writeDigits digits point) := by
  obtain ⟨d, tail, rfl⟩ := List.exists_cons_of_ne_nil hne
  have hd := (List.forall_mem_cons.1 hdigits).1
  unfold writeDigits
  split_ifs with hexponential hsmall
  · exact ⟨⟨d, _, rfl, hd⟩, .inr (by simp)⟩
  · exact ⟨⟨'0', _, rfl, rfl⟩, .inl (by simp)⟩
  · obtain ⟨n, hn⟩ : ∃ n : Nat, point.toNat = n + 1 := ⟨point.toNat - 1, by omega⟩
    dsimp only
    rw [hn, List.take_succ_cons]
    exact ⟨⟨d, _, rfl, hd⟩, .inl (by simp)⟩

theorem writeMagnitude_form (rank : Nat) :
    (∃ c cs, writeMagnitude rank = c :: cs ∧ c.isDigit = true) ∧
      ('.' ∈ writeMagnitude rank ∨ 'e' ∈ writeMagnitude rank) := by
  unfold writeMagnitude
  split_ifs with hrank
  · exact ⟨⟨'0', ['.', '0'], rfl, rfl⟩, .inl (by decide)⟩
  · exact writeDigits_form (layout_ne_nil (toRat_shortest_pos (Nat.pos_of_ne_zero hrank)))
      (shortest rank).layout_spec.1 _

/-- A sign can be told from digits. -/
theorem signed_inj {p p' : Prop} [Decidable p] [Decidable p'] {cs cs' : List Char}
    (hcs : ∃ d ds, cs = d :: ds ∧ d.isDigit = true)
    (hcs' : ∃ d ds, cs' = d :: ds ∧ d.isDigit = true)
    (h : (if p then ['-'] else []) ++ cs = (if p' then ['-'] else []) ++ cs') :
    (p ↔ p') ∧ cs = cs' := by
  obtain ⟨d, ds, rfl, hd⟩ := hcs
  obtain ⟨d', ds', rfl, hd'⟩ := hcs'
  -- A sign is no digit, so it cannot be on one side only.
  by_cases hp : p
  · by_cases hp' : p'
    · rw [if_pos hp, if_pos hp'] at h
      exact ⟨iff_of_true hp hp', List.append_cancel_left h⟩
    · rw [if_pos hp, if_neg hp'] at h
      rw [← (List.cons.inj h).1] at hd'
      cases hd'
  · by_cases hp' : p'
    · rw [if_neg hp, if_pos hp'] at h
      rw [(List.cons.inj h).1] at hd
      cases hd
    · rw [if_neg hp, if_neg hp'] at h
      exact ⟨iff_of_false hp hp', h⟩

/-- The text of a finite number is no word, with or without a sign. -/
theorem toText_finite_ne (negative : Bool) (rank : Fin rankBound) {first : Char}
    (hfirst : first.isDigit = false) (hsign : first ≠ '-') (rest : List Char) :
    toText (.finite negative rank) ≠ Text.ofChars (first :: rest) ∧
      toText (.finite negative rank) ≠ Text.ofChars ('-' :: first :: rest) := by
  obtain ⟨c, cs, hwritten, hdigit⟩ := (writeMagnitude_form rank.val).1
  rw [toText, hwritten]
  constructor
  · intro h
    have hchars := Text.ofChars_injective h
    cases negative with
    | true => exact hsign (List.cons.inj hchars).1.symm
    | false =>
      rw [(List.cons.inj hchars).1, hfirst] at hdigit
      cases hdigit
  · intro h
    have hchars := Text.ofChars_injective h
    cases negative with
    | true =>
      rw [(List.cons.inj (List.cons.inj hchars).2).1, hfirst] at hdigit
      cases hdigit
    | false =>
      rw [(List.cons.inj hchars).1] at hdigit
      cases hdigit

theorem toText_infinite (negative : Bool) :
    toText (.infinite negative) = Text.ofChars (if negative then ['-', 'i', 'n', 'f']
      else ['i', 'n', 'f']) := by
  cases negative <;> rfl

theorem toText_finite_ne_infinite (negative negative' : Bool) (rank : Fin rankBound) :
    toText (.finite negative rank) ≠ toText (.infinite negative') := by
  have hword := toText_finite_ne negative rank (show 'i'.isDigit = false by rfl) (by decide)
    ['n', 'f']
  rw [toText_infinite]
  cases negative' with
  | true => exact hword.2
  | false => exact hword.1

theorem toText_finite_ne_nan (negative : Bool) (rank : Fin rankBound) :
    toText (.finite negative rank) ≠ toText .nan :=
  (toText_finite_ne negative rank (by decide) (by decide) ['a', 'n']).1

/-- No two numbers have the same text. -/
theorem toText_injective : Function.Injective toText := by
  intro x y h
  -- Behind its sign a number has a digit where a word has a letter.
  cases x with
  | finite negative rank =>
    cases y with
    | finite negative' rank' =>
      have hchars := Text.ofChars_injective h
      obtain ⟨hsign, hwritten⟩ := signed_inj (writeMagnitude_form rank.val).1
        (writeMagnitude_form rank'.val).1 hchars
      rw [Bool.eq_iff_iff.2 hsign, Fin.ext (writeMagnitude_injective hwritten)]
    | infinite negative' => exact absurd h (toText_finite_ne_infinite _ _ _)
    | nan => exact absurd h (toText_finite_ne_nan _ _)
  | infinite negative =>
    cases y with
    | finite negative' rank => exact absurd h.symm (toText_finite_ne_infinite _ _ _)
    | infinite negative' =>
      rw [toText_infinite, toText_infinite] at h
      cases negative <;> cases negative' <;> first | rfl | exact absurd h (by decide)
    | nan => cases negative <;> exact absurd h (by decide)
  | nan =>
    cases y with
    | finite negative rank => exact absurd h.symm (toText_finite_ne_nan _ _)
    | infinite negative => cases negative <;> exact absurd h (by decide)
    | nan => rfl

/-- What the text of a number holds and that of an integer does not: a point, the mark of an
exponent, or a word. -/
theorem exists_mark_mem_toText (x : Binary64) :
    ∃ c, .char c ∈ x.toText ∧ (c = '.' ∨ c = 'e' ∨ c = 'n') := by
  cases x with
  | finite negative rank =>
    have hmem {c : Char} (hc : c ∈ writeMagnitude rank.val) :
        .char c ∈ toText (.finite negative rank) :=
      List.mem_map_of_mem (List.mem_append_right _ hc)
    rcases (writeMagnitude_form rank.val).2 with hpoint | hmark
    · exact ⟨'.', hmem hpoint, .inl rfl⟩
    · exact ⟨'e', hmem hmark, .inr (.inl rfl)⟩
  | infinite negative => exact ⟨'n', by cases negative <;> decide, .inr (.inr rfl)⟩
  | nan => exact ⟨'n', by decide, .inr (.inr rfl)⟩

theorem toText_ne_integer (x : Binary64) (n : Int) : x.toText ≠ Integer.toText n := by
  intro h
  obtain ⟨c, hmem, hc⟩ := x.exists_mark_mem_toText
  rw [h] at hmem
  rcases Numeral.char_of_mem_toText hmem with hsign | ⟨d, hd, hdigit⟩
  · obtain rfl := CodePoint.char.inj hsign
    revert hc
    decide
  · obtain rfl := CodePoint.char.inj hd
    rcases hc with rfl | rfl | rfl <;> cases hdigit

end Binary64

/-- No two integers have the same text. -/
theorem Integer.toText_injective : Function.Injective toText := by
  intro m n h
  have hform (n : Int) : ∃ d ds, Nat.toDigits 10 n.natAbs = d :: ds ∧ d.isDigit = true :=
    Json.exists_toDigits_eq_cons n.natAbs
  obtain ⟨hsign, hdigits⟩ :=
    Binary64.signed_inj (hform m) (hform n) (Text.ofChars_injective h)
  have habs := toDigits_injective hdigits
  omega

end LogShipper
