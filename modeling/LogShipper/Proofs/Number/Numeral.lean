import LogShipper.Number.Numeral
import LogShipper.Proofs.Json.Scalars
import LogShipper.Proofs.Json.Sizes

/-!
# Integers in numerals

An integer that is written in decimal is read back, and an integer that was read from a numeral is
not too long to be written.
-/

namespace LogShipper.Numeral

/-! ## 1. Digits -/

theorem toNat_of_isDigit {c : Char} (h : c.isDigit = true) : 48 ≤ c.toNat ∧ c.toNat ≤ 57 := by
  simp only [Char.isDigit, Bool.and_eq_true, decide_eq_true_eq, UInt32.le_iff_toNat_le] at h
  exact h

theorem digitIn?_of_isDigit {c : Char} (h : c.isDigit = true) :
    digitIn? 10 (.char c) = some (c.toNat - '0'.toNat) := by
  have hbounds := toNat_of_isDigit h
  have hdigit : (CodePoint.char c).digit? = some (c.toNat - 48) := by
    unfold CodePoint.digit? CodePoint.value
    dsimp only
    rw [if_pos (by omega), if_pos (by omega)]
  have hsmall : c.toNat - 48 < 10 := by omega
  rw [digitIn?, hdigit]
  exact if_pos (decide_eq_true hsmall)

theorem lt_of_digitIn? {base d : Nat} {c : CodePoint} (h : digitIn? base c = some d) :
    d < base := by
  unfold digitIn? at h
  exact of_decide_eq_true (Option.filter_eq_some_iff.1 h).2

theorem moreDigits_ofChars {ds : List Char} (h : ∀ c ∈ ds, c.isDigit = true) :
    moreDigits 10 (Text.ofChars ds) = (ds.map fun c => c.toNat - '0'.toNat, []) := by
  induction ds with
  | nil => rfl
  | cons c ds ih =>
    rw [List.forall_mem_cons] at h
    have hc : c ≠ '_' := by
      rintro rfl
      exact absurd h.1 (by decide)
    have hrest := ih h.2
    rw [Text.ofChars] at hrest ⊢
    rw [List.map_cons, moreDigits, digitIn?_of_isDigit h.1]
    · simp only [hrest, List.map_cons]
    · rintro heq
      exact absurd (CodePoint.char.inj heq) hc
    · rintro d rest heq
      exact absurd (CodePoint.char.inj heq) hc

theorem digitRun_ofChars {ds : List Char} (h : ∀ c ∈ ds, c.isDigit = true) :
    digitRun 10 (Text.ofChars ds) = (ds.map fun c => c.toNat - '0'.toNat, []) := by
  cases ds with
  | nil => rfl
  | cons c ds =>
    rw [List.forall_mem_cons] at h
    have hrest := moreDigits_ofChars h.2
    rw [Text.ofChars] at hrest ⊢
    rw [List.map_cons, digitRun, digitIn?_of_isDigit h.1]
    simp only [hrest, List.map_cons]

theorem moreDigits_lt (base : Nat) (t : Text) : ∀ d ∈ (moreDigits base t).1, d < base := by
  fun_induction moreDigits base t with
  | case1 => exact nofun
  | case2 => exact nofun
  | case3 c rest hdigit => exact nofun
  | case4 c rest d hdigit digits after hrest ih =>
    rw [hrest] at ih
    exact List.forall_mem_cons.2 ⟨lt_of_digitIn? hdigit, ih⟩
  | case5 c rest _ _ hdigit => exact nofun
  | case6 c rest _ _ d hdigit digits after hrest ih =>
    rw [hrest] at ih
    exact List.forall_mem_cons.2 ⟨lt_of_digitIn? hdigit, ih⟩

theorem digitRun_lt (base : Nat) (t : Text) : ∀ d ∈ (digitRun base t).1, d < base := by
  fun_cases digitRun base t with
  | case1 => exact nofun
  | case2 c rest hdigit => exact nofun
  | case3 c rest d hdigit digits after hrest =>
    have hmore := moreDigits_lt base rest
    rw [hrest] at hmore
    exact List.forall_mem_cons.2 ⟨lt_of_digitIn? hdigit, hmore⟩

/-! ## 2. Integers -/

theorem dropWhile_isSpace {t : Text} (h : ∀ c ∈ t, isSpace c = false) :
    t.dropWhile isSpace = t := by
  cases t with
  | nil => rfl
  | cons c rest => rw [List.dropWhile_cons_of_neg (by simp [h c List.mem_cons_self])]

theorem trim_of_not_isSpace {t : Text} (h : ∀ c ∈ t, isSpace c = false) : trim t = t := by
  have hback : ∀ c ∈ t.reverse, isSpace c = false := fun c hc => h c (List.mem_reverse.1 hc)
  rw [trim, dropWhile_isSpace h, dropWhile_isSpace hback, List.reverse_reverse]

theorem isSpace_of_isDigit {c : Char} (h : c.isDigit = true) : isSpace (.char c) = false := by
  have hbounds := toNat_of_isDigit h
  unfold isSpace CodePoint.value
  grind

theorem ofDigits_eq (digits : List Nat) : ofDigits 10 digits = Json.ofDigits digits := rfl

theorem sign_toText (n : Int) :
    sign (Integer.toText n) = (decide (n < 0), Text.ofChars (Nat.toDigits 10 n.natAbs)) := by
  obtain ⟨c, ds, hds, hc⟩ := Json.exists_toDigits_eq_cons n.natAbs
  by_cases hn : n < 0
  · rw [Integer.toText, if_pos hn, decide_eq_true hn]
    rfl
  · rw [Integer.toText, if_neg hn, decide_eq_false hn, List.nil_append, hds]
    -- No digit is a sign.
    unfold sign
    split
    · rename_i heq
      obtain rfl := CodePoint.char.inj (List.cons.inj heq).1
      exact absurd hc (by decide)
    · rename_i heq
      obtain rfl := CodePoint.char.inj (List.cons.inj heq).1
      exact absurd hc (by decide)
    · rfl

/-- The decimal text of an integer is made of digits, but for a sign. -/
theorem char_of_mem_toText {n : Int} {c : CodePoint} (h : c ∈ Integer.toText n) :
    c = .char '-' ∨ ∃ d : Char, c = .char d ∧ d.isDigit = true := by
  obtain ⟨d, hd, rfl⟩ := List.mem_map.1 h
  rcases List.mem_append.1 hd with hd | hd
  · split at hd
    · obtain rfl := List.mem_singleton.1 hd
      exact .inl rfl
    · cases hd
  · exact .inr ⟨d, rfl, Json.isDigit_of_mem_toDigits _ d hd⟩

/-- An integer that can be written is read back from its decimal text. -/
theorem readInteger_toText {n : Int} (h : Integer.isOversized n = false) :
    readInteger 10 (Integer.toText n) = .ok n := by
  have hspace : ∀ c ∈ Integer.toText n, isSpace c = false := by
    intro c hc
    obtain rfl | ⟨d, rfl, hdigit⟩ := char_of_mem_toText hc
    · decide
    · exact isSpace_of_isDigit hdigit
  have hlength : (Nat.toDigits 10 n.natAbs).length ≤ Integer.maxDigits :=
    Json.length_toDigits_le (by decide) (Json.isOversized_eq_false_iff.1 h)
  have hvalue : ofDigits 10 ((Nat.toDigits 10 n.natAbs).map fun c => c.toNat - '0'.toNat) =
      n.natAbs := by
    rw [ofDigits_eq, Json.ofDigits_eq_ofDigitChars, Nat.ofDigitChars_ten_toDigits]
  -- There are digits, and nothing is behind them.
  have hsome : (((Nat.toDigits 10 n.natAbs).map fun c => c.toNat - '0'.toNat).isEmpty ||
      !([] : Text).isEmpty) = false := by
    obtain ⟨c, ds, hds, -⟩ := Json.exists_toDigits_eq_cons n.natAbs
    rw [hds]
    rfl
  -- In base ten nothing is marked.
  have hbody : afterBaseMark 10 (Text.ofChars (Nat.toDigits 10 n.natAbs)) =
      Text.ofChars (Nat.toDigits 10 n.natAbs) := rfl
  unfold readInteger readIntegerAs
  rw [trim_of_not_isSpace hspace, sign_toText]
  dsimp only
  rw [hbody, digitRun_ofChars (Json.isDigit_of_mem_toDigits _)]
  dsimp only
  rw [if_neg nofun, if_neg (by simp; omega), hsome, if_neg Bool.false_ne_true, hvalue]
  by_cases hn : n < 0
  · rw [decide_eq_true hn, if_pos rfl]
    exact congrArg _ (by omega)
  · rw [decide_eq_false hn, if_neg Bool.false_ne_true]
    exact congrArg _ (by omega)

/-- A numeral in base ten with more digits than can be written is not read. -/
theorem isOversized_of_readIntegerAs {literal t : Text} {n : Int}
    (h : readIntegerAs literal 10 t = .ok n) : Integer.isOversized n = false := by
  have hlt := digitRun_lt 10 (afterBaseMark 10 (sign (trim t)).2)
  unfold readIntegerAs at h
  dsimp only at h
  split at h
  · cases h
  · split at h
    · cases h
    · rename_i hshort
      split at h
      · cases h
      · obtain rfl := Except.ok.inj h
        have hbound : ofDigits 10 (digitRun 10 (afterBaseMark 10 (sign (trim t)).2)).1 <
            Nat.pow 10 Integer.maxDigits :=
          Json.ofDigits_lt hlt (by omega)
        rw [Json.isOversized_eq_false_iff]
        split
        · rwa [Int.natAbs_neg, Int.natAbs_natCast]
        · rwa [Int.natAbs_natCast]

end LogShipper.Numeral
