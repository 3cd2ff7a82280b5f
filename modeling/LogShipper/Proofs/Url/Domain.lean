import LogShipper.Endpoint
import LogShipper.Proofs.Except
import LogShipper.Proofs.Url.Percent
import Mathlib.Data.List.TakeWhile
import Mathlib.Tactic.SplitIfs

/-!
# Domain names in ASCII

A name in lower case becomes labels of small letters, digits and hyphens, and only such labels have
a Unicode form.  A label that is marked as encoded decodes to one with code points past ASCII.
-/

namespace LogShipper

/-! ## 1. Lower case -/

namespace CodePoint

theorem asciiLower_of_value_lt {c : CodePoint} (h : c.value < 0x41 ∨ 0x5A < c.value) :
    c.asciiLower = c := by
  cases c with
  | surrogate s => rfl
  | char c =>
    have hc : ¬ (c.val ≥ 'A'.val ∧ c.val ≤ 'Z'.val) := by
      rintro ⟨hlow, hhigh⟩
      rw [ge_iff_le, UInt32.le_iff_toNat_le] at hlow
      rw [UInt32.le_iff_toNat_le] at hhigh
      have hvalue : (CodePoint.char c).value = c.val.toNat := rfl
      have hA : 'A'.val.toNat = 0x41 := rfl
      have hZ : 'Z'.val.toNat = 0x5A := rfl
      omega
    exact congrArg CodePoint.char (dif_neg hc)

theorem value_asciiLower {c : CodePoint} (hlow : 0x41 ≤ c.value) (hhigh : c.value ≤ 0x5A) :
    c.asciiLower.value = c.value + 0x20 := by
  cases c with
  | surrogate s =>
    rw [value] at hhigh
    omega
  | char c =>
    have hc : c.val ≥ 'A'.val ∧ c.val ≤ 'Z'.val :=
      ⟨UInt32.le_iff_toNat_le.2 hlow, UInt32.le_iff_toNat_le.2 hhigh⟩
    have hlower : c.toLower.val = c.val + ('a'.val - 'A'.val) :=
      congrArg Char.val (dif_pos hc)
    show c.toLower.val.toNat = c.val.toNat + 0x20
    rw [hlower, UInt32.toNat_add]
    exact Nat.mod_eq_of_lt (Nat.lt_of_le_of_lt (Nat.add_le_add_right hhigh _) (by decide))

theorem isLower_toLower {c : Char} (hlow : 'A' ≤ c) (hhigh : c ≤ 'Z') :
    c.toLower.isLower = true := by
  have hvalue := value_asciiLower (c := .char c) hlow hhigh
  have hbounds : 0x41 ≤ (CodePoint.char c).value ∧ (CodePoint.char c).value ≤ 0x5A :=
    ⟨hlow, hhigh⟩
  have hfirst : 0x61 ≤ (CodePoint.char c).asciiLower.value := by omega
  have hlast : (CodePoint.char c).asciiLower.value ≤ 0x7A := by omega
  exact Bool.and_eq_true_iff.2 ⟨decide_eq_true (UInt32.le_iff_toNat_le.2 hfirst),
    decide_eq_true (UInt32.le_iff_toNat_le.2 hlast)⟩

theorem toLower_cases (c : Char) : c.toLower = c ∨ c.toLower.isLower = true := by
  by_cases hcapital : c.val ≥ 'A'.val ∧ c.val ≤ 'Z'.val
  · exact .inr (isLower_toLower hcapital.1 hcapital.2)
  · exact .inl (dif_neg hcapital)

theorem isAlpha_toLower {c : Char} (h : c.isAlpha = true) : c.toLower.isAlpha = true := by
  obtain hsame | hlower := toLower_cases c
  · rwa [hsame]
  · exact Bool.or_eq_true_iff.2 (.inr hlower)

theorem isAlphanum_of_isLower {c : Char} (h : c.isLower = true) : c.isAlphanum = true :=
  Bool.or_eq_true_iff.2 (.inl (Bool.or_eq_true_iff.2 (.inr h)))

/-- Lower case keeps a code point, or brings a capital to a small letter. -/
theorem asciiLower_cases (c : CodePoint) : c.asciiLower = c ∨
    c.value ≤ 0x5A ∧ c.asciiLower.value = c.value + 0x20 ∧ 0x61 ≤ c.asciiLower.value := by
  by_cases hcapital : 0x41 ≤ c.value ∧ c.value ≤ 0x5A
  · have hvalue := value_asciiLower hcapital.1 hcapital.2
    exact .inr ⟨hcapital.2, hvalue, by omega⟩
  · exact .inl (asciiLower_of_value_lt (by omega))

theorem asciiLower_asciiLower (c : CodePoint) : c.asciiLower.asciiLower = c.asciiLower := by
  obtain hsame | ⟨-, -, hsmall⟩ := asciiLower_cases c
  · rw [hsame, hsame]
  · exact asciiLower_of_value_lt (.inr (by omega))

set_option maxRecDepth 4000 in
/-- Small letters past ASCII stay past the capitals of ASCII. -/
theorem lt_lowerNumber {n : Nat} (h : 0x5A < n) : 0x5A < lowerNumber n := by
  have hruns : ∀ run ∈ capitalRuns, (0x5B : Int) ≤ run.1 + run.2.2.2 := by decide
  unfold lowerNumber
  split
  · rename_i first last step distance hfind
    have hrun := hruns _ (List.mem_of_find?_eq_some hfind)
    have hholds := List.find?_some hfind
    simp only [Bool.and_eq_true, decide_eq_true_eq] at hholds
    dsimp only at hrun
    omega
  · exact h

theorem asciiLower_ofNat {n : Nat} (h : 0x5A < n) : (ofNat n).asciiLower = ofNat n := by
  by_cases hsurrogate : 0xD800 ≤ n ∧ n < 0xE000
  · rw [ofNat, dif_pos hsurrogate]
    rfl
  · rw [ofNat, dif_neg hsurrogate]
    apply asciiLower_of_value_lt
    by_cases hvalid : n.isValidChar
    · have hchar : Char.ofNat n = Char.ofNatAux n hvalid := dif_pos hvalid
      rw [value, hchar]
      exact .inr h
    · -- A number that is none of a character stands for the character zero.
      have hchar : Char.ofNat n = '\x00' := dif_neg hvalid
      rw [value, hchar]
      exact .inl (by decide)

theorem isAscii_asciiLower {c : CodePoint} (h : c.isAscii = true) :
    c.asciiLower.isAscii = true := by
  obtain hsame | ⟨hcapital, hvalue, -⟩ := asciiLower_cases c
  · rwa [hsame]
  · exact decide_eq_true (by omega)

theorem isAscii_ofNat {n : Nat} (h : 0x80 ≤ n) (hmax : n ≤ 0x10FFFF) :
    (ofNat n).isAscii = false := by
  rw [isAscii, decide_eq_false_iff_not, Nat.not_lt]
  by_cases hsurrogate : 0xD800 ≤ n ∧ n < 0xE000
  · rw [ofNat, dif_pos hsurrogate, value]
    omega
  · have hvalid : n.isValidChar := by
      unfold Nat.isValidChar
      omega
    have hchar : Char.ofNat n = Char.ofNatAux n hvalid := dif_pos hvalid
    rw [ofNat, dif_neg hsurrogate, value, hchar]
    exact h

end CodePoint

namespace Text

theorem mem_lowerAfter {before t : Text} {c : CodePoint} (h : c ∈ lowerAfter before t) :
    c.asciiLower = c := by
  induction t generalizing before with
  | nil => cases h
  | cons d rest ih =>
    rw [lowerAfter, List.mem_append] at h
    rcases h with h | h
    · split at h
      · obtain rfl := List.mem_singleton.1 h
        exact d.asciiLower_asciiLower
      · rename_i hascii
        split at h
        · rcases List.mem_pair.1 h with rfl | rfl <;> decide
        · split at h
          · obtain rfl := List.mem_singleton.1 h
            split <;> decide
          · obtain rfl := List.mem_singleton.1 h
            simp only [CodePoint.isAscii, decide_eq_true_eq] at hascii
            exact CodePoint.asciiLower_ofNat (CodePoint.lt_lowerNumber (by omega))
    · exact ih h

theorem map_asciiLower_eq_self_iff {t : Text} :
    t.map CodePoint.asciiLower = t ↔ ∀ c ∈ t, c.asciiLower = c := by
  induction t with
  | nil => simp
  | cons c t ih => simp [ih]

/-- In lower case there are no capitals of ASCII. -/
theorem map_asciiLower_toLower (t : Text) : t.toLower.map CodePoint.asciiLower = t.toLower := by
  rw [map_asciiLower_eq_self_iff]
  intro c hc
  unfold toLower at hc
  split at hc
  · obtain ⟨d, -, rfl⟩ := List.mem_map.1 hc
    exact d.asciiLower_asciiLower
  · exact mem_lowerAfter hc

theorem mem_of_mem_joinWith {separator : Text} {ts : List Text} {c : CodePoint}
    (h : c ∈ joinWith separator ts) : c ∈ separator ∨ ∃ t ∈ ts, c ∈ t := by
  fun_induction joinWith separator ts with
  | case1 => cases h
  | case2 t => exact .inr ⟨t, List.mem_singleton_self t, h⟩
  | case3 t ts _ ih =>
    rw [List.mem_append, List.mem_append] at h
    rcases h with (h | h) | h
    · exact .inr ⟨t, List.mem_cons_self, h⟩
    · exact .inl h
    · refine (ih h).imp_right ?_
      rintro ⟨piece, hpiece, hc⟩
      exact ⟨piece, List.mem_cons_of_mem _ hpiece, hc⟩

theorem mem_joinWith {separator : Text} {ts : List Text} {t : Text} {c : CodePoint}
    (ht : t ∈ ts) (h : c ∈ t) : c ∈ joinWith separator ts := by
  fun_induction joinWith separator ts with
  | case1 => cases ht
  | case2 other =>
    obtain rfl := List.mem_singleton.1 ht
    exact h
  | case3 other ts _ ih =>
    rcases List.mem_cons.1 ht with rfl | ht
    · exact List.mem_append_left _ (List.mem_append_left _ h)
    · exact List.mem_append_right _ (ih ht)

end Text

namespace Url

/-! ## 2. Labels in ASCII -/

/-- A small letter, a digit or a hyphen. -/
def isLabelChar (c : Char) : Bool :=
  c.isLower || c.isDigit || c = '-'

theorem isHostSafe_of_isLabelChar {c : Char} (h : isLabelChar c = true) : isHostSafe c = true := by
  simp only [isLabelChar, Bool.or_eq_true, decide_eq_true_eq] at h
  rcases h with (h | h) | rfl
  · simp [isHostSafe, isUnreserved, CodePoint.isAlphanum_of_isLower h]
  · simp [isHostSafe, isUnreserved, Char.isAlphanum, h]
  · decide

theorem toLower_of_isLabelChar {c : Char} (h : isLabelChar c = true) : c.toLower = c := by
  have hbounds : (CodePoint.char c).value < 0x41 ∨ 0x5A < (CodePoint.char c).value := by
    simp only [isLabelChar, Char.isDigit, Bool.or_eq_true, Bool.and_eq_true,
      decide_eq_true_eq, ge_iff_le, UInt32.le_iff_toNat_le] at h
    obtain (hsmall | ⟨-, hhigh⟩) | rfl := h
    · exact .inr (Nat.lt_of_lt_of_le (by decide) (toNat_of_isLower hsmall).1)
    · exact .inl (Nat.lt_of_le_of_lt hhigh (by decide))
    · exact .inl (by decide)
  exact CodePoint.char.inj (CodePoint.asciiLower_of_value_lt hbounds)

namespace Domain

/-- Within ASCII the tables hold label characters only, none of them for some contexts only. -/
theorem ascii_tables : ∀ n < 0x80,
    (permittedRanges.contains n = true → isLabelChar (Char.ofNat n) = true) ∧
      joinerRanges.contains n = false ∧ contextualRanges.contains n = false := by
  decide +kernel

theorem isLabelChar_of_permitted {c : CodePoint} (hascii : c.isAscii = true)
    (h : permittedRanges.contains c.value = true) : c.satisfies isLabelChar = true := by
  cases c with
  | surrogate s =>
    have hlt : 0xD800 + s.val < 0x80 := of_decide_eq_true hascii
    omega
  | char c =>
    have hc := (ascii_tables c.toNat (of_decide_eq_true hascii)).1 h
    rwa [Char.ofNat_toNat] at hc

/-- No code point of ASCII is permitted in some contexts only. -/
theorem permitted_of_isAscii {c : CodePoint} (hascii : c.isAscii = true)
    (h : permittedRanges.contains c.value = true ∨ joinerRanges.contains c.value = true ∨
      contextualRanges.contains c.value = true) : permittedRanges.contains c.value = true := by
  obtain ⟨-, hjoiner, hcontext⟩ := ascii_tables c.value (of_decide_eq_true hascii)
  rw [hjoiner, hcontext] at h
  simpa using h

theorem checkCodePoints_cons {label before rest : Text} {c : CodePoint}
    (h : checkCodePoints label before (c :: rest) = .ok ()) :
    (permittedRanges.contains c.value = true ∨ joinerRanges.contains c.value = true ∨
      contextualRanges.contains c.value = true) ∧
      checkCodePoints label (c :: before) rest = .ok () := by
  rw [checkCodePoints] at h
  split_ifs at h with hpermitted hjoiner hrefused hcontext hrefused
  · exact ⟨.inl hpermitted, h⟩
  · cases h
  · exact ⟨.inr (.inl hjoiner), h⟩
  · cases h
  · exact ⟨.inr (.inr hcontext), h⟩
  · cases h

theorem isLabelChar_of_checkCodePoints {label before t : Text}
    (h : checkCodePoints label before t = .ok ()) {c : CodePoint} (hc : c ∈ t)
    (hascii : c.isAscii = true) : c.satisfies isLabelChar = true := by
  induction t generalizing before with
  | nil => cases hc
  | cons d rest ih =>
    obtain ⟨hd, hrest⟩ := checkCodePoints_cons h
    rcases List.mem_cons.1 hc with rfl | hc
    · exact isLabelChar_of_permitted hascii (permitted_of_isAscii hascii hd)
    · exact ih hrest hc

theorem isLabelChar_of_checkLabel {label : Text} (h : checkLabel label = .ok ()) {c : CodePoint}
    (hc : c ∈ label) (hascii : c.isAscii = true) : c.satisfies isLabelChar = true := by
  simp only [checkLabel, guard_bind_eq_ok_iff] at h
  obtain ⟨-, -, -, -, -, h⟩ := h
  obtain ⟨⟨⟩, hcheck, -⟩ := bind_eq_ok_iff.1 h
  exact isLabelChar_of_checkCodePoints hcheck hc hascii

end Domain

/-! ## 3. Punycode -/

namespace Punycode

theorem isLabelChar_digitChar {d : Nat} (h : d < 36) : isLabelChar (digitChar d) = true := by
  have hall : ∀ d < 36, isLabelChar (digitChar d) = true := by decide
  exact hall d h

theorem isLabelChar_writeDistance (bias place distance : Nat) :
    ∀ c ∈ writeDistance bias place distance, isLabelChar c = true := by
  fun_induction writeDistance bias place distance with
  | case1 place distance t hlast =>
    have hle : t ≤ 26 := threshold_le place bias
    exact List.forall_mem_singleton.2 (isLabelChar_digitChar (by omega))
  | case2 place distance t hmore ih =>
    have hpos : 0 < t := threshold_pos place bias
    have hle : t ≤ 26 := threshold_le place bias
    have hdigit : (distance - t) % (36 - t) < 36 - t := Nat.mod_lt _ (by omega)
    exact List.forall_mem_cons.2 ⟨isLabelChar_digitChar (by omega), ih⟩

theorem isLabelChar_writeStep {basics : Nat} {progress : List Char × State} (n : Nat)
    (h : ∀ c ∈ progress.1, isLabelChar c = true) :
    ∀ c ∈ (writeStep basics progress n).1, isLabelChar c = true := by
  unfold writeStep
  dsimp only
  split
  · exact h
  · split
    · exact List.forall_mem_append.2 ⟨h, isLabelChar_writeDistance _ _ _⟩
    · exact h

theorem isLabelChar_foldl_writeStep {basics : Nat} (numbers : List Nat)
    {progress : List Char × State} (h : ∀ c ∈ progress.1, isLabelChar c = true) :
    ∀ c ∈ (numbers.foldl (writeStep basics) progress).1, isLabelChar c = true := by
  induction numbers generalizing progress with
  | nil => exact h
  | cons n numbers ih => exact ih (isLabelChar_writeStep n h)

theorem isLabelChar_writeNumbers {label : List Nat} {basics : Nat} (numbers : List Nat)
    (state : State) : ∀ c ∈ writeNumbers label basics numbers state, isLabelChar c = true := by
  induction numbers generalizing state with
  | nil => exact nofun
  | cons n numbers ih =>
    rw [writeNumbers]
    exact List.forall_mem_append.2 ⟨isLabelChar_foldl_writeStep label nofun, ih _⟩

/-- What is written for a label is made of its own code points in ASCII, hyphens and digits. -/
theorem isLabelChar_encode {label : Text}
    (h : ∀ c ∈ label, c.isAscii = true → c.satisfies isLabelChar = true) :
    IsSafe isLabelChar (encode label) := by
  have hbasics : IsSafe isLabelChar (label.filter CodePoint.isAscii) := by
    intro c hc
    obtain ⟨hmem, hascii⟩ := List.mem_filter.1 hc
    exact h c hmem hascii
  unfold encode
  dsimp only
  rw [IsSafe, List.forall_mem_append]
  constructor
  · split
    · exact nofun
    · exact List.forall_mem_append.2 ⟨hbasics, List.forall_mem_singleton.2 rfl⟩
  · intro c hc
    obtain ⟨d, hd, rfl⟩ := List.mem_map.1 hc
    exact isLabelChar_writeNumbers _ _ d hd

theorem isLabelChar_of_digitValue? {c : CodePoint} (h : (digitValue? c).isSome = true) :
    c.asciiLower.satisfies isLabelChar = true := by
  cases c with
  | surrogate s => cases h
  | char c =>
    have hkept : isLabelChar c = true → isLabelChar c.toLower = true := fun hlabel => by
      rwa [toLower_of_isLabelChar hlabel]
    rw [digitValue?] at h
    -- Small letters, capitals, and decimal digits.
    split_ifs at h with hsmall hcapital hdigit
    · have hlower : c.isLower = true :=
        Bool.and_eq_true_iff.2 ⟨decide_eq_true hsmall.1, decide_eq_true hsmall.2⟩
      exact hkept (by simp [isLabelChar, hlower])
    · have hlower := CodePoint.isLower_toLower hcapital.1 hcapital.2
      simp [CodePoint.asciiLower, CodePoint.satisfies, isLabelChar, hlower]
    · have hdecimal : c.isDigit = true :=
        Bool.and_eq_true_iff.2 ⟨decide_eq_true hdigit.1, decide_eq_true hdigit.2⟩
      exact hkept (by simp [isLabelChar, hdecimal])
    · cases h

theorem readDistance_digits {bias place weight sum distance : Nat} {t rest : Text}
    (h : readDistance bias place weight sum t = some (distance, rest)) :
    ∃ digits, t = digits ++ rest ∧ ∀ c ∈ digits, (digitValue? c).isSome = true := by
  induction t generalizing place weight sum with
  | nil => cases h
  | cons c t ih =>
    rw [readDistance] at h
    split at h
    · cases h
    · rename_i d hd
      have hc : (digitValue? c).isSome = true := by rw [hd]; rfl
      dsimp only at h
      split at h
      · obtain ⟨-, rfl⟩ := Prod.mk.inj (Option.some.inj h)
        exact ⟨[c], rfl, List.forall_mem_singleton.2 hc⟩
      · obtain ⟨digits, rfl, hdigits⟩ := ih h
        exact ⟨c :: digits, rfl, List.forall_mem_cons.2 ⟨hc, hdigits⟩⟩

variable {label t decoded : Text} {next place bias : Nat} {isFirst : Bool}

/-- Insertions take place within the label. -/
theorem place_le (total : Nat) (label : Text) : total % (label.length + 1) ≤ label.length :=
  Nat.le_of_lt_succ (Nat.mod_lt _ (Nat.succ_pos _))

/-- The label stays part of what comes out. -/
theorem subset_insertAll (h : insertAll label next place bias isFirst t = some decoded) :
    label ⊆ decoded := by
  fun_induction insertAll label next place bias isFirst t with
  | case1 label => exact Option.some.inj h ▸ List.Subset.refl _
  | case2 => cases h
  | case3 => cases h
  | case4 =>
    rename_i ih
    exact fun c hc => ih h ((List.mem_insertIdx (place_le _ _)).2 (.inr hc))

/-- All that is inserted is read from digits. -/
theorem insertAll_digits (h : insertAll label next place bias isFirst t = some decoded) :
    ∀ c ∈ t, (digitValue? c).isSome = true := by
  fun_induction insertAll label next place bias isFirst t with
  | case1 => exact nofun
  | case2 => cases h
  | case3 => cases h
  | case4 label _ _ _ _ c rest distance after hread _ _ _ _ ih =>
    obtain ⟨digits, hsplit, hdigits⟩ := readDistance_digits hread
    rw [hsplit]
    exact List.forall_mem_append.2 ⟨hdigits, ih h⟩

/-- What is inserted lies past ASCII. -/
theorem exists_insertAll (hnext : 0x80 ≤ next) (ht : t ≠ [])
    (h : insertAll label next place bias isFirst t = some decoded) :
    ∃ c ∈ decoded, c.isAscii = false := by
  cases t with
  | nil => exact absurd rfl ht
  | cons c rest =>
    rw [insertAll] at h
    split at h
    · cases h
    · rename_i distance after hread
      dsimp only at h
      split at h
      · cases h
      · rename_i hmax
        have hpast : 0x80 ≤ next + (place + distance) / (label.length + 1) :=
          Nat.le_trans hnext (Nat.le_add_right _ _)
        exact ⟨_, subset_insertAll h ((List.mem_insertIdx (place_le _ _)).2 (.inl rfl)),
          CodePoint.isAscii_ofNat hpast (Nat.le_of_not_lt hmax)⟩

/-- The part behind the last hyphen is inserted into the part before it. -/
theorem decode?_cases (t : Text) :
    ∃ base mark extended, t = base ++ mark ++ extended ∧ (∀ c ∈ mark, c = .char '-') ∧
      decode? t = insertAll base 0x80 0 72 true extended ∧
      (extended = [] → t = [] ∨ t.getLast? = some (.char '-')) := by
  by_cases h : .char '-' ∈ t
  · obtain ⟨after, before, hreverse, hafter⟩ := List.eq_append_cons_of_mem (List.mem_reverse.2 h)
    have ht : t = before.reverse ++ [.char '-'] ++ after.reverse := by
      rw [← List.reverse_reverse t, hreverse]
      simp
    -- What is behind the last mark is what comes before the first one from the end.
    have hrun : t.reverse.takeWhile (· ≠ .char '-') = after := by
      rw [hreverse, List.takeWhile_append_of_pos]
      · simp
      · exact fun c hc => decide_eq_true fun heq => hafter (heq ▸ hc)
    refine ⟨_, _, _, ht, fun c => List.mem_singleton.1, ?_, fun hnil => .inr ?_⟩
    · have hlength : before.length + (after.length + 1) - after.length - 1 =
          before.reverse.length := by
        rw [List.length_reverse]
        omega
      rw [decode?, hrun, ht]
      simp [hlength]
    · rw [ht, hnil]
      simp
  · have hrun : t.reverse.takeWhile (· ≠ .char '-') = t.reverse := by
      apply List.takeWhile_eq_self_iff.2
      exact fun c hc => decide_eq_true fun heq => h (heq ▸ List.mem_reverse.1 hc)
    refine ⟨[], [], t, rfl, nofun, ?_, .inl⟩
    rw [decode?, hrun, List.reverse_reverse, Nat.sub_self]
    rfl

end Punycode

namespace Domain

/-! ## 4. Conversion -/

variable {label name t : Text}

/-- A label in ASCII is checked itself, or it is marked and what it decodes to is. -/
theorem labelToUnicode_cases (hascii : Text.isAscii label = true)
    (h : labelToUnicode label = .ok t) :
    checkLabel t = .ok () ∧
      (Text.dropStart? asciiLead (label.map CodePoint.asciiLower) = none ∧
          t = label.map CodePoint.asciiLower ∨
        ∃ encoded, Text.dropStart? asciiLead (label.map CodePoint.asciiLower) = some encoded ∧
          encoded ≠ [] ∧ encoded.getLast? ≠ some (.char '-') ∧
          Punycode.decode? encoded = some t) := by
  simp only [labelToUnicode, hascii, Bool.not_true, Bool.false_eq_true, if_false] at h
  split at h
  · rename_i hdrop
    obtain ⟨⟨⟩, hcheck, hresult⟩ := bind_eq_ok_iff.1 h
    obtain rfl := Except.ok.inj hresult
    exact ⟨hcheck, .inl ⟨hdrop, rfl⟩⟩
  · cases h
  · rename_i encoded hne hdrop
    rw [guard_bind_eq_ok_iff] at h
    obtain ⟨hlast, h⟩ := h
    split at h
    · cases h
    · rename_i decoded hdecode
      obtain ⟨⟨⟩, hcheck, hresult⟩ := bind_eq_ok_iff.1 h
      obtain rfl := Except.ok.inj hresult
      exact ⟨hcheck, .inr ⟨encoded, hdrop, hne, hlast, hdecode⟩⟩

/-- A label in ASCII that has a Unicode form is in ASCII what a label may be. -/
theorem isLabelChar_of_labelToUnicode (hascii : Text.isAscii label = true)
    (h : labelToUnicode label = .ok t) :
    IsSafe isLabelChar (label.map CodePoint.asciiLower) := by
  have hlower : ∀ c ∈ label.map CodePoint.asciiLower, c.isAscii = true ∧ c.asciiLower = c := by
    intro c hc
    obtain ⟨d, hd, rfl⟩ := List.mem_map.1 hc
    exact ⟨CodePoint.isAscii_asciiLower (List.all_eq_true.1 hascii d hd), d.asciiLower_asciiLower⟩
  obtain ⟨hcheck, ⟨-, rfl⟩ | ⟨encoded, hdrop, -, -, hdecode⟩⟩ := labelToUnicode_cases hascii h
  · exact fun c hc => isLabelChar_of_checkLabel hcheck hc (hlower c hc).1
  · -- An encoded label is the lead, what stands as it is, the mark, and digits.
    obtain ⟨base, mark, extended, rfl, hmark, hinsert, -⟩ := Punycode.decode?_cases encoded
    rw [hinsert] at hdecode
    rw [Text.eq_append_of_dropStart? hdrop] at hlower ⊢
    intro c hc
    obtain ⟨hascii, hsame⟩ := hlower c hc
    simp only [List.mem_append] at hc
    rcases hc with hc | (hc | hc) | hc
    · exact (by decide : IsSafe isLabelChar asciiLead) c hc
    · exact isLabelChar_of_checkLabel hcheck (Punycode.subset_insertAll hdecode hc) hascii
    · rw [hmark c hc]
      rfl
    · rw [← hsame]
      exact Punycode.isLabelChar_of_digitValue? (Punycode.insertAll_digits hdecode c hc)

/-- The ASCII form of a label in lower case is what a label may be. -/
theorem isLabelChar_of_labelToAscii (hlower : label.map CodePoint.asciiLower = label)
    (h : labelToAscii label = .ok t) : IsSafe isLabelChar t := by
  unfold labelToAscii at h
  split at h
  · rename_i hascii
    obtain ⟨name, hname, h⟩ := bind_eq_ok_iff.1 h
    obtain ⟨-, h⟩ := guard_bind_eq_ok_iff.1 h
    obtain rfl := Except.ok.inj h
    rw [← hlower]
    exact isLabelChar_of_labelToUnicode hascii hname
  · obtain ⟨⟨⟩, hcheck, h⟩ := bind_eq_ok_iff.1 h
    obtain ⟨-, h⟩ := guard_bind_eq_ok_iff.1 h
    obtain rfl := Except.ok.inj h
    exact List.forall_mem_append.2 ⟨by decide, Punycode.isLabelChar_encode fun c hc =>
      isLabelChar_of_checkLabel hcheck hc⟩

/-- A label that is marked as encoded decodes to one that is not in ASCII. -/
theorem exists_labelToUnicode (hascii : Text.isAscii label = true)
    (hlead : (Text.dropStart? asciiLead label).isSome = true) (h : labelToUnicode label = .ok t) :
    ∃ c ∈ t, c.isAscii = false := by
  obtain ⟨rest, hrest⟩ := Option.isSome_iff_exists.1 hlead
  have hsplit := Text.eq_append_of_dropStart? hrest
  obtain ⟨-, ⟨hnone, -⟩ | ⟨encoded, -, hne, hlast, hdecode⟩⟩ := labelToUnicode_cases hascii h
  · have hlower : asciiLead.map CodePoint.asciiLower = asciiLead := by decide
    rw [hsplit, List.map_append, hlower, Text.dropStart?_append] at hnone
    cases hnone
  · obtain ⟨base, mark, extended, -, -, hinsert, hnil⟩ := Punycode.decode?_cases encoded
    rw [hinsert] at hdecode
    refine Punycode.exists_insertAll (Nat.le_refl _) (fun heq => ?_) hdecode
    exact (hnil heq).elim hne hlast

theorem labels_ne_nil (name : Text) : labels name ≠ [] := by
  cases name with
  | nil => exact List.cons_ne_nil _ _
  | cons c rest =>
    rw [labels]
    split
    · exact List.cons_ne_nil _ _
    · split
      · exact List.cons_ne_nil _ _
      · exact List.cons_ne_nil _ _

theorem labels_cons {c : CodePoint} (hc : isPoint c = false) (rest : Text) :
    ∃ label more, labels rest = label :: more ∧ labels (c :: rest) = (c :: label) :: more := by
  obtain ⟨label, more, hrest⟩ := List.exists_cons_of_ne_nil (labels_ne_nil rest)
  refine ⟨label, more, hrest, ?_⟩
  rw [labels, hc, hrest]
  rfl

theorem subset_of_mem_labels {label : Text} (h : label ∈ labels name) : label ⊆ name := by
  induction name generalizing label with
  | nil =>
    obtain rfl := List.mem_singleton.1 h
    exact List.Subset.refl _
  | cons c rest ih =>
    by_cases hc : isPoint c = true
    · rw [labels, if_pos hc, List.mem_cons] at h
      rcases h with rfl | h
      · exact List.nil_subset _
      · exact List.subset_cons_of_subset c (ih h)
    · obtain ⟨first, more, hrest, hlabels⟩ := labels_cons (Bool.eq_false_iff.2 hc) rest
      rw [hlabels, List.mem_cons] at h
      rw [hrest] at ih
      rcases h with rfl | h
      · exact List.cons_subset_cons c (ih List.mem_cons_self)
      · exact List.subset_cons_of_subset c (ih (List.mem_cons_of_mem _ h))

/-- A name is made of its labels and the points between them. -/
theorem mem_iff_labels {c : CodePoint} (hc : isPoint c = false) :
    c ∈ name ↔ ∃ label ∈ labels name, c ∈ label := by
  induction name with
  | nil => simp [labels]
  | cons d rest ih =>
    by_cases hd : isPoint d = true
    · have hne : c ≠ d := by
        rintro rfl
        rw [hc] at hd
        cases hd
      simp [labels, hd, hne, ih]
    · obtain ⟨label, more, hrest, hlabels⟩ := labels_cons (Bool.eq_false_iff.2 hd) rest
      simp [hlabels, ih, hrest, or_assoc]

variable {onLabel : Text → Except Fault Text} {converted : List Text}

/-- A piece that may not be empty is the one that was found. -/
theorem of_nonempty {x : Except Fault Text} {piece : Text}
    (h : (do
      let label ← x
      if label.isEmpty then throw .noLabel
      return label) = Except.ok piece) : x = .ok piece := by
  obtain ⟨found, hfound, h⟩ := bind_eq_ok_iff.1 h
  obtain ⟨-, h⟩ := guard_bind_eq_ok_iff.1 h
  obtain rfl := Except.ok.inj h
  exact hfound

/-- The labels of a name are converted one by one, but for a last one that is empty. -/
theorem convert_cases (h : convert onLabel name = .ok converted) :
    (∀ piece ∈ converted, piece = [] ∨ ∃ label ∈ labels name, onLabel label = .ok piece) ∧
      ∀ label ∈ labels name, label = [] ∨ ∃ piece ∈ converted, onLabel label = .ok piece := by
  unfold convert at h
  obtain ⟨-, h⟩ := guard_bind_eq_ok_iff.1 h
  obtain ⟨pieces, hpieces, h⟩ := bind_eq_ok_iff.1 h
  have hconverted := Except.ok.inj h
  clear h
  have hfrom : ∀ piece ∈ pieces, ∃ label ∈ labels name, onLabel label = .ok piece := by
    intro piece hpiece
    obtain ⟨label, hlabel, h⟩ := exists_of_mem_mapM hpieces hpiece
    refine ⟨label, ?_, of_nonempty h⟩
    split at hlabel
    · exact List.dropLast_subset _ hlabel
    · exact hlabel
  -- The one label that may be left out is an empty one at the end.
  have hto : ∀ label ∈ labels name, label = [] ∨ ∃ piece ∈ pieces, onLabel label = .ok piece := by
    intro label hlabel
    by_cases hgiven : label ∈ if (labels name).getLast? = some [] then (labels name).dropLast
        else labels name
    · obtain ⟨piece, hpiece, h⟩ := exists_value_of_mem hpieces hgiven
      exact .inr ⟨piece, hpiece, of_nonempty h⟩
    · split at hgiven
      · rename_i hlast
        obtain ⟨before, hbefore⟩ := List.getLast?_eq_some_iff.1 hlast
        rw [hbefore, List.dropLast_concat] at hgiven
        rw [hbefore, List.mem_append, List.mem_singleton] at hlabel
        exact .inl (hlabel.resolve_left hgiven)
      · exact absurd hlabel hgiven
  subst hconverted
  split
  · constructor
    · exact List.forall_mem_append.2 ⟨fun piece hpiece => .inr (hfrom piece hpiece),
        List.forall_mem_singleton.2 (.inl rfl)⟩
    · intro label hlabel
      refine (hto label hlabel).imp_right ?_
      rintro ⟨piece, hpiece, h⟩
      exact ⟨piece, List.mem_append_left _ hpiece, h⟩
  · exact ⟨fun piece hpiece => .inr (hfrom piece hpiece), hto⟩

theorem exists_convert_of_toAscii (h : toAscii name = .ok t) :
    ∃ converted, convert labelToAscii name = .ok converted ∧ t = Text.joinWith "." converted := by
  obtain ⟨converted, hconverted, h⟩ := bind_eq_ok_iff.1 h
  obtain ⟨-, h⟩ := guard_bind_eq_ok_iff.1 h
  exact ⟨converted, hconverted, (Except.ok.inj h).symm⟩

/-- A name in lower case becomes one of labels in ASCII. -/
theorem mem_toAscii (hlower : name.map CodePoint.asciiLower = name) (h : toAscii name = .ok t)
    {c : CodePoint} (hc : c ∈ t) : c = .char '.' ∨ c.satisfies isLabelChar = true := by
  obtain ⟨converted, hconverted, rfl⟩ := exists_convert_of_toAscii h
  rcases Text.mem_of_mem_joinWith hc with hc | ⟨piece, hpiece, hc⟩
  · exact .inl (List.mem_singleton.1 hc)
  · right
    rcases (convert_cases hconverted).1 piece hpiece with rfl | ⟨label, hlabel, hascii⟩
    · cases hc
    · have hlabelLower := Text.map_asciiLower_eq_self_iff.2 fun d hd =>
        Text.map_asciiLower_eq_self_iff.1 hlower d (subset_of_mem_labels hlabel hd)
      exact isLabelChar_of_labelToAscii hlabelLower hascii c hc

theorem isSafe_toAscii (hlower : name.map CodePoint.asciiLower = name)
    (h : toAscii name = .ok t) : IsSafe isHostSafe t := by
  intro c hc
  rcases mem_toAscii hlower h hc with rfl | hlabel
  · decide
  · cases c with
    | surrogate s => cases hlabel
    | char c => exact isHostSafe_of_isLabelChar hlabel

theorem map_asciiLower_toAscii (hlower : name.map CodePoint.asciiLower = name)
    (h : toAscii name = .ok t) : t.map CodePoint.asciiLower = t := by
  rw [Text.map_asciiLower_eq_self_iff]
  intro c hc
  rcases mem_toAscii hlower h hc with rfl | hlabel
  · decide
  · cases c with
    | surrogate s => rfl
    | char c => exact congrArg CodePoint.char (toLower_of_isLabelChar hlabel)

theorem exists_convert_of_toUnicode (h : toUnicode name = .ok t) :
    ∃ converted, convert labelToUnicode name = .ok converted ∧
      t = Text.joinWith "." converted := by
  obtain ⟨converted, hconverted, h⟩ := bind_eq_ok_iff.1 h
  exact ⟨converted, hconverted, (Except.ok.inj h).symm⟩

/-- A name that has a Unicode form holds no marks of ASCII but hyphens and points. -/
theorem not_mem_of_toUnicode (h : toUnicode name = .ok t) {c : Char} (hascii : c.toNat < 0x80)
    (hpoint : isPoint (.char c) = false) (hmark : isLabelChar c.toLower = false) :
    .char c ∉ name := by
  intro hmem
  obtain ⟨converted, hconverted, -⟩ := exists_convert_of_toUnicode h
  obtain ⟨label, hlabel, hc⟩ := (mem_iff_labels hpoint).1 hmem
  have hmarked : ¬ isLabelChar c.toLower = true := Bool.eq_false_iff.1 hmark
  -- The label that holds it was converted, and a label that is checked holds no such mark.
  rcases (convert_cases hconverted).2 label hlabel with rfl | ⟨piece, -, hpiece⟩
  · cases hc
  · by_cases hlabelAscii : Text.isAscii label = true
    · exact hmarked
        (isLabelChar_of_labelToUnicode hlabelAscii hpiece _ (List.mem_map_of_mem hc))
    · have hcheck : checkLabel label = .ok () := by
        rw [labelToUnicode, if_pos (by simp [hlabelAscii])] at hpiece
        obtain ⟨⟨⟩, hcheck, -⟩ := bind_eq_ok_iff.1 hpiece
        exact hcheck
      have hchar : isLabelChar c = true :=
        isLabelChar_of_checkLabel hcheck hc (decide_eq_true hascii)
      rw [toLower_of_isLabelChar hchar] at hmarked
      exact hmarked hchar

/-- A name whose first label is marked as encoded is shown with code points past ASCII. -/
theorem exists_toUnicode (hascii : Text.isAscii name = true)
    (hlead : Text.startsWith asciiLead name = true) (h : toUnicode name = .ok t) :
    ∃ c ∈ t, c.isAscii = false := by
  obtain ⟨rest, hrest⟩ := Option.isSome_iff_exists.1 hlead
  obtain rfl := Text.eq_append_of_dropStart? hrest
  obtain ⟨converted, hconverted, rfl⟩ := exists_convert_of_toUnicode h
  obtain ⟨first, more, hlabels⟩ := List.exists_cons_of_ne_nil (labels_ne_nil rest)
  have hmem : asciiLead ++ first ∈ labels (asciiLead ++ rest) := by
    simp [asciiLead, Text.ofString, labels, hlabels, isPoint, CodePoint.value]
  rcases (convert_cases hconverted).2 _ hmem with hnil | ⟨piece, hpiece, hunicode⟩
  · cases hnil
  · have hlabelAscii : Text.isAscii (asciiLead ++ first) = true :=
      List.all_eq_true.2 fun c hc => List.all_eq_true.1 hascii c (subset_of_mem_labels hmem hc)
    have hlabelLead : (Text.dropStart? asciiLead (asciiLead ++ first)).isSome = true := by
      rw [Text.dropStart?_append]
      rfl
    obtain ⟨c, hc, hpast⟩ := exists_labelToUnicode hlabelAscii hlabelLead hunicode
    exact ⟨c, Text.mem_joinWith hpiece hc, hpast⟩

end Domain

end Url

end LogShipper
