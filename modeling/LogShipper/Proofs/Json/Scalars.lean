import LogShipper.Json.Reader
import LogShipper.Json.Writer
import Mathlib.Tactic.IntervalCases
import Mathlib.Tactic.SplitIfs

/-!
# Reading integers and texts that were written

An integer is read back from its decimal text if what follows cannot belong to a number.  A text is
read back from between its quotes, each code point as one item, so that no two of them join.
-/

namespace LogShipper

theorem CodePoint.asciiDigit?_of_isDigit {c : Char} (h : c.isDigit = true) :
    asciiDigit? (.char c) = some (c.toNat - '0'.toNat) := by
  rw [asciiDigit?, if_pos h]

theorem Integer.toDigits_injective : Function.Injective (Nat.toDigits 10) :=
  Function.LeftInverse.injective (g := fun ds => Nat.ofDigitChars 10 ds 0) fun _ =>
    Nat.ofDigitChars_toDigits (by decide) (by decide)

theorem Integer.lt_length_toDigits_iff {n k : Nat} (hk : 0 < k) :
    k < (Nat.toDigits 10 n).length ↔ Nat.pow 10 k ≤ n := by
  rw [← Nat.not_le, Nat.length_toDigits_le_iff (by decide) hk]
  exact Nat.not_lt

/-- An integer is too long exactly if it has more digits than are written. -/
theorem Integer.isOversized_iff {n : Int} :
    isOversized n = true ↔ maxDigits < (Nat.toDigits 10 n.natAbs).length := by
  rw [lt_length_toDigits_iff (by decide)]
  exact decide_eq_true_iff

/-- Natural numbers are told apart by their decimal texts. -/
theorem Integer.toText_natCast_inj {m n : Nat} : toText m = toText n ↔ m = n := by
  constructor
  · intro h
    apply toDigits_injective
    exact (List.map_inj_right fun _ _ => CodePoint.char.inj).1 h
  · exact congrArg fun n : Nat => toText n

namespace Json

/-! ## 1. Integers -/

/-- What follows a number in a document: a comma, a closing bracket or brace, or nothing. -/
def EndsValue (rest : Text) : Prop :=
  ∀ c ∈ rest.head?, c = .char ',' ∨ c = .char '\x7d' ∨ c = .char ']'

theorem digits_append {ds : List Char} {rest : Text} (hds : ∀ c ∈ ds, c.isDigit = true)
    (hrest : ∀ c ∈ rest.head?, c.asciiDigit? = none) :
    digits (Text.ofChars ds ++ rest) = (ds.map fun c => c.toNat - '0'.toNat, rest) := by
  -- The digits end where they are said to end: the rest begins with none.
  induction ds with
  | nil =>
    cases rest with
    | nil => rfl
    | cons c after => simp [Text.ofChars, digits, hrest c rfl]
  | cons c ds ih =>
    have hc := CodePoint.asciiDigit?_of_isDigit (hds c (by simp))
    have ht := ih fun d hd => hds d (by simp [hd])
    simp only [Text.ofChars, List.map_cons, List.cons_append] at ht ⊢
    rw [digits, hc]
    simp only [ht]

theorem ofDigits_eq_ofDigitChars (ds : List Char) :
    ofDigits (ds.map fun c => c.toNat - '0'.toNat) = Nat.ofDigitChars 10 ds 0 := by
  rw [ofDigits, List.foldl_map]
  rfl

theorem isDigit_of_mem_toDigits (n : Nat) : ∀ c ∈ Nat.toDigits 10 n, c.isDigit = true :=
  fun _ hc => Nat.isDigit_of_mem_toDigits (by decide) (by decide) hc

theorem exists_toDigits_eq_cons (n : Nat) :
    ∃ c ds, Nat.toDigits 10 n = c :: ds ∧ c.isDigit = true := by
  obtain ⟨c, ds, hc⟩ := List.exists_cons_of_ne_nil (@Nat.toDigits_ne_nil n 10)
  refine ⟨c, ds, hc, isDigit_of_mem_toDigits n c ?_⟩
  rw [hc]
  exact List.mem_cons_self

theorem length_toDigits_le {n k : Nat} (hk : 0 < k) (h : n < Nat.pow 10 k) :
    (Nat.toDigits 10 n).length ≤ k :=
  (Nat.length_toDigits_le_iff (by decide) hk).2 h

theorem head_toDigits_ne_zero {n : Nat} (hn : 0 < n) {c : Char} {ds : List Char}
    (h : Nat.toDigits 10 n = c :: ds) : c ≠ '0' := by
  induction n using Nat.strong_induction_on generalizing c ds with
  | h n ih =>
    rw [Nat.toDigits_eq_if (by decide)] at h
    split at h
    · rename_i hlt
      -- A single digit, which is the number itself.
      obtain rfl : n.digitChar = c := (List.cons.inj h).1
      interval_cases n <;> decide
    · rename_i hge
      obtain ⟨d, tail, hd, -⟩ := exists_toDigits_eq_cons (n / 10)
      -- The first digit is that of the tenth part.
      rw [hd, List.cons_append] at h
      obtain rfl : d = c := (List.cons.inj h).1
      exact ih (n / 10) (by omega) (by omega) hd

theorem EndsValue.no_digit {rest : Text} (h : EndsValue rest) :
    ∀ c ∈ rest.head?, c.asciiDigit? = none := by
  intro c hc
  rcases h c hc with rfl | rfl | rfl <;> rfl

theorem EndsValue.no_fraction {rest : Text} (h : EndsValue rest) : fractionPart? rest = none := by
  unfold fractionPart?
  split
  · rename_i after
    rcases h _ rfl with h | h | h <;> simp at h
  · rfl

theorem EndsValue.no_exponent {rest : Text} (h : EndsValue rest) : exponentPart? rest = none := by
  cases rest with
  | nil => rfl
  | cons c after =>
    have hc : ¬ (c = .char 'e' ∨ c = .char 'E') := by
      rcases h c rfl with rfl | rfl | rfl <;> decide
    unfold exponentPart?
    exact if_neg hc

theorem wholePart_toDigits (n : Nat) {rest : Text} (h : EndsValue rest) :
    wholePart (Text.ofChars (Nat.toDigits 10 n) ++ rest) =
      ((Nat.toDigits 10 n).map fun c => c.toNat - '0'.toNat, rest) := by
  have hd := digits_append (isDigit_of_mem_toDigits n) h.no_digit
  unfold wholePart
  rw [hd]
  split
  · rename_i ds after heq
    -- A leading zero ends the whole part at once, so the number has to be zero itself.
    obtain ⟨c, tail, hc, hdig⟩ := exists_toDigits_eq_cons n
    have hn : n = 0 := by
      by_contra hne
      have hz := head_toDigits_ne_zero (Nat.pos_of_ne_zero hne) hc
      have hv : c.toNat - '0'.toNat = 0 := by
        rw [hc] at heq
        exact (List.cons.inj (Prod.mk.inj heq).1).1
      apply hz
      simp only [Char.isDigit, Bool.and_eq_true, decide_eq_true_eq, UInt32.le_iff_toNat_le] at hdig
      apply Char.ext
      apply UInt32.toNat_inj.mp
      have h0 : '0'.val.toNat = 48 := rfl
      have h1 : '0'.toNat = 48 := rfl
      have h2 : c.toNat = c.val.toNat := rfl
      omega
    subst hn
    rfl
  · rfl

theorem readUnsigned_toDigits (start : Text) (negative : Bool) {n : Nat}
    (hn : n < Nat.pow 10 Integer.maxDigits) {rest : Text} (h : EndsValue rest) :
    readUnsigned start negative (Text.ofChars (Nat.toDigits 10 n) ++ rest) =
      .ok (.int (if negative then -n else n), rest) := by
  have hlen : ¬ Integer.maxDigits < (Nat.toDigits 10 n).length :=
    Nat.not_lt.2 (length_toDigits_le (by decide) hn)
  unfold readUnsigned
  rw [wholePart_toDigits n h]
  split
  · rename_i heq
    exact absurd (List.map_eq_nil_iff.1 (Prod.mk.inj heq).1) Nat.toDigits_ne_nil
  · rename_i whole after _ heq
    obtain ⟨rfl, rfl⟩ := Prod.mk.inj heq
    simp only [h.no_fraction, h.no_exponent, Option.getD_none, Option.isNone_none, Bool.and_self,
      ↓reduceIte, List.length_map, if_neg hlen, ofDigits_eq_ofDigitChars,
      Nat.ofDigitChars_ten_toDigits]

theorem readWord_of_isDigit {c : Char} (hc : c.isDigit = true) (rest : Text) :
    readWord (.char c :: rest) = readUnsigned (.char c :: rest) false (.char c :: rest) ∧
      readWord (.char '-' :: .char c :: rest) =
        readUnsigned (.char '-' :: .char c :: rest) true (.char c :: rest) := by
  have hne : ∀ d : Char, d.isDigit = false → d ≠ c := by
    rintro d hd rfl
    rw [hc] at hd
    cases hd
  -- The words begin with these letters, and `-Infinity` with a sign and a letter.
  have hn := hne 'n' rfl
  have ht := hne 't' rfl
  have hf := hne 'f' rfl
  have hN := hne 'N' rfl
  have hI := hne 'I' rfl
  have hm := hne '-' rfl
  constructor
  · simp [readWord, Text.ofString, Text.dropStart?, hn, ht, hf, hN, hI, hm, hm.symm]
  · simp [readWord, Text.ofString, Text.dropStart?, hI]

theorem readWord_toText {n : Int} (hn : Integer.isOversized n = false) {rest : Text}
    (h : EndsValue rest) : readWord (Integer.toText n ++ rest) = .ok (.int n, rest) := by
  have hlt : n.natAbs < Nat.pow 10 Integer.maxDigits := Nat.not_le.1 (of_decide_eq_false hn)
  obtain ⟨c, ds, hc, hdig⟩ := exists_toDigits_eq_cons n.natAbs
  obtain ⟨hplain, hsigned⟩ := readWord_of_isDigit hdig (Text.ofChars ds ++ rest)
  -- The sign is read as part of the word, the digits by the same function in both cases.
  by_cases hneg : n < 0
  · have ht : Integer.toText n ++ rest =
        .char '-' :: (Text.ofChars (Nat.toDigits 10 n.natAbs) ++ rest) := by
      simp [Integer.toText, hneg, Text.ofChars]
    have hr := readUnsigned_toDigits
      (.char '-' :: (Text.ofChars (Nat.toDigits 10 n.natAbs) ++ rest)) true hlt h
    rw [ht]
    rw [hc] at hr ⊢
    refine hsigned.trans (hr.trans ?_)
    simp only [↓reduceIte, Except.ok.injEq, Prod.mk.injEq, int.injEq, and_true]
    omega
  · have ht : Integer.toText n ++ rest = Text.ofChars (Nat.toDigits 10 n.natAbs) ++ rest := by
      simp [Integer.toText, hneg]
    have hr := readUnsigned_toDigits (Text.ofChars (Nat.toDigits 10 n.natAbs) ++ rest) false hlt h
    rw [ht]
    rw [hc] at hr ⊢
    refine hplain.trans (hr.trans ?_)
    simp only [Bool.false_eq_true, ↓reduceIte, Except.ok.injEq, Prod.mk.injEq, int.injEq,
      and_true]
    omega

/-! ## 2. Texts -/

/-- What an item between quotes stands for, if it joins with no other. -/
def Item.Means : Item → CodePoint → Prop
  | .plain c, d => c = d
  | .unit n, d => n < 0xD800 ∧ CodePoint.ofNat n = d

theorem assemble_cons {item : Item} {c : CodePoint} (h : item.Means c) (items : List Item) :
    assemble (item :: items) = c :: assemble items := by
  cases item with
  | plain d =>
    obtain rfl : d = c := h
    rw [assemble]
  | unit n =>
    obtain ⟨hn, rfl⟩ := h
    cases items with
    | nil => rfl
    | cons next items =>
      cases next with
      | plain d => rfl
      | unit low =>
        rw [assemble, if_neg]
        -- Two units join only if the first is at least D800.
        omega

theorem assemble_of_means {items : List Item} {t : Text} (h : List.Forall₂ Item.Means items t) :
    assemble items = t := by
  induction h with
  | nil => rfl
  | cons hc _ ih => rw [assemble_cons hc, ih]

theorem hexUnit?_hex {n : Nat} (hn : n < 0x20) :
    ∃ a b c d, Text.hex false 4 n = [a, b, c, d] ∧ hexUnit? a b c d = some n := by
  -- There are only 32 controls.
  have h : ∀ n < 0x20, hexUnit? ((Text.hex false 4 n).getD 0 default)
      ((Text.hex false 4 n).getD 1 default) ((Text.hex false 4 n).getD 2 default)
      ((Text.hex false 4 n).getD 3 default) = some n := by decide
  exact ⟨_, _, _, _, rfl, h n hn⟩

theorem readItems_letter (start : Text) {c meant : CodePoint} (hu : c ≠ .char 'u')
    (h : letterEscape? c = some meant) (rest : Text) :
    readItems start (.char '\\' :: c :: rest) =
      (readItems start rest).map fun (items, after) => (.plain meant :: items, after) := by
  rw [readItems, if_neg hu, h]
  · cases readItems start rest <;> rfl
  · rintro a b c' d e rest' rfl
    exact absurd rfl hu

theorem readItems_unit (start : Text) {a b c d : CodePoint} {n : Nat}
    (h : hexUnit? a b c d = some n) (e : CodePoint) (rest : Text) :
    readItems start (.char '\\' :: .char 'u' :: a :: b :: c :: d :: e :: rest) =
      (readItems start (e :: rest)).map fun (items, after) => (.unit n :: items, after) := by
  rw [readItems, h]
  cases readItems start (e :: rest) <;> rfl

theorem readItems_plain (start : Text) {c : CodePoint} (hq : c ≠ .char '"')
    (hb : c ≠ .char '\\') (hv : ¬ c.value < 0x20) (rest : Text) :
    readItems start (c :: rest) =
      (readItems start rest).map fun (items, after) => (.plain c :: items, after) := by
  rw [readItems, if_neg hv]
  · cases readItems start rest <;> rfl
  all_goals
    intros
    simp_all

theorem readItems_escape (start : Text) (c e : CodePoint) (rest : Text) :
    ∃ item, item.Means c ∧
      readItems start (escape c ++ e :: rest) =
        (readItems start (e :: rest)).map fun (items, after) => (item :: items, after) := by
  unfold escape
  split_ifs with h1 h2 h3 h4 h5 h6 h7 h8
  on_goal 9 => exact ⟨.plain c, rfl, readItems_plain start h1 h2 h8 _⟩
  on_goal 8 =>
    obtain ⟨a, b, c', d, hx, hu⟩ := hexUnit?_hex h8
    refine ⟨.unit c.value, ⟨by omega, c.ofNat_value⟩, ?_⟩
    rw [hx]
    exact readItems_unit start hu e rest
  -- The seven code points with an escape of one letter.
  all_goals
    subst c
    exact ⟨.plain _, rfl, readItems_letter start (by decide) rfl _⟩

theorem readItems_flatMap_escape (start t rest : Text) :
    ∃ items, List.Forall₂ Item.Means items t ∧
      readItems start (t.flatMap escape ++ .char '"' :: rest) = .ok (items, rest) := by
  induction t with
  | nil => exact ⟨[], .nil, by rw [List.flatMap_nil, List.nil_append, readItems]⟩
  | cons c t ih =>
    obtain ⟨items, hm, hr⟩ := ih
    -- An escape is told from the next by the code point behind it, which the quote provides.
    obtain ⟨e, after, he⟩ : ∃ e after, t.flatMap escape ++ .char '"' :: rest = e :: after :=
      List.exists_cons_of_ne_nil (by simp)
    obtain ⟨item, hc, hi⟩ := readItems_escape start c e after
    refine ⟨item :: items, .cons hc hm, ?_⟩
    rw [List.flatMap_cons, List.append_assoc, he, hi, ← he, hr]
    rfl

/-- A written text is read back, behind its opening quote. -/
theorem readText_writeText (start t rest : Text) :
    readText start (t.flatMap escape ++ .char '"' :: rest) = .ok (t, rest) := by
  obtain ⟨items, hm, hr⟩ := readItems_flatMap_escape start t rest
  rw [readText, hr, ← assemble_of_means hm]
  rfl

end Json

end LogShipper
