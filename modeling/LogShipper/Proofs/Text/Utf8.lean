import LogShipper.Text.Utf8
import Mathlib.Tactic.SplitIfs

/-!
# Reading what UTF-8 was written

`Utf8.decode` undoes `Utf8.encode`, and so does the lenient reading: the bytes of a character are
read as that character whatever follows them.  Texts that can be written can be written one after
the other.
-/

namespace LogShipper.Utf8

/-! ## 1. Bytes of one character -/

theorem toNat_toUInt8 {n : Nat} (h : n < 256) : n.toUInt8.toNat = n := by
  rw [Nat.toUInt8, UInt8.toNat_ofNat', Nat.mod_eq_of_lt h]

theorem toNat_valid (c : Char) :
    c.toNat < 0xD800 ∨ 0xE000 ≤ c.toNat ∧ c.toNat < 0x110000 := by
  have h := c.valid
  have hc : c.val.toNat = c.toNat := rfl
  -- A character is no surrogate: there is a gap in the numbers.
  simp only [UInt32.isValidChar, Nat.isValidChar] at h
  omega

theorem isContinuation_toUInt8 {k : Nat} (h : k < 0x40) :
    isContinuation (0x80 + k).toUInt8 = true := by
  have hb : (0x80 + k).toUInt8.toNat = 0x80 + k := toNat_toUInt8 (by omega)
  simp only [isContinuation, UInt8.le_iff_toNat_le, UInt8.lt_iff_toNat_lt, hb]
  simp
  omega

theorem payload_toUInt8 {k : Nat} (h : k < 0x40) : payload (0x80 + k).toUInt8 = k := by
  rw [payload, toNat_toUInt8 (by omega)]
  omega

theorem isSecond_toUInt8 {a k : Nat} (ha : a < 256) (hk : k < 0x40) (hE0 : a = 0xE0 → 0x20 ≤ k)
    (hED : a = 0xED → k < 0x20) (hF0 : a = 0xF0 → 0x10 ≤ k) (hF4 : a = 0xF4 → k < 0x10) :
    isSecond a.toUInt8 (0x80 + k).toUInt8 = true := by
  have hb : (0x80 + k).toUInt8.toNat = 0x80 + k := toNat_toUInt8 (by omega)
  have hf : a.toUInt8.toNat = a := toNat_toUInt8 ha
  simp only [isSecond, isContinuation_toUInt8 hk, UInt8.le_iff_toNat_le, UInt8.lt_iff_toNat_lt,
    beq_eq_false_iff_ne, ne_eq, ← UInt8.toNat_inj, hb, hf, Bool.true_and, Bool.and_eq_true,
    Bool.not_eq_true', Bool.and_eq_false_iff, decide_eq_false_iff_not]
  simp
  omega

theorem surrogate?_eq_none {a : Nat} (ha : a < 256) {rest : Bytes}
    (h : a = 0xED → ∃ k < 0x20, ∃ after, rest = (0x80 + k).toUInt8 :: after) :
    surrogate? a.toUInt8 rest = none := by
  have hf : a.toUInt8.toNat = a := toNat_toUInt8 ha
  unfold surrogate?
  split
  · rename_i b₁ b₂ after
    rw [if_neg]
    -- Three bytes of a surrogate begin with ED and A0 or more; ours goes on below A0.
    intro hs
    simp only [Bool.and_eq_true, beq_iff_eq, ← UInt8.toNat_inj, hf, decide_eq_true_eq,
      UInt8.le_iff_toNat_le] at hs
    obtain ⟨k, hk, after', he⟩ := h hs.1.1.1
    have hb : b₁.toNat = 0x80 + k := by
      rw [(List.cons.inj he).1, toNat_toUInt8 (by omega)]
    have hlow : 0xA0 ≤ b₁.toNat := hs.1.1.2
    omega
  · rfl

theorem width?_eq {a : Nat} (ha : a < 256) :
    width? a.toUInt8 =
      if a < 0x80 then some 1 else if a < 0xC2 then none else if a < 0xE0 then some 2
      else if a < 0xF0 then some 3 else if a < 0xF5 then some 4 else none := by
  have hf : a.toUInt8.toNat = a := toNat_toUInt8 ha
  simp only [width?, UInt8.lt_iff_toNat_lt, hf]
  rfl

theorem head_eq_point (lenient : Bool) {a : Nat} (ha : a < 0x80) (rest : Bytes) :
    head lenient a.toUInt8 rest = .point (Char.ofNat a) rest := by
  have hf : a.toUInt8.toNat = a := toNat_toUInt8 (by omega)
  have hw : width? a.toUInt8 = some 1 := by rw [width?_eq (by omega), if_pos ha]
  unfold head
  rw [surrogate?_eq_none (by omega) (by omega), ite_self, hw, hf]
  rfl

theorem head_eq_headMulti (lenient : Bool) {a width : Nat} (ha : a < 256) {rest : Bytes}
    (h : a = 0xED → ∃ k < 0x20, ∃ after, rest = (0x80 + k).toUInt8 :: after)
    (hw : width? a.toUInt8 = some width) (hwidth : width ≠ 1) :
    head lenient a.toUInt8 rest = headMulti a.toUInt8 width rest := by
  unfold head
  rw [surrogate?_eq_none ha h, ite_self, hw]
  dsimp only
  split
  · rename_i heq
    cases heq
  · rename_i heq
    exact absurd (Option.some.inj heq) hwidth
  · rename_i heq
    rw [Option.some.inj heq]

theorem head_encodeChar (lenient : Bool) (c : Char) (rest : Bytes) :
    ∃ first tail, encodeChar c = first :: tail ∧
      head lenient first (tail ++ rest) = .point (.char c) rest := by
  have hv := toNat_valid c
  unfold encodeChar
  dsimp only
  -- One case for each length.  The payloads of the bytes add up to the number of the character.
  split_ifs with h1 h2 h3
  · refine ⟨_, _, rfl, ?_⟩
    rw [List.nil_append, head_eq_point lenient h1, Char.ofNat_toNat]
  · have hw : width? (0xC0 + c.toNat / 0x40).toUInt8 = some 2 := by
      rw [width?_eq (by omega), if_neg (by omega), if_neg (by omega), if_pos (by omega)]
    refine ⟨_, _, rfl, ?_⟩
    rw [head_eq_headMulti lenient (by omega) (by omega) hw (by decide)]
    simp only [headMulti, List.cons_append, List.nil_append]
    rw [isSecond_toUInt8 (by omega) (by omega) (by omega) (by omega) (by omega) (by omega),
      payload_toUInt8 (by omega), toNat_toUInt8 (by omega),
      show (0xC0 + c.toNat / 0x40) % 0x20 * 0x40 + c.toNat % 0x40 = c.toNat by omega,
      Char.ofNat_toNat]
    rfl
  · have hw : width? (0xE0 + c.toNat / 0x1000).toUInt8 = some 3 := by
      rw [width?_eq (by omega), if_neg (by omega), if_neg (by omega), if_neg (by omega),
        if_pos (by omega)]
    refine ⟨_, _, rfl, ?_⟩
    rw [List.cons_append, head_eq_headMulti lenient (by omega)
      (fun _ => ⟨c.toNat / 0x40 % 0x40, by omega, _, rfl⟩) hw (by decide)]
    simp only [headMulti, List.cons_append, List.nil_append]
    rw [isSecond_toUInt8 (by omega) (by omega) (by omega) (by omega) (by omega) (by omega),
      isContinuation_toUInt8 (by omega), payload_toUInt8 (by omega), payload_toUInt8 (by omega),
      toNat_toUInt8 (by omega),
      show (0xE0 + c.toNat / 0x1000) % 0x10 * 0x1000 + c.toNat / 0x40 % 0x40 * 0x40
        + c.toNat % 0x40 = c.toNat by omega, Char.ofNat_toNat]
    rfl
  · have hw : width? (0xF0 + c.toNat / 0x40000).toUInt8 = some 4 := by
      rw [width?_eq (by omega), if_neg (by omega), if_neg (by omega), if_neg (by omega),
        if_neg (by omega), if_pos (by omega)]
    refine ⟨_, _, rfl, ?_⟩
    rw [head_eq_headMulti lenient (by omega) (by omega) hw (by decide)]
    simp only [headMulti, List.cons_append, List.nil_append]
    rw [isSecond_toUInt8 (by omega) (by omega) (by omega) (by omega) (by omega) (by omega),
      isContinuation_toUInt8 (by omega), isContinuation_toUInt8 (by omega),
      payload_toUInt8 (by omega), payload_toUInt8 (by omega), payload_toUInt8 (by omega),
      toNat_toUInt8 (by omega),
      show (0xF0 + c.toNat / 0x40000) % 0x08 * 0x40000 + c.toNat / 0x1000 % 0x40 * 0x1000
        + c.toNat / 0x40 % 0x40 * 0x40 + c.toNat % 0x40 = c.toNat by omega, Char.ofNat_toNat]
    rfl

/-! ## 2. Texts -/

theorem readFrom_of_broken {lenient : Bool} {first : UInt8} {rest bytes : Bytes}
    {reason : DecodeReason} (h : head lenient first rest = .broken bytes reason) (position : Nat) :
    readFrom lenient position (first :: rest) =
      ⟨[], some ⟨.utf8, position, bytes, reason⟩⟩ := by
  rw [readFrom]
  split
  · rename_i hbroken
    obtain ⟨rfl, rfl⟩ := Head.broken.inj (h.symm.trans hbroken)
    rfl
  · rename_i hpoint
    rw [h] at hpoint
    cases hpoint

theorem readFrom_of_point {lenient : Bool} {first : UInt8} {rest after : Bytes} {c : CodePoint}
    (h : head lenient first rest = .point c after) (position : Nat) :
    readFrom lenient position (first :: rest) =
      let reading := readFrom lenient (position + (rest.length + 1 - after.length)) after
      { reading with text := c :: reading.text } := by
  rw [readFrom]
  split
  · rename_i hbroken
    rw [h] at hbroken
    cases hbroken
  · rename_i hpoint
    obtain ⟨rfl, rfl⟩ := Head.point.inj (h.symm.trans hpoint)
    rfl

theorem readFrom_encodeChar (lenient : Bool) (c : Char) (position : Nat) (rest : Bytes) :
    readFrom lenient position (encodeChar c ++ rest) =
      let reading := readFrom lenient (position + (encodeChar c).length) rest
      { reading with text := .char c :: reading.text } := by
  obtain ⟨first, tail, hc, hpoint⟩ := head_encodeChar lenient c rest
  rw [hc, List.cons_append, readFrom_of_point hpoint]
  -- The reader counts the bytes it took by what is left.
  simp only [List.length_append, List.length_cons]
  rw [show tail.length + rest.length + 1 - rest.length = tail.length + 1 by omega]

theorem readFrom_encodeFrom (lenient : Bool) {t : Text} {start : Nat} {bytes : Bytes}
    (h : encodeFrom start t = .ok bytes) (position : Nat) (rest : Bytes) :
    readFrom lenient position (bytes ++ rest) =
      let reading := readFrom lenient (position + bytes.length) rest
      { reading with text := t ++ reading.text } := by
  induction t generalizing start bytes position with
  -- By induction on the text; both positions move on, each from where it starts.
  | nil =>
    obtain rfl : [] = bytes := Except.ok.inj h
    rfl
  | cons c t ih =>
    cases c with
    | surrogate s => simp [encodeFrom] at h
    | char c =>
      cases ht : encodeFrom (start + 1) t with
      | error fault => simp [encodeFrom, ht, Except.map] at h
      | ok tail =>
        obtain rfl : encodeChar c ++ tail = bytes := by simpa [encodeFrom, ht, Except.map] using h
        rw [List.append_assoc, readFrom_encodeChar, ih ht]
        simp only [List.length_append, Nat.add_assoc, List.cons_append]

/-- A text that can be written is read back. -/
theorem decode_encode {t : Text} {bytes : Bytes} (h : encode t = .ok bytes) :
    decode bytes = .ok t := by
  have hr := readFrom_encodeFrom false h 0 []
  rw [List.append_nil] at hr
  rw [decode, read, hr]
  simp [readFrom, Reading.result]

/-- Whether a text can be written, and as which bytes, is the same at every position. -/
theorem encodeFrom_of_encodeFrom {t : Text} {start : Nat} {bytes : Bytes}
    (h : encodeFrom start t = .ok bytes) (position : Nat) : encodeFrom position t = .ok bytes := by
  induction t generalizing start position bytes with
  | nil => exact h
  | cons c t ih =>
    cases c with
    | surrogate s => simp [encodeFrom] at h
    | char c =>
      cases ht : encodeFrom (start + 1) t with
      | error fault => simp [encodeFrom, ht, Except.map] at h
      | ok tail =>
        rw [encodeFrom, ht] at h
        rw [encodeFrom, ih ht, ← h]

theorem exists_encodeFrom_iff {t : Text} {position : Nat} :
    (∃ bytes, encodeFrom position t = .ok bytes) ↔ ∀ c ∈ t, c.isSurrogate = false := by
  induction t generalizing position with
  | nil => exact ⟨fun _ => nofun, fun _ => ⟨[], rfl⟩⟩
  | cons c t ih =>
    rw [List.forall_mem_cons]
    cases c with
    | surrogate s =>
      have hfault : ∀ bytes, encodeFrom position (.surrogate s :: t) ≠ .ok bytes := nofun
      exact ⟨fun ⟨bytes, h⟩ => absurd h (hfault bytes), fun h => (nomatch h.1)⟩
    | char c =>
      rw [encodeFrom, ← @ih (position + 1)]
      cases encodeFrom (position + 1) t with
      | error fault =>
        exact ⟨fun ⟨_, h⟩ => (nomatch h), fun ⟨_, _, h⟩ => (nomatch h)⟩
      | ok tail => exact ⟨fun _ => ⟨rfl, tail, rfl⟩, fun _ => ⟨encodeChar c ++ tail, rfl⟩⟩

/-- Exactly the texts without surrogates can be written. -/
theorem exists_encode_iff {t : Text} :
    (∃ bytes, encode t = .ok bytes) ↔ ∀ c ∈ t, c.isSurrogate = false :=
  exists_encodeFrom_iff

/-- Texts that can be written can be written one after the other. -/
theorem encode_append {t u : Text} {front back : Bytes} (ht : encode t = .ok front)
    (hu : encode u = .ok back) : encode (t ++ u) = .ok (front ++ back) := by
  -- The position is left free, since it moves on along the first text.
  suffices hs : ∀ position, encodeFrom position t = .ok front →
      encodeFrom position (t ++ u) = .ok (front ++ back) from hs 0 ht
  clear ht
  intro position ht
  induction t generalizing position front with
  | nil =>
    obtain rfl : [] = front := Except.ok.inj ht
    exact encodeFrom_of_encodeFrom hu position
  | cons c t ih =>
    cases c with
    | surrogate s => simp [encodeFrom] at ht
    | char c =>
      cases htail : encodeFrom (position + 1) t with
      | error fault => simp [encodeFrom, htail, Except.map] at ht
      | ok tail =>
        obtain rfl : encodeChar c ++ tail = front := by
          simpa [encodeFrom, htail, Except.map] using ht
        rw [List.cons_append, encodeFrom, ih (position + 1) htail, List.append_assoc]
        rfl

end LogShipper.Utf8
