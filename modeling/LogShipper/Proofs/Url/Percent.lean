import LogShipper.Url.Percent

/-!
# Texts in percent encoding

What has been encoded holds nothing but safe characters, and encoding keeps a text of safe
characters as it is.  Lowering the case of what has been encoded changes the escapes alone, if the
text was in lower case before.
-/

namespace LogShipper

/-! ## 1. Characters -/

theorem toNat_of_isUpper {c : Char} (h : c.isUpper = true) : 0x41 ≤ c.toNat ∧ c.toNat ≤ 0x5A := by
  obtain ⟨hlow, hhigh⟩ := of_decide_eq_true h
  exact ⟨UInt32.le_iff_toNat_le.1 hlow, UInt32.le_iff_toNat_le.1 hhigh⟩

theorem toNat_of_isLower {c : Char} (h : c.isLower = true) : 0x61 ≤ c.toNat ∧ c.toNat ≤ 0x7A := by
  obtain ⟨hlow, hhigh⟩ := Bool.and_eq_true_iff.1 h
  exact ⟨UInt32.le_iff_toNat_le.1 (of_decide_eq_true hlow),
    UInt32.le_iff_toNat_le.1 (of_decide_eq_true hhigh)⟩

theorem toNat_of_isAlphanum {c : Char} (h : c.isAlphanum = true) :
    0x30 ≤ c.toNat ∧ c.toNat ≤ 0x7A := by
  rcases Bool.or_eq_true_iff.1 h with hletter | hdigit
  · rcases Bool.or_eq_true_iff.1 hletter with hcapital | hsmall
    · have hbounds := toNat_of_isUpper hcapital
      omega
    · have hbounds := toNat_of_isLower hsmall
      omega
  · simp only [Char.isDigit, Bool.and_eq_true, decide_eq_true_eq, UInt32.le_iff_toNat_le,
      ge_iff_le] at hdigit
    have hc : c.toNat = c.val.toNat := rfl
    have h0 : '0'.val.toNat = 0x30 := rfl
    have h9 : '9'.val.toNat = 0x39 := rfl
    omega

namespace Text

theorem mem_hex {upper : Bool} {width n : Nat} {c : CodePoint} (h : c ∈ hex upper width n) :
    ∃ v < 16, c = .char (hexDigit upper v) := by
  induction width generalizing n with
  | zero => cases h
  | succ width ih =>
    rw [hex, List.mem_append, List.mem_singleton] at h
    rcases h with h | rfl
    · exact ih h
    · exact ⟨n % 16, Nat.mod_lt _ (by decide), rfl⟩

theorem asciiLower_hexDigit : ∀ v < 16,
    (CodePoint.char (hexDigit true v)).asciiLower = .char (hexDigit false v) := by decide

theorem map_asciiLower_hex (width n : Nat) :
    (hex true width n).map CodePoint.asciiLower = hex false width n := by
  induction width generalizing n with
  | zero => rfl
  | succ width ih =>
    rw [hex, List.map_append, ih, List.map_singleton,
      asciiLower_hexDigit (n % 16) (Nat.mod_lt _ (by decide)), hex]

end Text

namespace Url

/-! ## 2. Safe texts -/

/-- A text of characters that are all safe. -/
def IsSafe (isSafe : Char → Bool) (t : Text) : Prop :=
  ∀ c ∈ t, c.satisfies isSafe = true

instance (isSafe : Char → Bool) (t : Text) : Decidable (IsSafe isSafe t) :=
  inferInstanceAs (Decidable (∀ c ∈ t, _))

/-- Whether what escapes are written with is safe itself. -/
def HoldsEscapes (isSafe : Char → Bool) : Prop :=
  isSafe '%' = true ∧ ∀ v < 16, isSafe (Text.hexDigit true v) = true

instance (isSafe : Char → Bool) : Decidable (HoldsEscapes isSafe) :=
  inferInstanceAs (Decidable (_ ∧ _))

theorem holdsEscapes_userinfo : HoldsEscapes isUserinfoSafe := by decide

theorem holdsEscapes_host : HoldsEscapes isHostSafe := by decide

theorem holdsEscapes_query : HoldsEscapes isQuerySafe := by decide

theorem holdsEscapes_fragment : HoldsEscapes isFragmentSafe := by decide

theorem toNat_of_isPrintableExcept {unsafeChars : String} {c : Char}
    (h : isPrintableExcept unsafeChars c = true) : 0x20 ≤ c.toNat ∧ c.toNat < 0x7F := by
  unfold isPrintableExcept at h
  grind

theorem toNat_of_isHostSafe {c : Char} (h : isHostSafe c = true) :
    0x20 ≤ c.toNat ∧ c.toNat < 0x7F := by
  simp only [isHostSafe, isUnreserved, Bool.or_eq_true, decide_eq_true_eq] at h
  obtain ((((h | rfl) | rfl) | rfl) | rfl) | h := h
  · have hbounds := toNat_of_isAlphanum h
    omega
  · decide
  · decide
  · decide
  · decide
  · have hmarks : "!$&'()*+,;=\"\x60\x7b\x7d%|\\".toList.all
        (fun c => 0x20 ≤ c.toNat ∧ c.toNat < 0x7F) = true := by decide
    exact of_decide_eq_true (List.all_eq_true.1 hmarks c (List.contains_iff_mem.1 h))

variable {isSafe : Char → Bool} {t encoded : Text}

theorem IsSafe.not_mem (h : IsSafe isSafe t) {c : Char} (hc : isSafe c = false) : .char c ∉ t := by
  intro hmem
  have hsafe : isSafe c = true := h (.char c) hmem
  rw [hc] at hsafe
  cases hsafe

theorem isSafe_percentByte (h : HoldsEscapes isSafe) (b : UInt8) :
    IsSafe isSafe (percentByte b) := by
  intro c hc
  rcases List.mem_cons.1 hc with rfl | hc
  · exact h.1
  · obtain ⟨v, hv, rfl⟩ := Text.mem_hex hc
    exact h.2 v hv

theorem isSafe_percentChar (h : HoldsEscapes isSafe) (c : Char) :
    IsSafe isSafe (percentChar isSafe c) := by
  unfold percentChar
  split
  · rename_i hc
    exact List.forall_mem_singleton.2 hc
  · intro d hd
    obtain ⟨b, -, hb⟩ := List.mem_flatMap.1 hd
    exact isSafe_percentByte h b d hb

theorem percentEncode_cons_eq_ok {c : CodePoint} (h : percentEncode isSafe (c :: t) = .ok encoded) :
    ∃ d rest, c = .char d ∧ percentEncode isSafe t = .ok rest ∧
      encoded = percentChar isSafe d ++ rest := by
  cases c with
  | surrogate s => cases h
  | char d =>
    rw [percentEncode] at h
    cases hrest : percentEncode isSafe t with
    | error fault =>
      rw [hrest] at h
      cases h
    | ok rest =>
      rw [hrest] at h
      exact ⟨d, rest, rfl, rfl, (Except.ok.inj h).symm⟩

theorem isSafe_percentEncode (hescapes : HoldsEscapes isSafe)
    (h : percentEncode isSafe t = .ok encoded) : IsSafe isSafe encoded := by
  induction t generalizing encoded with
  | nil =>
    obtain rfl := Except.ok.inj h
    exact nofun
  | cons c t ih =>
    obtain ⟨d, rest, -, hrest, rfl⟩ := percentEncode_cons_eq_ok h
    exact List.forall_mem_append.2 ⟨isSafe_percentChar hescapes d, ih hrest⟩

/-- Encoding keeps what is safe. -/
theorem percentEncode_of_isSafe (h : IsSafe isSafe t) : percentEncode isSafe t = .ok t := by
  induction t with
  | nil => rfl
  | cons c t ih =>
    obtain ⟨hc, ht⟩ := List.forall_mem_cons.1 h
    cases c with
    | surrogate s => cases hc
    | char c =>
      have hsafe : isSafe c = true := hc
      rw [percentEncode, ih ht, percentChar, if_pos hsafe]
      rfl

/-! ## 3. Lower case -/

/-- The second text is the first one with the digits of some escapes in lower case. -/
inductive LowersEscapes : Text → Text → Prop
  | nil : LowersEscapes [] []
  | same (c : CodePoint) {s t : Text} (h : LowersEscapes s t) : LowersEscapes (c :: s) (c :: t)
  | escape (b : UInt8) {s t : Text} (h : LowersEscapes s t) :
      LowersEscapes (.char '%' :: Text.hex true 2 b.toNat ++ s)
        (.char '%' :: Text.hex false 2 b.toNat ++ t)

theorem LowersEscapes.refl (t : Text) : LowersEscapes t t := by
  induction t with
  | nil => exact .nil
  | cons c t ih => exact .same c ih

/-- A beginning without escapes is the same. -/
theorem LowersEscapes.startsWith_eq {s t : Text} (h : LowersEscapes s t) {beginning : Text}
    (hbeginning : .char '%' ∉ beginning) :
    Text.startsWith beginning s = Text.startsWith beginning t := by
  induction h generalizing beginning with
  | nil => rfl
  | @same c s t h ih =>
    cases beginning with
    | nil => rfl
    | cons b beginning =>
      by_cases hb : b = c
      · have hrest := ih fun hmem => hbeginning (List.mem_cons_of_mem _ hmem)
        simpa only [Text.startsWith, Text.dropStart?, if_pos hb] using hrest
      · simp only [Text.startsWith, Text.dropStart?, if_neg hb]
  | escape b h ih =>
    cases beginning with
    | nil => rfl
    | cons c beginning =>
      have hc : c ≠ .char '%' := fun heq => hbeginning (heq ▸ List.mem_cons_self)
      simp only [Text.startsWith, List.cons_append, Text.dropStart?, if_neg hc]

theorem LowersEscapes.eq_of_not_mem {s t : Text} (h : LowersEscapes s t) (hs : .char '%' ∉ s) :
    t = s := by
  induction h with
  | nil => rfl
  | same c h ih =>
    rw [List.mem_cons, not_or] at hs
    rw [ih hs.2]
  | escape b h ih => exact absurd List.mem_cons_self hs

theorem LowersEscapes.ne_nil {s t : Text} (h : LowersEscapes s t) (hs : s ≠ []) : t ≠ [] := by
  cases h with
  | nil => exact hs
  | same c h => exact List.cons_ne_nil _ _
  | escape b h => exact List.cons_ne_nil _ _

theorem lowersEscapes_flatMap (bytes : List UInt8) {s t : Text} (h : LowersEscapes s t) :
    LowersEscapes (bytes.flatMap percentByte ++ s)
      ((bytes.flatMap percentByte).map CodePoint.asciiLower ++ t) := by
  induction bytes with
  | nil => exact h
  | cons b bytes ih =>
    have hescape := LowersEscapes.escape b ih
    rw [List.flatMap_cons, percentByte, List.append_assoc, List.map_append, List.map_cons,
      Text.map_asciiLower_hex, List.append_assoc]
    exact hescape

/-- Of a text in lower case only the escapes are in upper case once it has been encoded. -/
theorem lowersEscapes_percentEncode (hlower : t.map CodePoint.asciiLower = t)
    (h : percentEncode isSafe t = .ok encoded) :
    LowersEscapes encoded (encoded.map CodePoint.asciiLower) := by
  induction t generalizing encoded with
  | nil =>
    obtain rfl := Except.ok.inj h
    exact .nil
  | cons c t ih =>
    obtain ⟨d, rest, rfl, hrest, rfl⟩ := percentEncode_cons_eq_ok h
    rw [List.map_cons, List.cons.injEq] at hlower
    have htail := ih hlower.2 hrest
    rw [List.map_append]
    unfold percentChar
    split
    · rw [List.map_singleton, hlower.1]
      exact .same _ htail
    · exact lowersEscapes_flatMap _ htail

end Url

end LogShipper
