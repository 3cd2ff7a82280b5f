import LogShipper.Json.Reader
import LogShipper.Json.Writer

/-!
# The size of integers

A collection holds no integer with too many digits if none of its parts does, and a number that is
read has no more digits than can be shown and written again.
-/

namespace LogShipper.Json

/-! ## 1. Collections -/

theorem anyOversized_eq_false_iff {items : List Json} :
    anyOversized items = false ↔ ∀ item ∈ items, item.hasOversized = false := by
  induction items with
  | nil => simp [anyOversized]
  | cons item items ih => simp [anyOversized, ih]

theorem anyMemberOversized_eq_false_iff {members : List (Text × Json)} :
    anyMemberOversized members = false ↔ ∀ m ∈ members, m.2.hasOversized = false := by
  induction members with
  | nil => simp [anyMemberOversized]
  | cons m members ih => simp [anyMemberOversized, ih]

theorem hasOversized_of_mem_setMember {name : Text} {value : Json} {members : List (Text × Json)}
    (hvalue : value.hasOversized = false) (h : ∀ m ∈ members, m.2.hasOversized = false) :
    ∀ m ∈ setMember name value members, m.2.hasOversized = false := by
  induction members with
  | nil => simpa [setMember] using hvalue
  | cons m members ih =>
    rw [List.forall_mem_cons] at h
    rw [setMember]
    split
    · exact List.forall_mem_cons.2 ⟨hvalue, h.2⟩
    · exact List.forall_mem_cons.2 ⟨h.1, ih h.2⟩

theorem hasOversized_of_mem_settle {members : List (Text × Json)}
    (h : ∀ m ∈ members, m.2.hasOversized = false) :
    ∀ m ∈ settle members, m.2.hasOversized = false := by
  suffices hs : ∀ before : List (Text × Json), (∀ m ∈ before, m.2.hasOversized = false) →
      ∀ m ∈ members.foldl (fun settled m => setMember m.1 m.2 settled) before,
        m.2.hasOversized = false from hs [] (by simp)
  induction members with
  | nil => exact fun before hbefore => hbefore
  | cons m members ih =>
    rw [List.forall_mem_cons] at h
    exact fun before hbefore => ih h.2 _ (hasOversized_of_mem_setMember h.1 hbefore)

/-! ## 2. Numbers -/

theorem asciiDigit?_lt {c : CodePoint} {d : Nat} (h : c.asciiDigit? = some d) : d < 10 := by
  cases c with
  | surrogate s => cases h
  | char c =>
    rw [CodePoint.asciiDigit?] at h
    split at h
    · rename_i hdigit
      simp only [Char.isDigit, Bool.and_eq_true, decide_eq_true_eq, UInt32.le_iff_toNat_le]
        at hdigit
      have hc : c.toNat = c.val.toNat := rfl
      have h0 : '0'.toNat = 48 := rfl
      have h9 : '9'.val.toNat = 57 := rfl
      have hd : c.toNat - '0'.toNat = d := Option.some.inj h
      omega
    · cases h

theorem digits_lt_ten (t : Text) : ∀ d ∈ (digits t).1, d < 10 := by
  induction t with
  | nil => simp [digits]
  | cons c rest ih =>
    rw [digits]
    split
    · simp
    · rename_i d hd
      exact List.forall_mem_cons.2 ⟨asciiDigit?_lt hd, ih⟩

theorem wholePart_lt_ten (t : Text) : ∀ d ∈ (wholePart t).1, d < 10 := by
  unfold wholePart
  split
  · simp
  · exact digits_lt_ten t

theorem ofDigits_lt {ds : List Nat} (h : ∀ d ∈ ds, d < 10) {k : Nat} (hk : ds.length ≤ k) :
    ofDigits ds < Nat.pow 10 k := by
  refine Nat.lt_of_lt_of_le ?_ (Nat.pow_le_pow_right (by decide) hk)
  clear hk
  -- Folding from `n` on stays below the next multiple of the power.
  suffices hs : ∀ n, ds.foldl (fun n d => 10 * n + d) n < (n + 1) * 10 ^ ds.length by
    simpa [ofDigits] using hs 0
  induction ds with
  | nil => simp
  | cons d ds ih =>
    intro n
    rw [List.forall_mem_cons] at h
    calc ds.foldl (fun n d => 10 * n + d) (10 * n + d)
        < (10 * n + d + 1) * 10 ^ ds.length := ih h.2 _
      _ ≤ ((n + 1) * 10) * 10 ^ ds.length := Nat.mul_le_mul_right _ (by omega)
      _ = (n + 1) * 10 ^ (d :: ds).length := by
        rw [List.length_cons, Nat.pow_succ', Nat.mul_assoc]

theorem isOversized_eq_false_iff {n : Int} :
    Integer.isOversized n = false ↔ n.natAbs < Nat.pow 10 Integer.maxDigits := by
  rw [Integer.isOversized, decide_eq_false_iff_not, Nat.not_le]

theorem hasOversized_readUnsigned {start t rest : Text} {negative : Bool} {value : Json}
    (h : readUnsigned start negative t = .ok (value, rest)) : value.hasOversized = false := by
  have hten := wholePart_lt_ten t
  unfold readUnsigned at h
  split at h
  · cases h
  · rename_i whole after _ hwhole
    rw [hwhole] at hten
    dsimp only at h
    split at h
    · split at h
      · cases h
      · rename_i hshort
        -- No more digits than can be shown, so the number is below the power of ten.
        have hbound : ofDigits whole < Nat.pow 10 Integer.maxDigits :=
          ofDigits_lt hten (Nat.le_of_not_lt hshort)
        obtain ⟨rfl, -⟩ := Prod.mk.inj (Except.ok.inj h)
        rw [hasOversized, isOversized_eq_false_iff]
        split
        · rwa [Int.natAbs_neg, Int.natAbs_natCast]
        · rwa [Int.natAbs_natCast]
    · obtain ⟨rfl, -⟩ := Prod.mk.inj (Except.ok.inj h)
      rfl

theorem hasOversized_readWord {t rest : Text} {value : Json}
    (h : readWord t = .ok (value, rest)) : value.hasOversized = false := by
  unfold readWord at h
  dsimp only at h
  split at h
  · rename_i found hfound
    obtain ⟨⟨word, meant⟩, hmem, hmap⟩ := List.exists_of_findSome?_eq_some hfound
    obtain ⟨after, -, rfl⟩ := Option.map_eq_some_iff.1 hmap
    obtain ⟨rfl, -⟩ := Prod.mk.inj (Except.ok.inj h)
    have hwords : ∀ w ∈ ([("null", .null), ("true", .bool true), ("false", .bool false),
        ("NaN", .float .nan), ("Infinity", .float (.infinite false)),
        ("-Infinity", .float (.infinite true))] : List (Text × Json)),
        w.2.hasOversized = false := by
      simp [hasOversized]
    exact hwords _ hmem
  · split at h
    · exact hasOversized_readUnsigned h
    · exact hasOversized_readUnsigned h

end LogShipper.Json
