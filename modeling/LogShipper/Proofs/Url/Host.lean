import LogShipper.Proofs.Number.Numeral
import LogShipper.Proofs.Text.Splitting
import LogShipper.Proofs.Url.Cutting
import LogShipper.Proofs.Url.Domain

/-!
# Hosts in normal form

The host of a URL is a name of safe characters, in which only escapes may hold capitals, or an
address of groups.  When it is brought into normal form once more the escapes lose their capitals,
and from then on it stays as it is.
-/

namespace LogShipper

/-! ## 1. Code points -/

namespace CodePoint

theorem eq_char_of_asciiDigit? {c : CodePoint} (h : c.asciiDigit?.isSome = true) :
    ∃ d : Char, c = .char d ∧ d.isDigit = true := by
  cases c with
  | surrogate s => cases h
  | char d =>
    refine ⟨d, rfl, ?_⟩
    by_contra hd
    rw [asciiDigit?, if_neg hd] at h
    cases h

/-- Lower case brings no code point below the small letters. -/
theorem asciiLower_eq_self {c : CodePoint} (h : c.asciiLower.value < 0x61) : c.asciiLower = c := by
  obtain hsame | ⟨-, -, hsmall⟩ := asciiLower_cases c
  · exact hsame
  · omega

end CodePoint

namespace Url

variable {host found : Text}

/-! ## 2. Names -/

theorem mem_of_looksNumeric (h : looksNumeric host = true) {c : CodePoint} (hc : c ∈ host) :
    c = .char '.' ∨ ∃ d : Char, c = .char d ∧ d.isDigit = true := by
  by_cases hpoint : c = .char '.'
  · exact .inl hpoint
  · simp only [looksNumeric, Bool.and_eq_true, List.all_eq_true] at h
    obtain ⟨piece, hpiece, hmem⟩ := (Text.mem_iff_splitOn hpoint).1 hc
    exact .inr (CodePoint.eq_char_of_asciiDigit? ((h.2 piece hpiece).2 c hmem))

theorem value_of_looksNumeric (h : looksNumeric host = true) {c : CodePoint} (hc : c ∈ host) :
    c.value < 0x41 := by
  rcases mem_of_looksNumeric h hc with rfl | ⟨d, rfl, hd⟩
  · decide
  · have hbounds := Numeral.toNat_of_isDigit hd
    exact Nat.lt_of_le_of_lt hbounds.2 (by decide)

theorem isSafe_of_looksNumeric (h : looksNumeric host = true) : IsSafe isHostSafe host := by
  intro c hc
  rcases mem_of_looksNumeric h hc with rfl | ⟨d, rfl, hd⟩
  · decide
  · simp [CodePoint.satisfies, isHostSafe, isUnreserved, Char.isAlphanum, hd]

theorem map_asciiLower_eq_self (h : looksNumeric host = true) :
    host.map CodePoint.asciiLower = host := by
  rw [Text.map_asciiLower_eq_self_iff]
  intro c hc
  exact CodePoint.asciiLower_of_value_lt (.inl (value_of_looksNumeric h hc))

/-- What looks like four numbers looks so in both cases, and holds no letters. -/
theorem map_asciiLower_of_looksNumeric (h : looksNumeric (host.map CodePoint.asciiLower) = true) :
    host.map CodePoint.asciiLower = host := by
  rw [Text.map_asciiLower_eq_self_iff]
  intro c hc
  have hvalue := value_of_looksNumeric h (List.mem_map_of_mem hc)
  exact CodePoint.asciiLower_eq_self (Nat.lt_trans hvalue (by decide))

theorem isAscii_of_isSafe (h : IsSafe isHostSafe host) : Text.isAscii host = true := by
  apply List.all_eq_true.2
  intro c hc
  cases c with
  | surrogate s => cases h _ hc
  | char c =>
    have hbounds := toNat_of_isHostSafe (h _ hc)
    exact decide_eq_true (show c.toNat < 0x80 by omega)

theorem toLower_of_isSafe (h : IsSafe isHostSafe host) :
    host.toLower = host.map CodePoint.asciiLower := by
  rw [Text.toLower, if_pos (isAscii_of_isSafe h)]

theorem isHostSafe_toLower {c : Char} (h : isHostSafe c = true) : isHostSafe c.toLower = true := by
  obtain hsame | hlower := CodePoint.toLower_cases c
  · rwa [hsame]
  · simp [isHostSafe, isUnreserved, CodePoint.isAlphanum_of_isLower hlower]

theorem IsSafe.map_asciiLower (h : IsSafe isHostSafe host) :
    IsSafe isHostSafe (host.map CodePoint.asciiLower) := by
  intro c hc
  obtain ⟨d, hd, rfl⟩ := List.mem_map.1 hc
  have hsafe := h d hd
  cases d with
  | surrogate s => cases hsafe
  | char d => exact isHostSafe_toLower hsafe

theorem encodePart_of_isSafe {isSafe : Char → Bool} {t : Text} (h : IsSafe isSafe t) :
    encodePart isSafe t = .ok t := by
  rw [encodePart, percentEncode_of_isSafe h]

theorem encodePart_eq_ok {isSafe : Char → Bool} {t encoded : Text} :
    encodePart isSafe t = .ok encoded ↔ percentEncode isSafe t = .ok encoded := by
  unfold encodePart
  split
  · rename_i hencoded
    rw [hencoded, Except.ok.injEq, Except.ok.injEq]
  · rename_i hfault
    rw [hfault]
    exact ⟨nofun, nofun⟩

/-- A name of safe characters is put into lower case, unless it looks like an address and is
none. -/
theorem normalizeHost_of_isSafe (h : IsSafe isHostSafe host) :
    normalizeHost host =
      if looksNumeric host && !isFourOctets host then .error (.octets host)
      else .ok (host.map CodePoint.asciiLower) := by
  by_cases hempty : host = []
  · rw [hempty]
    rfl
  · have hnonempty : ¬ host.isEmpty = true := fun hnil => hempty (List.isEmpty_iff.1 hnil)
    have hbracket : ¬ (host.head? = some (.char '[') ∧ host.getLast? = some (.char ']')) :=
      fun hboth => h.not_mem (by decide) (List.mem_of_head? hboth.1)
    rw [normalizeHost, if_neg hnonempty]
    by_cases hnumeric : looksNumeric host = true
    · rw [if_pos hnumeric, hnumeric, map_asciiLower_eq_self hnumeric]
      cases isFourOctets host <;> rfl
    · rw [if_neg hnumeric, if_neg hbracket, if_pos (isAscii_of_isSafe h), toLower_of_isSafe h,
        encodePart_of_isSafe h.map_asciiLower, Bool.eq_false_iff.2 hnumeric]
      rfl

/-! ## 3. Addresses of groups -/

theorem colon_mem_of_isEightGroups (h : isEightGroups host = true) : .char ':' ∈ host := by
  unfold isEightGroups at h
  rcases Text.cutAt?_cases '%' host with ⟨hcut, -⟩ | ⟨address, zone, hcut, rfl, -⟩
  · by_contra hcolon
    rw [hcut] at h
    dsimp only at h
    rw [Text.splitOn_of_not_mem hcolon] at h
    simp at h
  · by_contra hcolon
    rw [hcut] at h
    dsimp only at h
    rw [Text.splitOn_of_not_mem fun hmem => hcolon (List.mem_append_left _ hmem)] at h
    simp at h

theorem normalizeHost_of_isEightGroups (h : isEightGroups host = true) :
    normalizeHost (.char '[' :: host ++ [.char ']']) = .ok host := by
  have hnumeric : ¬ looksNumeric (.char '[' :: host ++ [.char ']']) = true := by
    intro hnumeric
    exact absurd (value_of_looksNumeric hnumeric List.mem_cons_self) (by decide)
  have hlast : (.char '[' :: host ++ [.char ']'] : Text).getLast? = some (.char ']') :=
    List.getLast?_concat
  have haddress : (.char '[' :: host ++ [.char ']'] : Text).tail.dropLast = host := by simp
  rw [normalizeHost, if_neg (by simp), if_neg hnumeric, if_pos ⟨rfl, hlast⟩, haddress]
  exact if_pos h

/-! ## 4. Hosts -/

/-- The host of a URL. -/
inductive IsHost (host : Text) : Prop
  | name (safe : IsSafe isHostSafe host)
      (escapes : LowersEscapes host (host.map CodePoint.asciiLower))
  | groups (address : isEightGroups host = true) (avoids : Avoids ['/', '?', '#'] host)
      (no_at : .char '@' ∉ host) (controls : ∀ c ∈ host, isControl c = false)

theorem isHost_of_isSafe (h : IsSafe isHostSafe host)
    (hlower : host.map CodePoint.asciiLower = host) : IsHost host :=
  .name h (hlower.symm ▸ .refl host)

/-- The normal form of a host that was cut from an authority is the host of a URL. -/
theorem isHost_of_normalizeHost (havoids : Avoids ['/', '?', '#'] host)
    (hat : .char '@' ∉ host) (hcontrols : ∀ c ∈ host, isControl c = false)
    (h : normalizeHost host = .ok found) : IsHost found := by
  unfold normalizeHost at h
  -- One case for each kind of host: none, numeric, in brackets, ASCII, and a domain name.
  split at h
  · obtain rfl := Except.ok.inj h
    exact .name nofun .nil
  · split at h
    · rename_i hnumeric
      split at h
      · obtain rfl := Except.ok.inj h
        exact isHost_of_isSafe (isSafe_of_looksNumeric hnumeric) (map_asciiLower_eq_self hnumeric)
      · cases h
    · split at h
      · dsimp only at h
        split at h
        · rename_i hgroups
          obtain rfl := Except.ok.inj h
          have hsubset : host.tail.dropLast ⊆ host :=
            fun c hc => List.mem_of_mem_tail (List.dropLast_subset _ hc)
          exact .groups hgroups (fun c hc => havoids c (hsubset hc)) (fun hc => hat (hsubset hc))
            fun c hc => hcontrols c (hsubset hc)
        · cases h
      · split at h
        · rw [encodePart_eq_ok] at h
          exact .name (isSafe_percentEncode holdsEscapes_host h)
            (lowersEscapes_percentEncode (Text.map_asciiLower_toLower host) h)
        · split at h
          · rename_i ascii hascii
            obtain rfl := Except.ok.inj h
            have hlower := Text.map_asciiLower_toLower host
            exact isHost_of_isSafe (Domain.isSafe_toAscii hlower hascii)
              (Domain.map_asciiLower_toAscii hlower hascii)
          · cases h

/-- The host of a URL has a normal form, unless it looks like an address and is none.  The normal
form is the host itself but for escapes, and it is its own normal form. -/
theorem IsHost.again {url : Url} (hhost : IsHost url.host)
    (h : normalizeHost url.bracketedHost = .ok found) :
    IsHost found ∧ LowersEscapes url.host found ∧
      ∀ again : Url, again.host = found → normalizeHost again.bracketedHost = .ok found := by
  cases hhost with
  | name safe escapes =>
    have hbracket : ∀ url : Url, IsSafe isHostSafe url.host → url.bracketedHost = url.host :=
      fun url hsafe => if_neg fun hcolon =>
        hsafe.not_mem (by decide) (List.contains_iff_mem.1 hcolon)
    rw [hbracket url safe, normalizeHost_of_isSafe safe] at h
    split at h
    · cases h
    · rename_i hnumeric
      obtain rfl := Except.ok.inj h
      have hlower : (url.host.map CodePoint.asciiLower).map CodePoint.asciiLower =
          url.host.map CodePoint.asciiLower := by
        simp only [List.map_map, Function.comp_def, CodePoint.asciiLower_asciiLower]
      refine ⟨isHost_of_isSafe safe.map_asciiLower hlower, escapes, fun again hagain => ?_⟩
      rw [hbracket again (hagain ▸ safe.map_asciiLower), hagain,
        normalizeHost_of_isSafe safe.map_asciiLower, hlower, if_neg]
      -- A name that looks like an address in lower case did so before.
      intro hlooks
      apply hnumeric
      simp only [Bool.and_eq_true] at hlooks ⊢
      rwa [map_asciiLower_of_looksNumeric hlooks.1] at hlooks
  | groups address avoids no_at controls =>
    have hbracket : ∀ url : Url, isEightGroups url.host = true →
        url.bracketedHost = .char '[' :: url.host ++ [.char ']'] :=
      fun url haddress => if_pos (List.contains_iff_mem.2 (colon_mem_of_isEightGroups haddress))
    rw [hbracket url address, normalizeHost_of_isEightGroups address] at h
    obtain rfl := Except.ok.inj h
    refine ⟨.groups address avoids no_at controls, .refl _, fun again hagain => ?_⟩
    rw [hbracket again (hagain ▸ address), hagain]
    exact normalizeHost_of_isEightGroups address

end Url

end LogShipper
