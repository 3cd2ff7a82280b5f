import LogShipper.Proofs.Url.NormalForm

/-!
# Texts that cannot be quoted

A surrogate that stands alone has no bytes, so no part of a URL that is quoted may hold one; in a
host it is refused like any other code point that is not allowed there.  Which texts are refused for
a surrogate, and how the path of a URL that was read can fail to be replaced, is said here without
quoting anything.
-/

namespace LogShipper

/-! ## 1. Surrogates -/

namespace Text

/-- The first surrogate of a text. -/
def firstSurrogate? : Text → Option (Fin 2048)
  | [] => none
  | .char _ :: rest => firstSurrogate? rest
  | .surrogate s :: _ => some s

@[simp] theorem firstSurrogate?_append (t u : Text) :
    firstSurrogate? (t ++ u) = (firstSurrogate? t).or (firstSurrogate? u) := by
  induction t with
  | nil => rfl
  | cons c t ih =>
    cases c with
    | char c => exact ih
    | surrogate s => rfl

theorem firstSurrogate?_of_isAscii {t : Text} (h : t.isAscii = true) :
    firstSurrogate? t = none := by
  induction t with
  | nil => rfl
  | cons c t ih =>
    rw [isAscii, List.all_cons, Bool.and_eq_true] at h
    cases c with
    | char c => exact ih h.2
    | surrogate s =>
      have hvalue : 0xD800 + s.val < 0x80 := of_decide_eq_true h.1
      omega

theorem firstSurrogate?_map_asciiLower (t : Text) :
    firstSurrogate? (t.map CodePoint.asciiLower) = firstSurrogate? t := by
  induction t with
  | nil => rfl
  | cons c t ih =>
    cases c with
    | char c => exact ih
    | surrogate s => rfl

end Text

namespace Url

variable {α β : Type} {isSafe : Char → Bool} {t : Text} {fault : Utf8.EncodeFault}

/-- A computation that fails at the given surrogate, or succeeds if none is given. -/
def StopsAt : Option (Fin 2048) → Except Fault α → Prop
  | none, x => ∃ a, x = .ok a
  | some s, x => x = .error (.unencodable ⟨0, s, 1⟩)

theorem StopsAt.eq_error_iff {stop : Option (Fin 2048)} {x : Except Fault α}
    (h : StopsAt stop x) :
    x = .error (.unencodable fault) ↔ ∃ s, stop = some s ∧ fault = ⟨0, s, 1⟩ := by
  cases stop with
  | none =>
    obtain ⟨a, rfl⟩ := h
    simp
  | some s =>
    obtain rfl : x = .error (.unencodable ⟨0, s, 1⟩) := h
    simp [eq_comm]

theorem StopsAt.bind {stop next : Option (Fin 2048)} {x : Except Fault α}
    {f : α → Except Fault β} (h : StopsAt stop x) (hnext : ∀ a, StopsAt next (f a)) :
    StopsAt (stop.or next) (x >>= f) := by
  cases stop with
  | none =>
    obtain ⟨a, rfl⟩ := h
    exact hnext a
  | some s =>
    obtain rfl : x = .error (.unencodable ⟨0, s, 1⟩) := h
    rfl

/-- Quoting fails at the first surrogate, which is a text of its own in the fault. -/
theorem percentEncode_of_firstSurrogate? (isSafe : Char → Bool) (t : Text) :
    match t.firstSurrogate? with
    | none => ∃ encoded, percentEncode isSafe t = .ok encoded
    | some s => percentEncode isSafe t = .error ⟨0, s, 1⟩ := by
  induction t with
  | nil => exact ⟨[], rfl⟩
  | cons c t ih =>
    cases c with
    | surrogate s => rfl
    | char c =>
      rw [Text.firstSurrogate?, percentEncode]
      -- What stops the rest stops the whole with the same fault, in which there is no position.
      cases hstop : Text.firstSurrogate? t with
      | none =>
        rw [hstop] at ih
        obtain ⟨encoded, hencoded⟩ := ih
        rw [hencoded]
        exact ⟨_, rfl⟩
      | some s =>
        rw [hstop] at ih
        dsimp only at ih
        rw [ih]
        rfl

theorem stopsAt_encodePart (isSafe : Char → Bool) (t : Text) :
    StopsAt t.firstSurrogate? (encodePart isSafe t) := by
  have h := percentEncode_of_firstSurrogate? isSafe t
  unfold encodePart
  cases hstop : t.firstSurrogate? with
  | none =>
    rw [hstop] at h
    obtain ⟨encoded, hencoded⟩ := h
    rw [hencoded]
    exact ⟨encoded, rfl⟩
  | some s =>
    rw [hstop] at h
    dsimp only at h
    rw [h]
    rfl

theorem stopsAt_mapM (isSafe : Char → Bool) (part : Option Text) :
    StopsAt (part.getD []).firstSurrogate? (part.mapM (encodePart isSafe)) := by
  cases part with
  | none => exact ⟨none, rfl⟩
  | some t =>
    have h : StopsAt (t.firstSurrogate?.or none)
        (encodePart isSafe t >>= fun encoded => pure (some encoded)) :=
      (stopsAt_encodePart isSafe t).bind fun encoded => ⟨some encoded, rfl⟩
    rwa [Option.or_none] at h

/-- A host is refused for a surrogate, but not because it cannot be quoted. -/
theorem normalizeHost_ne_unencodable (host : Text) (fault : Utf8.EncodeFault) :
    normalizeHost host ≠ .error (.unencodable fault) := by
  intro h
  unfold normalizeHost at h
  split at h
  · cases h
  · split at h
    · split at h <;> cases h
    · split at h
      · dsimp only at h
        split at h <;> cases h
      · split at h
        · -- Only an ASCII host is quoted, and in it there is no surrogate.
          rename_i hascii
          obtain ⟨s, hs, -⟩ := (stopsAt_encodePart isHostSafe _).eq_error_iff.1 h
          rw [Text.toLower, if_pos hascii, Text.firstSurrogate?_map_asciiLower,
            Text.firstSurrogate?_of_isAscii hascii] at hs
          cases hs
        · split at h <;> cases h

theorem normalizePort_ne_unencodable (t scheme : Text) (fault : Utf8.EncodeFault) :
    normalizePort t scheme ≠ .error (.unencodable fault) := by
  intro h
  unfold normalizePort at h
  split at h
  · cases h
  · split at h <;> cases h

theorem checkPath_ne_unencodable (path : Text) (hasScheme hasAuthority : Bool)
    (fault : Utf8.EncodeFault) :
    checkPath path hasScheme hasAuthority ≠ .error (.unencodable fault) := by
  intro h
  unfold checkPath at h
  split_ifs at h <;> cases h

/-! ## 2. Reading -/

/-- Whether the parts of an authority make one. -/
def hasAuthority (userinfo host : Text) (port : Option Int) : Bool :=
  !userinfo.isEmpty || !host.isEmpty || port.isSome

/-- Parts with an authority that is in order, and with a path that may follow it. -/
structure Parts.IsHeaded (parts : Parts) (userinfo host : Text) (port : Option Int) : Prop where
  userinfo_eq : encodePart isUserinfoSafe (cutAuthority parts.authority).1 = .ok userinfo
  host_eq : normalizeHost (cutAuthority parts.authority).2.1 = .ok host
  port_eq : normalizePort (cutAuthority parts.authority).2.2 parts.scheme = .ok port
  path_eq : checkPath parts.path (!parts.scheme.isEmpty) (hasAuthority userinfo host port) = .ok ()

/-- What is quoted behind an authority: the path, without dot segments if something stands before
it, the query and the fragment. -/
def Parts.tail (parts : Parts) (userinfo host : Text) (port : Option Int) : Text :=
  (if !parts.scheme.isEmpty || hasAuthority userinfo host port then removeDots parts.path
    else parts.path) ++ parts.query.getD [] ++ parts.fragment.getD []

/-- The first surrogate that stands where it had to be quoted: in the user information, or behind an
authority that is in order. -/
inductive Parts.IsStopped (parts : Parts) (s : Fin 2048) : Prop
  | userinfo (h : (cutAuthority parts.authority).1.firstSurrogate? = some s)
  | tail {userinfo host : Text} {port : Option Int} (headed : parts.IsHeaded userinfo host port)
      (h : (parts.tail userinfo host port).firstSurrogate? = some s)

theorem stopsAt_tail (path : Text) (query fragment : Option Text)
    (build : Text → Option Text → Option Text → Url) :
    StopsAt (path ++ query.getD [] ++ fragment.getD []).firstSurrogate? (do
      let path ← encodePart isPathSafe path
      let query ← query.mapM (encodePart isQuerySafe)
      let fragment ← fragment.mapM (encodePart isFragmentSafe)
      return build path query fragment) := by
  rw [List.append_assoc, Text.firstSurrogate?_append, Text.firstSurrogate?_append]
  refine (stopsAt_encodePart isPathSafe path).bind fun path => ?_
  refine (stopsAt_mapM isQuerySafe query).bind fun query => ?_
  rw [← Option.or_none (o := (fragment.getD []).firstSurrogate?)]
  exact (stopsAt_mapM isFragmentSafe fragment).bind fun fragment => ⟨_, rfl⟩

theorem ofParts_eq_unencodable_iff {parts : Parts} :
    ofParts parts = .error (.unencodable fault) ↔
      ∃ s, parts.IsStopped s ∧ fault = ⟨0, s, 1⟩ := by
  have huserinfo := stopsAt_encodePart isUserinfoSafe (cutAuthority parts.authority).1
  unfold ofParts
  dsimp only
  constructor
  · intro h
    -- Of the steps before the path only the first quotes what may hold a surrogate.
    rcases bind_eq_error_iff.1 h with h | ⟨userinfo, huserinfo, h⟩
    · obtain ⟨s, hs, rfl⟩ := huserinfo.eq_error_iff.1 h
      exact ⟨s, .userinfo hs, rfl⟩
    rcases bind_eq_error_iff.1 h with h | ⟨host, hhost, h⟩
    · exact absurd h (normalizeHost_ne_unencodable _ _)
    rcases bind_eq_error_iff.1 h with h | ⟨port, hport, h⟩
    · exact absurd h (normalizePort_ne_unencodable _ _ _)
    rcases bind_eq_error_iff.1 h with h | ⟨⟨⟩, hpath, h⟩
    · exact absurd h (checkPath_ne_unencodable _ _ _ _)
    obtain ⟨s, hs, rfl⟩ := (stopsAt_tail _ _ _ _).eq_error_iff.1 h
    exact ⟨s, .tail ⟨huserinfo, hhost, hport, hpath⟩ hs, rfl⟩
  · rintro ⟨s, hstopped, rfl⟩
    cases hstopped with
    | userinfo hs =>
      rw [huserinfo.eq_error_iff.2 ⟨s, hs, rfl⟩]
      rfl
    | tail headed hs =>
      rw [headed.userinfo_eq, ok_bind, headed.host_eq, ok_bind, headed.port_eq, ok_bind]
      have hpath := headed.path_eq
      unfold hasAuthority at hpath
      rw [hpath, ok_bind]
      exact (stopsAt_tail _ _ _ _).eq_error_iff.2 ⟨s, hs, rfl⟩

/-- A text of which a surrogate is found where it had to be quoted, when it is read. -/
structure IsStopped (t : Text) (s : Fin 2048) : Prop where
  length_le : t.length ≤ maxLength
  controls : ∀ c ∈ t, isControl c = false
  stopped : (Parts.ofText t).IsStopped s

theorem parse_eq_unencodable_iff :
    parse t = .error (.unencodable fault) ↔ ∃ s, IsStopped t s ∧ fault = ⟨0, s, 1⟩ := by
  unfold parse
  by_cases hlength : maxLength < t.length
  · rw [if_pos hlength]
    -- A text that is too long, or that has a control, is refused before anything is quoted.
    refine ⟨nofun, ?_⟩
    rintro ⟨s, hstopped, -⟩
    exact absurd hlength (Nat.not_lt.2 hstopped.length_le)
  · rw [if_neg hlength]
    cases hcontrols : t.findIdx? isControl with
    | some place =>
      refine ⟨nofun, ?_⟩
      rintro ⟨s, hstopped, -⟩
      rw [List.findIdx?_eq_none_iff.2 hstopped.controls] at hcontrols
      cases hcontrols
    | none =>
      have hnone := List.findIdx?_eq_none_iff.1 hcontrols
      show ofParts (Parts.ofText t) = _ ↔ _
      rw [ofParts_eq_unencodable_iff]
      constructor
      · rintro ⟨s, hstopped, rfl⟩
        exact ⟨s, ⟨Nat.not_lt.1 hlength, hnone, hstopped⟩, rfl⟩
      · rintro ⟨s, hstopped, rfl⟩
        exact ⟨s, hstopped.stopped, rfl⟩

/-! ## 3. Replacing the path -/

variable {url : Url} {path : Text} {cause : Fault}

/-- The host of a URL has a normal form again unless it looks like an address and is none. -/
theorem IsHost.normalizeHost_eq_error_iff (h : IsHost url.host) :
    normalizeHost url.bracketedHost = .error cause ↔ looksNumeric url.host = true ∧
      isFourOctets url.host = false ∧ cause = .octets url.host := by
  cases h with
  | name safe escapes =>
    have hbracket : url.bracketedHost = url.host := if_neg fun hcolon =>
      safe.not_mem (by decide) (List.contains_iff_mem.1 hcolon)
    rw [hbracket, normalizeHost_of_isSafe safe]
    by_cases hlooks : (looksNumeric url.host && !isFourOctets url.host) = true
    · rw [if_pos hlooks]
      simp only [Bool.and_eq_true, Bool.not_eq_true'] at hlooks
      simp [hlooks, eq_comm]
    · rw [if_neg hlooks]
      simp only [Bool.and_eq_true, Bool.not_eq_true'] at hlooks
      exact ⟨nofun, fun hcause => absurd ⟨hcause.1, hcause.2.1⟩ hlooks⟩
  | groups address avoids no_at controls =>
    have hcolon := colon_mem_of_isEightGroups address
    have hbracket : url.bracketedHost = .char '[' :: url.host ++ [.char ']'] :=
      if_pos (List.contains_iff_mem.2 hcolon)
    rw [hbracket, normalizeHost_of_isEightGroups address]
    refine ⟨nofun, fun hcause => ?_⟩
    -- No number holds a colon.
    rcases mem_of_looksNumeric hcause.1 hcolon with hpoint | ⟨d, hd, hdigit⟩
    · exact absurd hpoint (by decide)
    · rw [← CodePoint.char.inj hd] at hdigit
      cases hdigit

/-- A URL that was read is refused with another path only if a part is too long now, or if its host
looks like an address and is none. -/
theorem IsNormal.withPath_eq_error_iff (h : url.IsNormal) (hscheme : url.scheme ≠ [])
    (hpath : IsPlainPath path) :
    url.withPath path = .error cause ↔
      (∃ component, Parts.oversized? { url.parts with path } = some component ∧
        cause = .componentTooLong component) ∨
      Parts.oversized? { url.parts with path } = none ∧ looksNumeric url.host = true ∧
        isFourOctets url.host = false ∧ cause = .octets url.host := by
  have hparts := h.ofParts_eq hscheme hpath
  unfold withPath
  dsimp only
  cases hsize : Parts.oversized? { url.parts with path } with
  | some component =>
    constructor
    · intro hcause
      exact .inl ⟨component, rfl, (Except.error.inj hcause).symm⟩
    · rintro (⟨_, hsome, rfl⟩ | ⟨hnone, -⟩)
      · rw [← Option.some.inj hsome]
      · cases hnone
  | none =>
    dsimp only
    rw [hparts, bind_eq_error_iff, h.host.normalizeHost_eq_error_iff]
    constructor
    · rintro (hcause | ⟨host, -, hbuilt⟩)
      · exact .inr ⟨rfl, hcause⟩
      · cases hbuilt
    · rintro (⟨component, hsome, -⟩ | ⟨-, hcause⟩)
      · cases hsome
      · exact .inl hcause

end Url

end LogShipper
