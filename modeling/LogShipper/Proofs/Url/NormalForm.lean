import LogShipper.Proofs.Except
import LogShipper.Proofs.Number.Numeral
import LogShipper.Proofs.Url.Host

/-!
# URLs in normal form

The parts of a text give a URL in normal form.  With another path its parts give the same URL again,
but for the escapes in its host and for a port that turns out to be the scheme's own, and that URL
is read from its text as it is.
-/

namespace LogShipper.Url

/-! ## 1. Ports -/

/-- A port that can be written. -/
def IsPort (port : Option Int) : Prop :=
  ∀ n ∈ port, Integer.isOversized n = false

variable {url again : Url} {parts : Parts} {port : Option Int} {path : Text}

/-- The port, unless it is the scheme's own. -/
def foreignPort (scheme : Text) (port : Option Int) : Option Int :=
  if ownPort? scheme = port then none else port

theorem isPort_none : IsPort none :=
  nofun

theorem foreignPort_cases (scheme : Text) (port : Option Int) :
    foreignPort scheme port = port ∨
      foreignPort scheme port = none ∧ port = ownPort? scheme := by
  unfold foreignPort
  split
  · rename_i hown
    exact .inr ⟨rfl, hown.symm⟩
  · exact .inl rfl

theorem foreignPort_foreignPort (scheme : Text) (port : Option Int) :
    foreignPort scheme (foreignPort scheme port) = foreignPort scheme port := by
  unfold foreignPort
  split
  · split <;> rfl
  · rfl

theorem IsPort.foreignPort (h : IsPort port) (scheme : Text) :
    IsPort (foreignPort scheme port) := by
  rcases foreignPort_cases scheme port with hsame | ⟨hnone, -⟩
  · rwa [hsame]
  · rw [hnone]
    exact isPort_none

theorem isPort_of_normalizePort {t scheme : Text} (h : normalizePort t scheme = .ok port) :
    IsPort port := by
  unfold normalizePort at h
  split at h
  · obtain rfl := Except.ok.inj h
    exact isPort_none
  · split at h
    · cases h
    · rename_i n hread
      obtain rfl := Except.ok.inj h
      split
      · exact isPort_none
      · rintro m hm
        obtain rfl := Option.some.inj hm
        exact Numeral.isOversized_of_readIntegerAs hread

theorem normalizePort_portText (h : IsPort port) (scheme : Text) :
    normalizePort (portText port) scheme = .ok (foreignPort scheme port) := by
  cases port with
  | none =>
    unfold foreignPort
    split <;> rfl
  | some n =>
    have hread := Numeral.readInteger_toText (h n rfl)
    have hnonempty : ¬ (Integer.toText n).isEmpty = true := by
      intro hempty
      rw [List.isEmpty_iff.1 hempty] at hread
      cases hread
    rw [portText, Option.map_some, Option.getD_some, normalizePort, if_neg hnonempty, hread]
    rfl

/-! ## 2. Normal forms -/

/-- A URL in normal form, but for its path. -/
structure IsNormal (url : Url) : Prop where
  isScheme : IsScheme url.scheme
  lower : url.scheme.map CodePoint.asciiLower = url.scheme
  userinfo : IsSafe isUserinfoSafe url.userinfo
  host : IsHost url.host
  port : IsPort url.port
  query : ∀ query ∈ url.query, IsSafe isQuerySafe query
  fragment : ∀ fragment ∈ url.fragment, IsSafe isFragmentSafe fragment

theorem isSafe_of_encodePart {isSafe : Char → Bool} {t encoded : Text}
    (hescapes : HoldsEscapes isSafe) (h : encodePart isSafe t = .ok encoded) :
    IsSafe isSafe encoded :=
  isSafe_percentEncode hescapes (encodePart_eq_ok.1 h)

theorem isSafe_of_mapM {isSafe : Char → Bool} {part encoded : Option Text}
    (hescapes : HoldsEscapes isSafe) (h : part.mapM (encodePart isSafe) = .ok encoded) :
    ∀ t ∈ encoded, IsSafe isSafe t := by
  cases part with
  | none =>
    obtain rfl := Except.ok.inj h
    exact nofun
  | some t =>
    cases ht : encodePart isSafe t with
    | error fault =>
      rw [Option.mapM_some, ht] at h
      cases h
    | ok found =>
      rw [Option.mapM_some, ht] at h
      obtain rfl := Except.ok.inj h
      rintro _ hmem
      obtain rfl := Option.some.inj hmem
      exact isSafe_of_encodePart hescapes ht

theorem mapM_of_isSafe {isSafe : Char → Bool} {part : Option Text}
    (h : ∀ t ∈ part, IsSafe isSafe t) : part.mapM (encodePart isSafe) = .ok part := by
  cases part with
  | none => rfl
  | some t =>
    rw [Option.mapM_some, encodePart_of_isSafe (h t rfl)]
    rfl

theorem exists_of_isSchemeChar {c : CodePoint} (h : isSchemeChar c = true) :
    ∃ d : Char, c = .char d ∧ 0x20 ≤ d.toNat ∧ d.toNat < 0x7F := by
  cases c with
  | surrogate s => cases h
  | char d =>
    refine ⟨d, rfl, ?_⟩
    simp only [isSchemeChar, CodePoint.satisfies, Bool.or_eq_true, decide_eq_true_eq] at h
    obtain ((h | rfl) | rfl) | rfl := h
    · have hbounds := toNat_of_isAlphanum h
      omega
    · decide
    · decide
    · decide

theorem isSchemeChar_asciiLower {c : CodePoint} (h : isSchemeChar c = true) :
    isSchemeChar c.asciiLower = true := by
  cases c with
  | surrogate s => cases h
  | char c =>
    obtain hsame | hlower := CodePoint.toLower_cases c
    · rwa [CodePoint.asciiLower, hsame]
    · simp [CodePoint.asciiLower, isSchemeChar, CodePoint.satisfies,
        CodePoint.isAlphanum_of_isLower hlower]

variable {scheme : Text}

theorem IsScheme.toLower_eq (h : IsScheme scheme) :
    scheme.toLower = scheme.map CodePoint.asciiLower := by
  have hascii : scheme.isAscii = true := by
    apply List.all_eq_true.2
    intro c hc
    obtain ⟨d, rfl, -, hd⟩ := exists_of_isSchemeChar (h.chars c hc)
    exact decide_eq_true (show d.toNat < 0x80 by omega)
  rw [Text.toLower, if_pos hascii]

theorem IsScheme.toLower (h : IsScheme scheme) : IsScheme scheme.toLower := by
  rw [h.toLower_eq]
  constructor
  · intro c hc
    obtain ⟨b, hb, rfl⟩ := List.mem_map.1 hc
    exact isSchemeChar_asciiLower (h.chars b hb)
  · have hhead := h.head
    cases scheme with
    | nil => rfl
    | cons c rest =>
      obtain ⟨d, rfl, -⟩ := exists_of_isSchemeChar (h.chars c List.mem_cons_self)
      exact CodePoint.isAlpha_toLower hhead

theorem isNormal_ofParts (hcut : parts.AreCut) (h : ofParts parts = .ok url) : url.IsNormal := by
  unfold ofParts at h
  cases hauthority : cutAuthority parts.authority with | mk givenUserinfo rest
  obtain ⟨givenHost, givenPort⟩ := rest
  rw [hauthority] at h
  -- Each part is checked and encoded by itself.
  obtain ⟨userinfo, huserinfo, h⟩ := bind_eq_ok_iff.1 h
  obtain ⟨host, hhost, h⟩ := bind_eq_ok_iff.1 h
  obtain ⟨port, hport, h⟩ := bind_eq_ok_iff.1 h
  obtain ⟨⟨⟩, -, h⟩ := bind_eq_ok_iff.1 h
  obtain ⟨path, -, h⟩ := bind_eq_ok_iff.1 h
  obtain ⟨query, hquery, h⟩ := bind_eq_ok_iff.1 h
  obtain ⟨fragment, hfragment, h⟩ := bind_eq_ok_iff.1 h
  obtain rfl := Except.ok.inj h
  obtain ⟨hsubset, hat⟩ := cutAuthority_host hauthority
  exact {
    isScheme := hcut.scheme.toLower
    lower := Text.map_asciiLower_toLower _
    userinfo := isSafe_of_encodePart holdsEscapes_userinfo huserinfo
    host := isHost_of_normalizeHost (fun c hc => hcut.authority c (hsubset hc)) hat
      (fun c hc => hcut.controls c (hsubset hc)) hhost
    port := isPort_of_normalizePort hport
    query := isSafe_of_mapM holdsEscapes_query hquery
    fragment := isSafe_of_mapM holdsEscapes_fragment hfragment }

/-! ## 3. Normal forms of normal forms -/

/-- A path that begins with a slash, has no dot segments and is encoded. -/
structure IsPlainPath (path : Text) : Prop where
  start : path.head? = some (.char '/')
  dots : removeDots path = path
  safe : IsSafe isPathSafe path

theorem IsHost.cases_colon {host : Text} (h : IsHost host) :
    .char '@' ∉ host ∧
      (.char ':' ∈ host ∨ .char ':' ∉ host ∧ host.head? ≠ some (.char '[')) := by
  cases h with
  | name safe escapes =>
    exact ⟨safe.not_mem (by decide), .inr ⟨safe.not_mem (by decide),
      fun hhead => safe.not_mem (by decide) (List.mem_of_head? hhead)⟩⟩
  | groups address avoids no_at controls =>
    exact ⟨no_at, .inl (colon_mem_of_isEightGroups address)⟩

/-- The parts of a URL in normal form, with a plain path, are in normal form but for the host and
the port. -/
theorem IsNormal.ofParts_eq (h : url.IsNormal) (hscheme : url.scheme ≠ [])
    (hpath : IsPlainPath path) :
    ofParts { url.parts with path } = (do
      let host ← normalizeHost url.bracketedHost
      return { url with host, port := foreignPort url.scheme url.port, path }) := by
  have hcut := cutAuthority_authority h.host.cases_colon.1 h.host.cases_colon.2
  have hlower : url.scheme.toLower = url.scheme := h.isScheme.toLower_eq.trans h.lower
  have hnonempty : (!url.scheme.isEmpty) = true := by
    rw [Bool.not_eq_true', List.isEmpty_eq_false_iff]
    exact hscheme
  have hcheck : ∀ hasAuthority, checkPath path true hasAuthority = .ok () := by
    obtain ⟨rest, hrest⟩ := List.head?_eq_some_iff.1 hpath.start
    rw [hrest]
    rintro (_ | _)
    · rfl
    · rfl
  unfold ofParts parts
  rw [hcut]
  simp only [hnonempty, hlower, hcheck, hpath.dots, encodePart_of_isSafe h.userinfo,
    encodePart_of_isSafe hpath.safe, normalizePort_portText h.port, mapM_of_isSafe h.query,
    mapM_of_isSafe h.fragment, ok_bind, Bool.true_or, if_true]

/-- With another path a URL in normal form stays the same but for the escapes in its host and for a
port that is the scheme's own.  Once more nothing changes. -/
theorem IsNormal.of_ofParts (h : url.IsNormal) (hscheme : url.scheme ≠ [])
    (hpath : IsPlainPath path) (hagain : ofParts { url.parts with path } = .ok again) :
    again.IsNormal ∧ LowersEscapes url.host again.host ∧
      again = { url with
        host := again.host, port := foreignPort url.scheme url.port, path } ∧
      ofParts again.parts = .ok again := by
  rw [h.ofParts_eq hscheme hpath] at hagain
  obtain ⟨host, hhost, hagain⟩ := bind_eq_ok_iff.1 hagain
  obtain rfl := Except.ok.inj hagain
  obtain ⟨hisHost, hescapes, hsame⟩ := h.host.again hhost
  have hnormal : IsNormal { url with
      host, port := foreignPort url.scheme url.port, path } :=
    { h with host := hisHost, port := h.port.foreignPort url.scheme }
  refine ⟨hnormal, hescapes, rfl, ?_⟩
  have hparts := hnormal.ofParts_eq hscheme hpath
  dsimp only at hparts
  rw [hsame _ rfl, ok_bind, foreignPort_foreignPort] at hparts
  exact hparts

/-! ## 4. Reading again -/

theorem IsSafe.avoids {isSafe : Char → Bool} {t : Text} {marks : List Char} (h : IsSafe isSafe t)
    (hmarks : marks.any isSafe = false) : Avoids marks t := by
  intro c hc
  cases c with
  | surrogate s => rfl
  | char d =>
    have hsafe : isSafe d = true := h _ hc
    rw [CodePoint.satisfies, ← Bool.not_eq_true, List.contains_iff_mem]
    intro hmem
    exact List.any_eq_false.1 hmarks d hmem hsafe

theorem isControl_of_bounds {c : Char} (h : 0x20 ≤ c.toNat ∧ c.toNat < 0x7F) :
    isControl (.char c) = false := by
  have hlow : ¬ c.toNat < 0x20 := Nat.not_lt.2 h.1
  have hhigh : c.toNat ≠ 0x7F := Nat.ne_of_lt h.2
  simp [isControl, CodePoint.value, hlow, hhigh]

theorem IsSafe.controls {isSafe : Char → Bool} {t : Text} (h : IsSafe isSafe t)
    (hbounds : ∀ c, isSafe c = true → 0x20 ≤ c.toNat ∧ c.toNat < 0x7F) :
    ∀ c ∈ t, isControl c = false := by
  intro c hc
  cases c with
  | surrogate s => cases h _ hc
  | char d =>
    exact isControl_of_bounds (hbounds d (h _ hc))

theorem IsHost.avoids {host : Text} (h : IsHost host) : Avoids ['/', '?', '#'] host := by
  cases h with
  | name safe escapes => exact safe.avoids (by decide)
  | groups address avoids no_at controls => exact avoids

theorem IsHost.controls {host : Text} (h : IsHost host) : ∀ c ∈ host, isControl c = false := by
  cases h with
  | name safe escapes => exact safe.controls fun c => toNat_of_isHostSafe
  | groups address avoids no_at controls => exact controls

theorem forall_mem_marked {p : CodePoint → Prop} {mark : Char} {part : Option Text}
    (hmark : p (.char mark)) (hpart : ∀ t ∈ part, ∀ c ∈ t, p c) : ∀ c ∈ marked mark part, p c := by
  cases part with
  | none => exact nofun
  | some t => exact List.forall_mem_cons.2 ⟨hmark, hpart t rfl⟩

/-- An authority holds nothing but its parts, their marks and the characters of a port. -/
theorem forall_mem_authority {p : CodePoint → Prop} (huserinfo : ∀ c ∈ url.userinfo, p c)
    (hhost : ∀ c ∈ url.host, p c) (hmarks : ∀ c ∈ Text.ofString "@[]:-", p c)
    (hdigits : ∀ c : Char, c.isDigit = true → p (.char c)) : ∀ c ∈ url.authority, p c := by
  have hport : ∀ c ∈ marked ':' (url.port.map Integer.toText), p c := by
    apply forall_mem_marked (hmarks _ (by decide))
    intro t ht c hc
    obtain ⟨n, -, rfl⟩ := Option.mem_map.1 ht
    rcases Numeral.char_of_mem_toText hc with rfl | ⟨d, rfl, hd⟩
    · exact hmarks _ (by decide)
    · exact hdigits d hd
  have hserver : ∀ c ∈ url.server, p c := by
    apply List.forall_mem_append.2 ⟨?_, hport⟩
    unfold bracketedHost
    split
    · exact List.forall_mem_cons.2 ⟨hmarks _ (by decide),
        List.forall_mem_append.2 ⟨hhost, List.forall_mem_singleton.2 (hmarks _ (by decide))⟩⟩
    · exact hhost
  unfold authority
  split
  · exact hserver
  · exact List.forall_mem_append.2 ⟨huserinfo,
      List.forall_mem_cons.2 ⟨hmarks _ (by decide), hserver⟩⟩

theorem IsNormal.avoids_authority (h : url.IsNormal) : Avoids ['/', '?', '#'] url.authority := by
  apply forall_mem_authority (h.userinfo.avoids (by decide)) h.host.avoids (by decide)
  intro c hc
  have hmarks : ['/', '?', '#'].any Char.isDigit = false := by decide
  rw [CodePoint.satisfies, ← Bool.not_eq_true, List.contains_iff_mem]
  intro hmem
  exact List.any_eq_false.1 hmarks c hmem hc

theorem isControl_of_isDigit {c : Char} (h : c.isDigit = true) : isControl (.char c) = false := by
  have hbounds := Numeral.toNat_of_isDigit h
  exact isControl_of_bounds (by omega)

theorem isControl_of_isSchemeChar {c : CodePoint} (h : isSchemeChar c = true) :
    isControl c = false := by
  obtain ⟨d, rfl, hbounds⟩ := exists_of_isSchemeChar h
  exact isControl_of_bounds hbounds

theorem IsNormal.controls (h : url.IsNormal) (hpath : IsSafe isPathSafe url.path) :
    ∀ c ∈ url.toText, isControl c = false := by
  have hauthority : ∀ c ∈ url.authority, isControl c = false :=
    forall_mem_authority (h.userinfo.controls fun _ => toNat_of_isPrintableExcept)
      h.host.controls (by decide) fun _ => isControl_of_isDigit
  have hscheme : ∀ c ∈ url.scheme, isControl c = false :=
    fun c hc => isControl_of_isSchemeChar (h.isScheme.chars c hc)
  unfold toText
  simp only [List.forall_mem_append]
  refine ⟨⟨⟨⟨?_, ?_⟩, hpath.controls fun _ => toNat_of_isPrintableExcept⟩, ?_⟩, ?_⟩
  · split
    · exact nofun
    · exact List.forall_mem_append.2 ⟨hscheme, by decide⟩
  · split
    · exact nofun
    · exact List.forall_mem_cons.2 ⟨by decide, List.forall_mem_cons.2 ⟨by decide, hauthority⟩⟩
  · exact forall_mem_marked (by decide) fun query hquery =>
      (h.query query hquery).controls fun _ => toNat_of_isPrintableExcept
  · exact forall_mem_marked (by decide) fun fragment hfragment =>
      (h.fragment fragment hfragment).controls fun _ => toNat_of_isPrintableExcept

theorem authority_ne_nil (hhost : url.host ≠ []) : url.authority ≠ [] := by
  have hserver : url.server ≠ [] := by
    unfold server bracketedHost
    split
    · exact List.cons_ne_nil _ _
    · exact fun hnil => hhost (List.append_eq_nil_iff.1 hnil).1
  unfold authority
  split
  · exact hserver
  · exact fun hnil => nomatch (List.append_eq_nil_iff.1 hnil).2

theorem IsNormal.isLegible (h : url.IsNormal) (hscheme : url.scheme ≠ []) (hhost : url.host ≠ [])
    (hpath : IsPlainPath url.path) : url.IsLegible where
  isScheme := h.isScheme
  scheme_ne_nil := hscheme
  authority := h.avoids_authority
  authority_ne_nil := authority_ne_nil hhost
  path_head := by
    intro c hc
    rw [hpath.start] at hc
    exact (Option.some.inj hc).symm
  path := hpath.safe.avoids (by decide)
  query := fun query hquery => (h.query query hquery).avoids (by decide)

/-- A URL in normal form that is its own normal form is read from its text. -/
theorem IsNormal.parse_toText (h : url.IsNormal) (hscheme : url.scheme ≠ [])
    (hhost : url.host ≠ []) (hpath : IsPlainPath url.path) (hparts : ofParts url.parts = .ok url)
    (hlength : url.toText.length ≤ maxLength) : parse url.toText = .ok url := by
  have hcontrols : url.toText.findIdx? isControl = none :=
    List.findIdx?_eq_none_iff.2 (h.controls hpath.safe)
  have hcut := ofText_toText (h.isLegible hscheme hhost hpath)
  unfold parse
  rw [if_neg (Nat.not_lt.2 hlength), hcontrols, hcut]
  exact hparts

theorem isNormal_of_parse {t : Text} (h : parse t = .ok url) : url.IsNormal := by
  unfold parse at h
  obtain ⟨-, h⟩ := guard_bind_eq_ok_iff.1 h
  split at h
  · cases h
  · rename_i hcontrols
    have hcut := Parts.areCut_ofText (List.findIdx?_eq_none_iff.1 hcontrols)
    exact isNormal_ofParts hcut h

theorem length_le_of_parse {t : Text} (h : parse t = .ok url) : t.length ≤ maxLength := by
  unfold parse at h
  obtain ⟨hlength, -⟩ := guard_bind_eq_ok_iff.1 h
  exact Nat.not_lt.1 hlength

/-! ## 5. Replacing the path -/

theorem withPath_eq_ok_iff :
    url.withPath path = .ok again ↔
      Parts.oversized? { url.parts with path } = none ∧
        ofParts { url.parts with path } = .ok again := by
  unfold withPath
  dsimp only
  cases Parts.oversized? { url.parts with path } with
  | none => simp
  | some component => simp

theorem length_getD_le_marked (mark : Char) (part : Option Text) :
    (part.getD []).length ≤ (marked mark part).length := by
  cases part with
  | none => exact Nat.le_refl _
  | some t => exact Nat.le_succ _

/-- No part of a URL is too long if its text is not. -/
theorem oversized?_eq_none (h : url.IsLegible) (hlength : url.toText.length ≤ maxLength) :
    url.parts.oversized? = none := by
  have hquery := length_getD_le_marked '?' url.query
  have hfragment := length_getD_le_marked '#' url.fragment
  rw [h.toText_eq] at hlength
  simp only [List.length_append, List.length_cons] at hlength
  unfold Parts.oversized? parts
  rw [Option.map_eq_none_iff, List.find?_eq_none]
  simp only [List.forall_mem_cons, decide_eq_true_eq, Nat.not_lt]
  exact ⟨by omega, by omega, by omega, by omega, by omega, nofun⟩

end LogShipper.Url
