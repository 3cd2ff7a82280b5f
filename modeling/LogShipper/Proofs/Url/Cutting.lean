import LogShipper.Proofs.Number.Numeral
import LogShipper.Url
import Mathlib.Data.List.TakeDrop
import Mathlib.Data.List.TakeWhile

/-!
# Cutting what was put together

The text of a URL is cut into the parts that it was put together from, and its authority into the
user information, the host and the port, as long as no part holds a mark that would end it.
-/

namespace LogShipper

/-! ## 1. Cuts -/

namespace Text

variable {mark : CodePoint} {t before after : Text}

theorem cutAt?_eq_none (h : mark ∉ t) : cutAt? mark t = none := by
  induction t with
  | nil => rfl
  | cons c t ih =>
    rw [List.mem_cons, not_or] at h
    rw [cutAt?, if_neg (Ne.symm h.1), ih h.2, Option.map_none]

theorem cutAt?_append (h : mark ∉ before) :
    cutAt? mark (before ++ mark :: after) = some (before, after) := by
  induction before with
  | nil => rw [List.nil_append, cutAt?, if_pos rfl]
  | cons c before ih =>
    rw [List.mem_cons, not_or] at h
    rw [List.cons_append, cutAt?, if_neg (Ne.symm h.1), ih h.2, Option.map_some]

/-- A text without the mark is not cut, and one that is cut has it behind the part before. -/
theorem cutAt?_cases (mark : CodePoint) (t : Text) :
    cutAt? mark t = none ∧ mark ∉ t ∨
      ∃ before after, cutAt? mark t = some (before, after) ∧ t = before ++ mark :: after ∧
        mark ∉ before := by
  by_cases h : mark ∈ t
  · obtain ⟨before, after, rfl, hbefore⟩ := List.eq_append_cons_of_mem h
    exact .inr ⟨before, after, cutAt?_append hbefore, rfl, hbefore⟩
  · exact .inl ⟨cutAt?_eq_none h, h⟩

end Text

/-- A text is cut where the first code point stands that does not belong to its beginning. -/
theorem span_append {p : CodePoint → Bool} {before rest : Text} (h : ∀ c ∈ before, p c = true)
    (hrest : ∀ c ∈ rest.head?, p c = false) : (before ++ rest).span p = (before, rest) := by
  rw [List.span_eq_takeWhile_dropWhile, List.takeWhile_append_of_pos h,
    List.dropWhile_append_of_pos h]
  cases rest with
  | nil => rw [List.takeWhile_nil, List.dropWhile_nil, List.append_nil]
  | cons c rest =>
    have hstop : ¬ p c = true := by
      rw [hrest c rfl]
      exact Bool.false_ne_true
    rw [List.takeWhile_cons_of_neg hstop, List.dropWhile_cons_of_neg hstop, List.append_nil]

namespace Url

variable {mark : CodePoint} {marks : List Char} {t before after rest : Text}

theorem cutAtLast?_eq_none (h : mark ∉ t) : cutAtLast? mark t = none := by
  rw [cutAtLast?, Text.cutAt?_eq_none fun hmem => h (List.mem_reverse.1 hmem), Option.map_none]

theorem cutAtLast?_append (before : Text) (h : mark ∉ after) :
    cutAtLast? mark (before ++ mark :: after) = some (before, after) := by
  have hreverse : (before ++ mark :: after).reverse =
      after.reverse ++ mark :: before.reverse := by simp
  have hafter : mark ∉ after.reverse := fun hmem => h (List.mem_reverse.1 hmem)
  rw [cutAtLast?, hreverse, Text.cutAt?_append hafter, Option.map_some]
  dsimp only
  rw [List.reverse_reverse, List.reverse_reverse]

theorem cutAtLast?_cases (mark : CodePoint) (t : Text) :
    cutAtLast? mark t = none ∧ mark ∉ t ∨
      ∃ before after, cutAtLast? mark t = some (before, after) ∧ t = before ++ mark :: after ∧
        mark ∉ after := by
  by_cases h : mark ∈ t
  · obtain ⟨after, before, hsplit, hafter⟩ :=
      List.eq_append_cons_of_mem (List.mem_reverse.2 h)
    have ht : t = before.reverse ++ mark :: after.reverse := by
      rw [← List.reverse_reverse t, hsplit]
      simp
    have hlast : mark ∉ after.reverse := fun hmem => hafter (List.mem_reverse.1 hmem)
    exact .inr ⟨_, _, ht ▸ cutAtLast?_append _ hlast, ht, hlast⟩
  · exact .inl ⟨cutAtLast?_eq_none h, h⟩

/-- A text in which none of some characters occurs. -/
def Avoids (marks : List Char) (t : Text) : Prop :=
  ∀ c ∈ t, c.satisfies marks.contains = false

theorem avoids_cutBefore (marks : List Char) (t : Text) :
    Avoids marks (cutBefore marks t).1 := by
  intro c hc
  rw [cutBefore, List.span_eq_takeWhile_dropWhile] at hc
  simpa using List.mem_takeWhile_imp hc

theorem cutBefore_fst_subset (marks : List Char) (t : Text) : (cutBefore marks t).1 ⊆ t := by
  rw [cutBefore, List.span_eq_takeWhile_dropWhile]
  exact (List.takeWhile_prefix _).subset

theorem cutBefore_append (h : Avoids marks before) (rest : Text)
    (hrest : ∀ c ∈ rest.head?, c.satisfies marks.contains = true) :
    cutBefore marks (before ++ rest) = (before, rest) := by
  apply span_append
  · intro c hc
    rw [h c hc]
    rfl
  · intro c hc
    rw [hrest c hc]
    rfl

theorem cutHost_fst_subset (t : Text) : (cutHost t).1 ⊆ t := by
  unfold cutHost
  split
  · rename_i inner rest _ hcut
    rcases cutAtLast?_cases (.char ']') t with ⟨hnone, -⟩ | ⟨before, after, hsome, rfl, -⟩
    · rw [hnone] at hcut
      cases hcut
    · rw [hsome] at hcut
      obtain ⟨rfl, -⟩ := Prod.mk.inj (Option.some.inj hcut)
      intro c hc
      rcases List.mem_append.1 hc with hc | hc
      · exact List.mem_append_left _ hc
      · obtain rfl := List.mem_singleton.1 hc
        exact List.mem_append_right _ List.mem_cons_self
  · exact cutBefore_fst_subset _ t

/-- The host of an authority stands behind the last at sign. -/
theorem cutAuthority_host {t userinfo host port : Text}
    (h : cutAuthority t = (userinfo, host, port)) : host ⊆ t ∧ .char '@' ∉ host := by
  unfold cutAuthority at h
  rcases cutAtLast?_cases (.char '@') t with ⟨hcut, hat⟩ | ⟨before, after, hcut, rfl, hat⟩
  · rw [hcut] at h
    obtain rfl : (cutHost t).1 = host := (Prod.mk.inj (Prod.mk.inj h).2).1
    exact ⟨cutHost_fst_subset t, fun hmem => hat (cutHost_fst_subset t hmem)⟩
  · rw [hcut] at h
    obtain rfl : (cutHost after).1 = host := (Prod.mk.inj (Prod.mk.inj h).2).1
    have hsubset := cutHost_fst_subset after
    exact ⟨fun c hc => List.mem_append_right _ (List.mem_cons_of_mem _ (hsubset hc)),
      fun hmem => hat (hsubset hmem)⟩

/-! ## 2. Parts -/

/-- A scheme, or none: the first of its characters is a letter. -/
structure IsScheme (scheme : Text) : Prop where
  chars : ∀ c ∈ scheme, isSchemeChar c = true
  head : scheme.head?.all (·.satisfies Char.isAlpha) = true

theorem isScheme_nil : IsScheme [] :=
  ⟨nofun, rfl⟩

theorem isScheme_cutScheme (t : Text) : IsScheme (cutScheme t).1 := by
  unfold cutScheme
  split
  · rename_i scheme rest hspan
    split
    · rename_i hhead
      refine ⟨fun c hc => ?_, hhead⟩
      rw [List.span_eq_takeWhile_dropWhile] at hspan
      rw [← (Prod.mk.inj hspan).1] at hc
      exact List.mem_takeWhile_imp hc
    · exact isScheme_nil
  · exact isScheme_nil

theorem cutScheme_append {scheme : Text} (h : IsScheme scheme) (rest : Text) :
    cutScheme (scheme ++ .char ':' :: rest) = (scheme, rest) := by
  have hcolon : ∀ c ∈ (.char ':' :: rest : Text).head?, isSchemeChar c = false := by
    intro c hc
    obtain rfl := Option.some.inj hc
    decide
  have hspan := span_append h.chars hcolon
  rw [cutScheme, hspan]
  exact if_pos h.head

theorem cutScheme_snd_subset (t : Text) : (cutScheme t).2 ⊆ t := by
  unfold cutScheme
  split
  · rename_i scheme rest hspan
    split
    · rw [List.span_eq_takeWhile_dropWhile] at hspan
      have hdrop := (List.dropWhile_suffix (l := t) isSchemeChar).subset
      rw [(Prod.mk.inj hspan).2] at hdrop
      exact fun c hc => hdrop (List.mem_cons_of_mem _ hc)
    · exact List.Subset.refl t
  · exact List.Subset.refl t

/-- Parts as they are cut from a text without controls. -/
structure Parts.AreCut (parts : Parts) : Prop where
  scheme : IsScheme parts.scheme
  authority : Avoids ['/', '?', '#'] parts.authority
  controls : ∀ c ∈ parts.authority, isControl c = false

theorem Parts.areCut_ofText {t : Text} (h : ∀ c ∈ t, isControl c = false) :
    (Parts.ofText t).AreCut := by
  have hscheme := isScheme_cutScheme t
  have hsubset := cutScheme_snd_subset t
  unfold Parts.ofText
  generalize cutScheme t = cut at hscheme hsubset
  obtain ⟨scheme, rest⟩ := cut
  dsimp only at hsubset ⊢
  split
  · rename_i rest
    refine ⟨hscheme, avoids_cutBefore _ rest, fun c hc => h c (hsubset ?_)⟩
    exact List.mem_cons_of_mem _ (List.mem_cons_of_mem _ (cutBefore_fst_subset _ rest hc))
  · exact ⟨hscheme, nofun, nofun⟩

/-! ## 3. Putting together -/

variable {url : Url}

/-- A URL with a server, whose parts do not hold the marks that end them. -/
structure IsLegible (url : Url) : Prop where
  isScheme : IsScheme url.scheme
  scheme_ne_nil : url.scheme ≠ []
  authority : Avoids ['/', '?', '#'] url.authority
  authority_ne_nil : url.authority ≠ []
  path_head : ∀ c ∈ url.path.head?, c = .char '/'
  path : Avoids ['?', '#'] url.path
  query : ∀ query ∈ url.query, Avoids ['#'] query

theorem IsLegible.toText_eq (h : url.IsLegible) :
    url.toText = url.scheme ++ .char ':' :: .char '/' :: .char '/' :: (url.authority ++
      (url.path ++ (marked '?' url.query ++ marked '#' url.fragment))) := by
  have hscheme : ¬ url.scheme.isEmpty = true :=
    fun hnil => h.scheme_ne_nil (List.isEmpty_iff.1 hnil)
  have hauthority : ¬ url.authority.isEmpty = true :=
    fun hnil => h.authority_ne_nil (List.isEmpty_iff.1 hnil)
  rw [toText, if_neg hscheme, if_neg hauthority]
  simp only [List.append_assoc, List.cons_append, List.nil_append]

theorem head?_marked {mark : Char} {part : Option Text} {c : CodePoint}
    (h : c ∈ (marked mark part).head?) : c = .char mark := by
  cases part with
  | none => cases h
  | some t => exact (Option.some.inj h).symm

theorem head?_append_marked {t : Text} {mark : Char} {part : Option Text} {c : CodePoint}
    (h : c ∈ (t ++ marked mark part).head?) : c ∈ t.head? ∨ c = .char mark := by
  rw [List.head?_append] at h
  rcases Option.or_eq_some_iff.1 h with h | ⟨-, h⟩
  · exact .inl h
  · exact .inr (head?_marked h)

/-- The text of a URL is cut into its parts. -/
theorem ofText_toText (h : url.IsLegible) : Parts.ofText url.toText = url.parts := by
  have hmarks : ∀ c ∈ (marked '?' url.query ++ marked '#' url.fragment).head?,
      c = .char '?' ∨ c = .char '#' :=
    fun c hc => (head?_append_marked hc).imp head?_marked id
  have hauthority := cutBefore_append h.authority (url.path ++
      (marked '?' url.query ++ marked '#' url.fragment)) fun c hc => by
    rw [← List.append_assoc] at hc
    rcases head?_append_marked hc with hc | rfl
    · rcases head?_append_marked hc with hc | rfl
      · obtain rfl := h.path_head c hc
        decide
      · decide
    · decide
  have hpath := cutBefore_append h.path (marked '?' url.query ++ marked '#' url.fragment)
    fun c hc => by
      rcases hmarks c hc with rfl | rfl
      · decide
      · decide
  have hfragment : ∀ c ∈ (marked '#' url.fragment).head?, c.satisfies ['#'].contains = true := by
    intro c hc
    obtain rfl := head?_marked hc
    decide
  -- What stands behind the path is told apart by the marks that are there.
  simp only [Parts.ofText, h.toText_eq, cutScheme_append h.isScheme, hauthority, hpath, parts]
  cases hquery : url.query with
  | none => cases url.fragment <;> rfl
  | some query =>
    have hcut := cutBefore_append (h.query query hquery) _ hfragment
    have hmarked : marked '?' (some query) ++ marked '#' url.fragment =
        .char '?' :: (query ++ marked '#' url.fragment) := rfl
    simp only [hmarked, hcut]
    cases url.fragment <;> rfl

/-- The text of a port. -/
def portText (port : Option Int) : Text :=
  (port.map Integer.toText).getD []

/-- The port and its mark hold no characters but digits, a sign and the mark. -/
theorem not_mem_marked_port {port : Option Int} {c : Char} (hcolon : c ≠ ':') (hsign : c ≠ '-')
    (hdigit : c.isDigit = false) : .char c ∉ marked ':' (port.map Integer.toText) := by
  intro hmem
  cases port with
  | none => cases hmem
  | some n =>
    rcases List.mem_cons.1 hmem with heq | hmem
    · exact hcolon (CodePoint.char.inj heq)
    · rcases Numeral.char_of_mem_toText hmem with heq | ⟨d, heq, hd⟩
      · exact hsign (CodePoint.char.inj heq)
      · obtain rfl := CodePoint.char.inj heq
        rw [hdigit] at hd
        cases hd

/-- A host in brackets is cut off at its last bracket, any other one before the port. -/
theorem cutHost_server
    (h : .char ':' ∈ url.host ∨ .char ':' ∉ url.host ∧ url.host.head? ≠ some (.char '[')) :
    cutHost url.server = (url.bracketedHost, marked ':' (url.port.map Integer.toText)) := by
  unfold server bracketedHost
  rcases h with hcolon | ⟨hcolon, hhead⟩
  · -- In brackets the last bracket ends the host, since none is in the port.
    have hport : .char ']' ∉ marked ':' (url.port.map Integer.toText) :=
      not_mem_marked_port (by decide) (by decide) (by decide)
    have hcut := cutAtLast?_append (.char '[' :: url.host) hport
    rw [if_pos (List.contains_iff_mem.2 hcolon)]
    have hserver :
        (.char '[' :: url.host ++ [.char ']']) ++ marked ':' (url.port.map Integer.toText) =
        (.char '[' :: url.host) ++ .char ']' :: marked ':' (url.port.map Integer.toText) := by simp
    rw [hserver, cutHost, hcut]
    rfl
  · -- Without a colon in the host the first colon begins the port.
    have havoids : Avoids [':'] url.host := by
      intro c hc
      cases c with
      | surrogate s => rfl
      | char d =>
        have hd : d ≠ ':' := fun heq => hcolon (heq ▸ hc)
        simpa [CodePoint.satisfies] using hd
    have hcut := cutBefore_append havoids (marked ':' (url.port.map Integer.toText))
      fun c hc => by
        obtain rfl := head?_marked hc
        decide
    rw [if_neg fun hmem => hcolon (List.contains_iff_mem.1 hmem), cutHost]
    split
    · rename_i hbracket _
      rcases head?_append_marked hbracket with hbracket | heq
      · exact absurd hbracket hhead
      · exact absurd heq (by decide)
    · exact hcut

/-- An authority is cut into the user information, the host and the port. -/
theorem cutAuthority_authority (hat : .char '@' ∉ url.host)
    (h : .char ':' ∈ url.host ∨ .char ':' ∉ url.host ∧ url.host.head? ≠ some (.char '[')) :
    cutAuthority url.authority = (url.userinfo, url.bracketedHost, portText url.port) := by
  have hserver : .char '@' ∉ url.server := by
    have hport : .char '@' ∉ marked ':' (url.port.map Integer.toText) :=
      not_mem_marked_port (by decide) (by decide) (by decide)
    unfold server bracketedHost
    split
    · simp [hat, hport]
    · simp [hat, hport]
  have huserinfo : (cutAtLast? '@' url.authority).getD ([], url.authority) =
      (url.userinfo, url.server) := by
    unfold authority
    split
    next hempty => rw [cutAtLast?_eq_none hserver, List.isEmpty_iff.1 hempty, Option.getD_none]
    next => rw [cutAtLast?_append _ hserver, Option.getD_some]
  rw [cutAuthority, huserinfo]
  dsimp only
  rw [cutHost_server h, portText]
  cases url.port <;> rfl

end Url

end LogShipper
