import LogShipper.Proofs.Client.Destination
import LogShipper.Proofs.Run.Delivery
import LogShipper.Proofs.Url.Quoting

/-!
# Whether a run starts

A URL that names no server is a matter of settings, and ends a run with code 2.  There are four
things that are found out only once the URL is taken apart and put together again, which are not
reported in this way: a surrogate where something is quoted, a host that cannot be shown, a part
that has become too long, and a host that has become a numeric address and is none.  A fifth is a
value that is no text and that no report can show.
-/

namespace LogShipper

namespace Endpoint

/-! ## 1. Texts -/

/-- A URL with a server to which events may be sent. -/
structure IsNamed (t : Text) (url : Url) (shown : Text) : Prop where
  parses : Url.parse t = .ok url
  scheme_ne_nil : url.scheme ≠ []
  shows : shownHost url = .ok shown
  shown_ne_nil : shown ≠ []
  secure : isSecure url.scheme shown = true

/-- A URL with a scheme whose host is shown decoded. -/
structure IsEncoded (t : Text) (url : Url) : Prop where
  parses : Url.parse t = .ok url
  scheme_ne_nil : url.scheme ≠ []
  lead : Text.startsWith Url.Domain.asciiLead url.host = true

/-- How the check of a value ends with a fault that is none of the settings. -/
inductive Escapes : Json → EndpointFault → Prop
  | unshowable {given : Json} (long : given.hasOversized = true) : Escapes given (.invalid given)
  | unencodable {t : Text} {s : Fin 2048} (stopped : Url.IsStopped t s) :
      Escapes (.text t) (.malformed (.unencodable ⟨0, s, 1⟩))
  | undecodable {t : Text} {url : Url} {fault : Url.Domain.Fault} (encoded : IsEncoded t url)
      (fails : Url.Domain.toUnicode url.host = .error fault) : Escapes (.text t) (.domain fault)
  | oversized {t : Text} {url : Url} {shown : Text} {component : Url.Component}
      (named : IsNamed t url shown)
      (size : Url.Parts.oversized? { url.parts with path } = some component) :
      Escapes (.text t) (.malformed (.componentTooLong component))
  | numeric {t : Text} {url : Url} {shown : Text} (named : IsNamed t url shown)
      (size : Url.Parts.oversized? { url.parts with path } = none)
      (looks : Url.looksNumeric url.host = true) (octets : Url.isFourOctets url.host = false) :
      Escapes (.text t) (.malformed (.octets url.host))

variable {given : Json} {t : Text} {fault : EndpointFault} {url : Url} {shown : Text}

theorem ofText_of_isNamed (h : IsNamed t url shown) :
    ofText t = match url.withPath path with
      | .ok endpoint => .ok endpoint.toText
      | .error fault => .error (.malformed fault) := by
  have hscheme : ¬ url.scheme.isEmpty = true := fun hnil =>
    h.scheme_ne_nil (List.isEmpty_iff.1 hnil)
  have hshown : ¬ shown.isEmpty = true := fun hnil => h.shown_ne_nil (List.isEmpty_iff.1 hnil)
  rw [ofText, h.parses]
  dsimp only
  rw [if_neg hscheme, h.shows, ok_bind, if_neg hshown, if_neg (by simp [h.secure])]
  rfl

theorem ofJson_of_escapes (h : Escapes given fault) : ofJson given = .error fault := by
  cases h with
  | unshowable long =>
    cases given with
    | text t => cases long
    | _ => rfl
  | unencodable stopped =>
    have hparse := Url.parse_eq_unencodable_iff.2 ⟨_, stopped, rfl⟩
    rw [ofJson, ofText, hparse]
  | @undecodable t url fault encoded fails =>
    have hscheme : ¬ url.scheme.isEmpty = true := fun hnil =>
      encoded.scheme_ne_nil (List.isEmpty_iff.1 hnil)
    have hshown : shownHost url = .error (.domain fault) := by
      rw [shownHost, if_pos encoded.lead, fails]
    rw [ofJson, ofText, encoded.parses]
    dsimp only
    rw [if_neg hscheme, hshown]
    rfl
  | oversized named size =>
    have hpath := ((Url.isNormal_of_parse named.parses).withPath_eq_error_iff named.scheme_ne_nil
      isPlainPath_path).2 (.inl ⟨_, size, rfl⟩)
    rw [ofJson, ofText_of_isNamed named, hpath]
  | numeric named size looks octets =>
    have hpath := ((Url.isNormal_of_parse named.parses).withPath_eq_error_iff named.scheme_ne_nil
      isPlainPath_path).2 (.inr ⟨size, looks, octets, rfl⟩)
    rw [ofJson, ofText_of_isNamed named, hpath]

theorem isSettings_of_escapes (h : Escapes given fault) : fault.isSettings = false := by
  cases h with
  | unshowable long => rw [EndpointFault.isSettings, long, Bool.not_true]
  | _ => rfl

/-- What the host is shown as, or why it is not. -/
theorem escapes_of_shownHost (hparse : Url.parse t = .ok url) (hscheme : url.scheme ≠ [])
    (h : shownHost url = .error fault) : Escapes (.text t) fault := by
  unfold shownHost at h
  split at h
  · rename_i hlead
    split at h
    · cases h
    · rename_i fault hfails
      obtain rfl := Except.error.inj h
      exact .undecodable ⟨hparse, hscheme, hlead⟩ hfails
  · cases h

theorem escapes_of_withPath {cause : Url.Fault} (h : IsNamed t url shown)
    (hpath : url.withPath path = .error cause) : Escapes (.text t) (.malformed cause) := by
  rcases ((Url.isNormal_of_parse h.parses).withPath_eq_error_iff h.scheme_ne_nil
    isPlainPath_path).1 hpath with ⟨component, size, rfl⟩ | ⟨size, looks, octets, rfl⟩
  · exact .oversized h size
  · exact .numeric h size looks octets

/-- A text gives an endpoint, is refused, or escapes the check. -/
theorem ofText_cases (t : Text) :
    (∃ s, ofText t = .ok s) ∨ ofText t = .error (.invalid (.text t)) ∨
      ofText t = .error (.insecure t) ∨
      ∃ fault, Escapes (.text t) fault ∧ ofText t = .error fault := by
  have hescapes {fault : EndpointFault} (h : Escapes (.text t) fault) :
      ∃ fault, Escapes (.text t) fault ∧ ofText t = .error fault :=
    ⟨fault, h, ofJson_of_escapes h⟩
  -- The cases come in the order of the checks: the whole, scheme, host, security, the new path.
  cases hparse : Url.parse t with
  | error cause =>
    cases cause with
    | unencodable fault =>
      obtain ⟨s, hstopped, rfl⟩ := Url.parse_eq_unencodable_iff.1 hparse
      exact .inr (.inr (.inr (hescapes (.unencodable hstopped))))
    | _ => exact .inr (.inl (by rw [ofText, hparse]))
  | ok url =>
    by_cases hscheme : url.scheme = []
    · exact .inr (.inl (by simp [ofText, hparse, hscheme]))
    have hschemed : ¬ url.scheme.isEmpty = true := fun hnil => hscheme (List.isEmpty_iff.1 hnil)
    cases hshown : shownHost url with
    | error fault =>
      exact .inr (.inr (.inr (hescapes (escapes_of_shownHost hparse hscheme hshown))))
    | ok shown =>
      by_cases hempty : shown = []
      · right
        left
        rw [ofText, hparse]
        dsimp only
        rw [if_neg hschemed, hshown, ok_bind, hempty]
        rfl
      by_cases hsecure : isSecure url.scheme shown = true
      · have hnamed : IsNamed t url shown := ⟨hparse, hscheme, hshown, hempty, hsecure⟩
        cases hpath : url.withPath path with
        | ok endpoint => exact .inl ⟨_, by rw [ofText_of_isNamed hnamed, hpath]⟩
        | error cause => exact .inr (.inr (.inr (hescapes (escapes_of_withPath hnamed hpath))))
      · have hnonempty : ¬ shown.isEmpty = true := fun hnil => hempty (List.isEmpty_iff.1 hnil)
        right
        right
        left
        rw [ofText, hparse]
        dsimp only
        rw [if_neg hschemed, hshown, ok_bind, if_neg hnonempty, if_pos (by simp [hsecure])]
        rfl

/-- A value gives an endpoint, is refused and shown, is a text that is not secure, or escapes the
check. -/
theorem ofJson_cases (given : Json) :
    (∃ t s, given = .text t ∧ ofJson given = .ok s) ∨
      given.hasOversized = false ∧ ofJson given = .error (.invalid given) ∨
      (∃ t, given = .text t ∧ ofJson given = .error (.insecure t)) ∨
      ∃ fault, Escapes given fault ∧ ofJson given = .error fault := by
  cases hlong : given.hasOversized with
  | true =>
    have hescapes := Escapes.unshowable hlong
    exact .inr (.inr (.inr ⟨_, hescapes, ofJson_of_escapes hescapes⟩))
  | false =>
    cases given with
    | text t =>
      rcases ofText_cases t with ⟨s, hs⟩ | hinvalid | hinsecure | hescapes
      · exact .inl ⟨t, s, rfl, hs⟩
      · exact .inr (.inl ⟨rfl, hinvalid⟩)
      · exact .inr (.inr (.inl ⟨t, rfl, hinsecure⟩))
      · exact .inr (.inr (.inr hescapes))
    | _ => exact .inr (.inl ⟨rfl, rfl⟩)

theorem escapes_iff :
    Escapes given fault ↔ ofJson given = .error fault ∧ fault.isSettings = false := by
  constructor
  · exact fun h => ⟨ofJson_of_escapes h, isSettings_of_escapes h⟩
  · rintro ⟨h, hsettings⟩
    rcases ofJson_cases given with
      ⟨t, s, -, hs⟩ | ⟨hshort, hinvalid⟩ | ⟨t, -, hinsecure⟩ | ⟨cause, hescapes, hcause⟩
    · rw [hs] at h
      cases h
    · obtain rfl := Except.error.inj (hinvalid.symm.trans h)
      rw [EndpointFault.isSettings, hshort] at hsettings
      cases hsettings
    · obtain rfl := Except.error.inj (hinsecure.symm.trans h)
      cases hsettings
    · obtain rfl := Except.error.inj (hcause.symm.trans h)
      exact hescapes

end Endpoint

/-! ## 2. Shippers and runs -/

/-- A shipper that was never started nor stopped starts, or stays as it is with the fault of its
endpoint. -/
theorem Shipper.start_of_fresh {shipper : Shipper} (hclient : shipper.client = none)
    (hstopped : shipper.isStopped = false) (services : Services) :
    (∃ url, Endpoint.ofJson shipper.config.url = .ok url ∧
      (shipper.start services).result = .ok ()) ∨
    ∃ fault, Endpoint.ofJson shipper.config.url = .error fault ∧
      shipper.start services = ⟨.error (.endpoint fault), shipper, services⟩ := by
  have hstart := start_cases shipper services
  generalize shipper.start services = step at hstart ⊢
  cases hstart with
  | refused hbefore =>
    rw [hclient, hstopped] at hbefore
    rcases hbefore with h | h <;> cases h
  | failed _ _ hurl => exact .inr ⟨_, hurl, rfl⟩
  | started _ _ hurl => exact .inl ⟨_, hurl, rfl⟩

namespace Run

variable {situation : Situation} {config : Config} {fault : EndpointFault}

/-- A run that has loaded its settings. -/
def Loads (situation : Situation) (config : Config) : Prop :=
  ∃ arguments, Arguments.read situation.words = .ok arguments ∧
    (Config.load arguments situation.environment situation.openFile).result = .ok config

theorem withConfig_of_unstartable (h : Endpoint.ofJson config.url = .error fault)
    (situation : Situation) (services : Services) :
    withConfig config situation services =
      let begun := { services with clock := services.clock.read.2 }
      if fault.isSettings then (.exit 2, begun.report (.shipperUnstartable fault.message))
      else (.broken (.shipper (.endpoint fault)), begun) := by
  have hstart : (Shipper.create config services).1.start (Shipper.create config services).2 =
      ⟨.error (.endpoint fault), (Shipper.create config services).1,
        { services with clock := services.clock.read.2 }⟩ := by
    have hfresh : (Shipper.create config services).1.client = none := rfl
    rcases Shipper.start_of_fresh hfresh rfl (Shipper.create config services).2 with
      ⟨url, hurl, -⟩ | ⟨cause, hcause, hstart⟩
    · exact absurd (h.symm.trans hurl) nofun
    · obtain rfl := Except.error.inj (h.symm.trans hcause)
      exact hstart
  rw [withConfig]
  dsimp only
  rw [hstart]
  rfl

/-- A run whose shipper does not start sends nothing.  It ends with code 2 and a report if the URL
is refused, and breaks off otherwise. -/
theorem run_of_unstartable (hloads : Loads situation config)
    (hurl : Endpoint.ofJson config.url = .error fault) (services : Services) :
    (run situation services).1 =
        (if fault.isSettings then .exit 2 else .broken (.shipper (.endpoint fault))) ∧
      (run situation services).2.transport = services.transport ∧
      (fault.isSettings = true → .shipperUnstartable fault.message ∈
        (run situation services).2.notices) := by
  obtain ⟨arguments, harguments, hload⟩ := hloads
  rw [run, harguments]
  dsimp only
  rw [hload, Services.foldl_report]
  dsimp only
  rw [withConfig_of_unstartable hurl]
  dsimp only
  by_cases hsettings : fault.isSettings = true
  · rw [if_pos hsettings, if_pos hsettings]
    exact ⟨rfl, rfl, fun _ => List.mem_append_right _ (List.mem_singleton_self _)⟩
  · rw [if_neg hsettings, if_neg hsettings]
    exact ⟨rfl, rfl, fun h => absurd h hsettings⟩

/-- Whatever the URL is, it is a text that gives an endpoint, is refused as a setting, or escapes
the check in one of five ways, and each of these does.  A shipper starts with the endpoint or fails
with the fault and stays as it is, and a run that does not start sends nothing and ends with code 2
if and only if the URL is refused. -/
theorem starts_or_is_refused (given : Json) :
    ((∃ t s, given = .text t ∧ Endpoint.ofJson given = .ok s) ∨
      given.hasOversized = false ∧ Endpoint.ofJson given = .error (.invalid given) ∨
      (∃ t, given = .text t ∧ Endpoint.ofJson given = .error (.insecure t)) ∨
      ∃ fault, Endpoint.Escapes given fault ∧ Endpoint.ofJson given = .error fault) ∧
    (∀ fault : EndpointFault, Endpoint.Escapes given fault ↔
      Endpoint.ofJson given = .error fault ∧ fault.isSettings = false) ∧
    (∀ (shipper : Shipper) (services : Services), shipper.config.url = given →
      shipper.client = none → shipper.isStopped = false →
      (∃ url, Endpoint.ofJson given = .ok url ∧ (shipper.start services).result = .ok ()) ∨
      ∃ fault, Endpoint.ofJson given = .error fault ∧
        shipper.start services = ⟨.error (.endpoint fault), shipper, services⟩) ∧
    ∀ (situation : Situation) (config : Config) (fault : EndpointFault) (services : Services),
      Loads situation config → config.url = given → Endpoint.ofJson given = .error fault →
      (run situation services).1 =
          (if fault.isSettings then .exit 2 else .broken (.shipper (.endpoint fault))) ∧
        (run situation services).2.transport = services.transport ∧
        (fault.isSettings = true → .shipperUnstartable fault.message ∈
          (run situation services).2.notices) := by
  refine ⟨Endpoint.ofJson_cases given, fun fault => Endpoint.escapes_iff, ?_, ?_⟩
  · rintro shipper services rfl hclient hstopped
    exact Shipper.start_of_fresh hclient hstopped services
  · rintro situation config fault services hloads rfl hurl
    exact run_of_unstartable hloads hurl services

theorem loads_sample (given : Text) : Loads (sampleSituation given) (sampleConfig given) :=
  ⟨{}, rfl, rfl⟩

/-- A name that is marked as encoded and holds nothing, a surrogate in a path, a number that cannot
be shown, no URL at all, and one that is not secure. -/
theorem sample_unstartable :
    Endpoint.Escapes (.text "https://xn--") (.domain .nothingEncoded) ∧
      Endpoint.Escapes (.text ("https://h/".toList.map .char ++ [.surrogate 0]))
        (.malformed (.unencodable ⟨0, 0, 1⟩)) ∧
      Endpoint.Escapes (.int (10 ^ 4300)) (.invalid (.int (10 ^ 4300))) ∧
      Endpoint.ofJson .null = .error (.invalid .null) ∧
      (run (sampleSituation "https://xn--") sampleServices).1 =
        .broken (.shipper (.endpoint (.domain .nothingEncoded))) ∧
      (run (sampleSituation "http://a.b") sampleServices).1 = .exit 2 := by
  have hnamed : Endpoint.IsEncoded "https://xn--" ⟨"https", [], "xn--", none, [], none, none⟩ :=
    ⟨by decide +kernel, by decide, by decide⟩
  have hencoded : Endpoint.Escapes (.text "https://xn--") (.domain .nothingEncoded) :=
    .undecodable hnamed (by decide +kernel)
  have hsurrogate : Endpoint.ofText ("https://h/".toList.map .char ++ [.surrogate 0]) =
      .error (.malformed (.unencodable ⟨0, 0, 1⟩)) := by
    have hparse : Url.parse ("https://h/".toList.map .char ++ [.surrogate 0]) =
        .error (.unencodable ⟨0, 0, 1⟩) := by decide +kernel
    rw [Endpoint.ofText, hparse]
  have hlong : (Json.int (10 ^ 4300)).hasOversized = true := by decide +kernel
  have hinsecure : Endpoint.ofText "http://a.b" = .error (.insecure "http://a.b") := by
    have hparse : Url.parse "http://a.b" = .ok ⟨"http", [], "a.b", none, [], none, none⟩ := by
      decide +kernel
    rw [Endpoint.ofText, hparse]
    rfl
  obtain ⟨-, hescapes, -, hruns⟩ := starts_or_is_refused (.text "https://xn--")
  obtain ⟨hfault, -⟩ := (hescapes _).1 hencoded
  obtain ⟨-, hescapes', -⟩ :=
    starts_or_is_refused (.text ("https://h/".toList.map .char ++ [.surrogate 0]))
  obtain ⟨-, -, -, hruns'⟩ := starts_or_is_refused (.text "http://a.b")
  have hloaded := loads_sample "https://xn--"
  have hloaded' := loads_sample "http://a.b"
  refine ⟨hencoded, (hescapes' _).2 ⟨hsurrogate, rfl⟩, .unshowable hlong, rfl, ?_, ?_⟩
  · exact (hruns _ _ _ sampleServices hloaded rfl hfault).1
  · exact (hruns' _ _ _ sampleServices hloaded' rfl hinsecure).1

end Run

end LogShipper
