import LogShipper.Proofs.Client.Logging
import LogShipper.Proofs.Url.NormalForm

/-!
# Where requests go

The URL of an endpoint is checked when a client is made, and it is read again from its text for
every request.  What is read again is what was checked: only a port that is the scheme's own is
gone, and the escapes in the host are in lower case.  So whatever a client is asked to do, its
requests go to a secure server.
-/

namespace LogShipper

/-! ## 1. Endpoints -/

namespace Endpoint

variable {t s : Text} {first again : Url} {shown : Text}

theorem isPlainPath_path : Url.IsPlainPath path where
  start := rfl
  dots := by decide
  safe := by decide

theorem ofText_eq_ok_iff :
    ofText t = .ok s ↔ ∃ first shown again, Url.parse t = .ok first ∧ first.scheme ≠ [] ∧
      shownHost first = .ok shown ∧ shown ≠ [] ∧ isSecure first.scheme shown = true ∧
      first.withPath path = .ok again ∧ again.toText = s := by
  unfold ofText
  constructor
  · -- One check after the other, in the order in which they are made.
    intro h
    split at h
    · cases h
    · cases h
    · rename_i first hparse
      split at h
      · cases h
      · rename_i hscheme
        obtain ⟨shown, hshown, h⟩ := bind_eq_ok_iff.1 h
        obtain ⟨hnonempty, h⟩ := guard_bind_eq_ok_iff.1 h
        obtain ⟨hsecure, h⟩ := guard_bind_eq_ok_iff.1 h
        split at h
        · rename_i again hagain
          refine ⟨first, shown, again, hparse, ?_, hshown, ?_, ?_, hagain, Except.ok.inj h⟩
          · exact fun hnil => hscheme (List.isEmpty_iff.2 hnil)
          · exact fun hnil => hnonempty (List.isEmpty_iff.2 hnil)
          · simpa using hsecure
        · cases h
  · rintro ⟨first, shown, again, hparse, hscheme, hshown, hnonempty, hsecure, hagain, rfl⟩
    have hscheme : ¬ first.scheme.isEmpty = true := fun hnil => hscheme (List.isEmpty_iff.1 hnil)
    have hnonempty : ¬ shown.isEmpty = true := fun hnil => hnonempty (List.isEmpty_iff.1 hnil)
    rw [hparse]
    dsimp only
    rw [if_neg hscheme, hshown, ok_bind, if_neg hnonempty, if_neg (by simp [hsecure]), hagain]
    rfl

/-- A host is shown as it is, or it is a name without escapes that is not this machine's. -/
theorem shownHost_cases (hhost : Url.IsHost first.host) (h : shownHost first = .ok shown) :
    Text.startsWith Url.Domain.asciiLead first.host = false ∧ shown = first.host ∨
      Text.startsWith Url.Domain.asciiLead first.host = true ∧ .char '%' ∉ first.host ∧
        shown ≠ localHost := by
  unfold shownHost at h
  split at h
  · rename_i hlead
    split at h
    · rename_i name hname
      obtain rfl := Except.ok.inj h
      refine .inr ⟨hlead, Url.Domain.not_mem_of_toUnicode hname (by decide) (by decide) (by decide),
        ?_⟩
      cases hhost with
      | groups address avoids no_at controls =>
        -- No label holds a colon.
        exact absurd (Url.colon_mem_of_isEightGroups address)
          (Url.Domain.not_mem_of_toUnicode hname (by decide) (by decide) (by decide))
      | name safe escapes =>
        obtain ⟨c, hc, hpast⟩ :=
          Url.Domain.exists_toUnicode (Url.isAscii_of_isSafe safe) hlead hname
        rintro rfl
        have hlocal : ∀ c ∈ localHost, c.isAscii = true := by decide
        rw [hlocal c hc] at hpast
        cases hpast
    · cases h
  · rename_i hlead
    exact .inl ⟨Bool.eq_false_iff.2 hlead, (Except.ok.inj h).symm⟩

theorem isSecure_iff {scheme host : Text} :
    isSecure scheme host = true ↔ host = localHost ∨ scheme = Text.ofString "https" := by
  rw [isSecure, Bool.or_eq_true, decide_eq_true_eq, decide_eq_true_eq]

/-- A host that may lose capitals in escapes is shown as well, and is as secure as before. -/
theorem shownHost_again (hhost : Url.IsHost first.host)
    (hescapes : Url.LowersEscapes first.host again.host) (hshown : shownHost first = .ok shown)
    (hnonempty : shown ≠ []) (hsecure : isSecure first.scheme shown = true) :
    again.host ≠ [] ∧ (first.scheme = Text.ofString "https" ∨ again.host = localHost) ∧
      ∃ shown, shownHost again = .ok shown ∧ shown ≠ [] ∧ isSecure first.scheme shown = true := by
  have hlead : Text.startsWith Url.Domain.asciiLead first.host =
      Text.startsWith Url.Domain.asciiLead again.host := hescapes.startsWith_eq (by decide)
  rcases shownHost_cases hhost hshown with ⟨hplain, rfl⟩ | ⟨hdecoded, hescaped, hlocal⟩
  · have hagain : shownHost again = .ok again.host := by
      rw [shownHost, ← hlead, hplain]
      rfl
    have hlocal : first.host = localHost → again.host = localHost := fun heq =>
      (hescapes.eq_of_not_mem (heq ▸ by decide)).trans heq
    refine ⟨hescapes.ne_nil hnonempty, ?_, again.host, hagain, hescapes.ne_nil hnonempty, ?_⟩
    · exact (isSecure_iff.1 hsecure).symm.imp_right hlocal
    · exact isSecure_iff.2 ((isSecure_iff.1 hsecure).imp_left hlocal)
  · have hsame : again.host = first.host := hescapes.eq_of_not_mem hescaped
    have hhttps := (isSecure_iff.1 hsecure).resolve_left hlocal
    refine ⟨?_, .inl hhttps, shown, ?_, hnonempty, hsecure⟩
    · rw [hsame]
      rintro hnil
      rw [hnil] at hdecoded
      cases hdecoded
    · rw [← hshown, shownHost, shownHost, hsame]

/-- What becomes of a URL when the endpoint on its server is read again. -/
structure IsReread (first again : Url) : Prop where
  scheme : again.scheme = first.scheme
  userinfo : again.userinfo = first.userinfo
  host : Url.LowersEscapes first.host again.host
  port : again.port = first.port ∨ again.port = none ∧ first.port = Url.ownPort? first.scheme
  path : again.path = path
  query : again.query = first.query
  fragment : again.fragment = first.fragment
  secure : again.scheme = Text.ofString "https" ∨ again.host = localHost

/-- The endpoint on the server that a text names is read again from its text, if that is not too
long, and is its own endpoint. -/
theorem exists_reread (h : ofText t = .ok s) :
    ∃ first again, Url.parse t = .ok first ∧ IsReread first again ∧ again.toText = s ∧
      (s.length ≤ Url.maxLength → Url.parse s = .ok again ∧ ofText s = .ok s) := by
  obtain ⟨first, shown, again, hparse, hscheme, hshown, hnonempty, hsecure, hagain, rfl⟩ :=
    ofText_eq_ok_iff.1 h
  have hfirst := Url.isNormal_of_parse hparse
  obtain ⟨-, hagain⟩ := Url.withPath_eq_ok_iff.1 hagain
  -- Both URLs are in normal form, and the new one has the parts of the first but for the path.
  obtain ⟨hnormal, hescapes, hparts, hsame⟩ := hfirst.of_ofParts hscheme isPlainPath_path hagain
  have hpath : again.path = path := by rw [hparts]
  have hsameScheme : again.scheme = first.scheme := by rw [hparts]
  have hport : again.port = Url.foreignPort first.scheme first.port := by rw [hparts]
  obtain ⟨hhost, hkept, shownAgain, hshownAgain, hshownNonempty, hsecureAgain⟩ :=
    shownHost_again hfirst.host hescapes hshown hnonempty hsecure
  have hplain : Url.IsPlainPath again.path := hpath ▸ isPlainPath_path
  have hagainScheme : again.scheme ≠ [] := hsameScheme ▸ hscheme
  refine ⟨first, again, hparse, ?_, rfl, fun hlength => ?_⟩
  · exact {
      scheme := hsameScheme
      userinfo := by rw [hparts]
      host := hescapes
      port := by
        rw [hport]
        exact Url.foreignPort_cases _ _
      path := hpath
      query := by rw [hparts]
      fragment := by rw [hparts]
      secure := hsameScheme ▸ hkept }
  · have hread := hnormal.parse_toText hagainScheme hhost hplain hsame hlength
    refine ⟨hread, ofText_eq_ok_iff.2 ⟨again, shownAgain, again, hread, hagainScheme, hshownAgain,
      hshownNonempty, hsameScheme ▸ hsecureAgain, ?_, rfl⟩⟩
    -- The path is replaced by itself, which changes nothing.
    have hparts : ({ again.parts with path := path } : Url.Parts) = again.parts := by
      rw [← hpath]
      rfl
    rw [Url.withPath_eq_ok_iff, hparts]
    exact ⟨Url.oversized?_eq_none (hnormal.isLegible hagainScheme hhost hplain) hlength, hsame⟩

end Endpoint

/-! ## 2. Clients -/

namespace Client

/-- What a client can be asked to do. -/
inductive Call where
  | log (events : List Event)
  | close

def perform (client : Client) (transport : Transport) : Call → Client × Transport
  | .log events =>
    let logged := client.log events transport
    (logged.client, logged.transport)
  | .close => (client.close, transport)

/-- What a client and its transport have become after some calls. -/
def performAll (client : Client) (transport : Transport) (calls : List Call) : Client × Transport :=
  calls.foldl (fun (client, transport) call => client.perform transport call) (client, transport)

variable (client : Client) (transport : Transport)

theorem url_perform (call : Call) : (client.perform transport call).1.url = client.url := by
  cases call with
  | log events =>
    obtain ⟨bytes, hclient⟩ := client.client_log events transport
    rw [perform]
    dsimp only
    rw [hclient]
  | close => rfl

theorem parse_of_target {client : Client} {target : Url} (h : client.target = .ok target) :
    Url.parse client.url = .ok target := by
  unfold Client.target at h
  split at h
  · cases h
  · rename_i url hparse
    split at h
    · cases h
    · rw [hparse, Except.ok.inj h]

/-- A call sends nothing but requests to the URL that is read from the client's. -/
theorem sent_perform (call : Call) :
    ∃ requests, (client.perform transport call).2.sent = transport.sent ++ requests ∧
      ∀ request ∈ requests, ∃ target, Url.parse client.url = .ok target ∧
        request.url = target.toText := by
  cases call with
  | close => exact ⟨[], (List.append_nil _).symm, nofun⟩
  | log events =>
    rcases client.log_sends events transport with ⟨hsilent, -⟩ | ⟨target, htarget, -, hsent, -⟩
    · refine ⟨[], ?_, nofun⟩
      rw [List.append_nil]
      exact congrArg Transport.sent hsilent
    · refine ⟨[client.requestFor target events], congrArg Transport.sent hsent, ?_⟩
      exact List.forall_mem_singleton.2 ⟨target, parse_of_target htarget, rfl⟩

/-- Whatever a client is asked to do, it sends to one URL. -/
theorem sent_performAll (calls : List Call) :
    ∃ requests, (client.performAll transport calls).2.sent = transport.sent ++ requests ∧
      ∀ request ∈ requests, ∃ target, Url.parse client.url = .ok target ∧
        request.url = target.toText := by
  induction calls generalizing client transport with
  | nil => exact ⟨[], (List.append_nil _).symm, nofun⟩
  | cons call calls ih =>
    obtain ⟨first, hfirst, hfirstUrl⟩ := client.sent_perform transport call
    obtain ⟨rest, hrest, hrestUrl⟩ :=
      ih (client.perform transport call).1 (client.perform transport call).2
    rw [url_perform] at hrestUrl
    refine ⟨first ++ rest, ?_, List.forall_mem_append.2 ⟨hfirstUrl, hrestUrl⟩⟩
    rw [← List.append_assoc, ← hfirst]
    exact hrest

theorem url_of_connect {url : Json} {apiKey session : Text} {timeout : Option Number}
    {client : Client} (h : connect url apiKey session timeout = .ok client) :
    Endpoint.ofJson url = .ok client.url := by
  obtain ⟨s, hs, h⟩ := bind_eq_ok_iff.1 h
  obtain rfl := Except.ok.inj h
  exact hs

end Client

/-! ## 3. The endpoint that is checked and the endpoint that is used -/

namespace Endpoint

/-- The endpoint that is checked is the endpoint that is used.  If its text is not too long it is
read again with all that the URL given has, and is its own endpoint; and all that a client sends
goes to it. -/
theorem ofText_is_used {t s : Text} (h : ofText t = .ok s) :
    (s.length ≤ Url.maxLength →
      ∃ first again, Url.parse t = .ok first ∧ Url.parse s = .ok again ∧ IsReread first again ∧
        ofText s = .ok s) ∧
    ∀ apiKey session timeout client,
      Client.connect (.text t) apiKey session timeout = .ok client →
      ∀ (calls : List Client.Call) (transport : Transport), ∃ requests,
        (client.performAll transport calls).2.sent = transport.sent ++ requests ∧
        ∀ request ∈ requests, request.url = s ∧ ∃ again, Url.parse request.url = .ok again ∧
          (again.scheme = Text.ofString "https" ∨ again.host = localHost) := by
  obtain ⟨first, again, hparse, hreread, htext, hread⟩ := exists_reread h
  constructor
  · intro hlength
    obtain ⟨hagain, hsame⟩ := hread hlength
    exact ⟨first, again, hparse, hagain, hreread, hsame⟩
  · intro apiKey session timeout client hclient calls transport
    have hurl : client.url = s := by
      have hconnect := Client.url_of_connect hclient
      rw [ofJson, h] at hconnect
      exact (Except.ok.inj hconnect).symm
    obtain ⟨requests, hsent, hrequests⟩ := client.sent_performAll transport calls
    refine ⟨requests, hsent, fun request hrequest => ?_⟩
    obtain ⟨target, htarget, hrequestUrl⟩ := hrequests request hrequest
    rw [hurl] at htarget
    -- A request is sent only if the text of the endpoint is read, which then is not too long.
    obtain ⟨hagain, -⟩ := hread (Url.length_le_of_parse htarget)
    obtain rfl := Except.ok.inj (htarget.symm.trans hagain)
    rw [hrequestUrl, htext]
    exact ⟨rfl, target, hagain, hreread.secure⟩

def sampleUrl : Text := "HTTPS://me@EXAMPLE.com:443/x?q=1"

def sampleEndpoint : Text := "https://me@example.com/addEvents?q=1"

theorem sample_is_used :
    (∃ first again, Url.parse sampleUrl = .ok first ∧ Url.parse sampleEndpoint = .ok again ∧
      IsReread first again ∧ ofText sampleEndpoint = .ok sampleEndpoint) ∧
    ∃ client, Client.connect (.text sampleUrl) "k" "s" none = .ok client ∧
      ∃ request, (client.performAll {} [.log [], .close, .log []]).2.sent = [request] ∧
        request.url = sampleEndpoint := by
  have hof : ofText sampleUrl = .ok sampleEndpoint := eq_ok_of_toOption (by decide +kernel)
  obtain ⟨hread, hsends⟩ := ofText_is_used hof
  refine ⟨hread (by decide), ?_⟩
  let client : Client := { url := sampleEndpoint, apiKey := "k", session := "s" }
  have hclient : Client.connect (.text sampleUrl) "k" "s" none = .ok client := by
    rw [Client.connect, ofJson, hof]
    rfl
  have hlength : (client.performAll {} [.log [], .close, .log []]).2.sent.length = 1 := by
    decide +kernel
  obtain ⟨requests, hsent, hrequests⟩ := hsends _ _ _ client hclient [.log [], .close, .log []] {}
  obtain ⟨request, hrequest⟩ := List.length_eq_one_iff.1 hlength
  refine ⟨client, hclient, request, hrequest, (hrequests request ?_).1⟩
  rw [hrequest] at hsent
  rw [← List.nil_append requests, ← hsent]
  exact List.mem_singleton_self request

/-- Quoting writes capitals into a host, which are gone when the endpoint is read again. -/
theorem escapes_not_kept :
    ¬ ∀ t s first again, ofText t = .ok s → s.length ≤ Url.maxLength → Url.parse t = .ok first →
      Url.parse s = .ok again → again.host = first.host := by
  intro h
  have hof : ofText "https://a<b" = .ok "https://a%3cb/addEvents" :=
    eq_ok_of_toOption (by decide +kernel)
  have hfirst : Url.parse "https://a<b" = .ok ⟨"https", [], "a%3Cb", none, [], none, none⟩ := by
    decide +kernel
  have hagain : Url.parse "https://a%3cb/addEvents" =
      .ok ⟨"https", [], "a%3cb", none, "/addEvents", none, none⟩ := by
    decide +kernel
  exact absurd (h _ _ _ _ hof (by decide) hfirst hagain) (by decide)

end Endpoint

end LogShipper
