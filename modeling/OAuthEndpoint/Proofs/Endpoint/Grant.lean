import OAuthEndpoint.Proofs.CodeGrant
import OAuthEndpoint.Proofs.Endpoint.Failures

/-! When the endpoint of the code grant grants, and what it grants.  A grant is told from any other
reply by the end of the location's query, since no error ends so (`grants_iff`). -/

namespace OAuthEndpoint

/-- A value that is not empty is that of the first pair of its name. -/
theorem Parameters.find?_of_get_ne {params : Parameters} {name : String}
    (h : params.get name ≠ "") :
    params.pairs.find? (·.1 == name) = some (name, params.get name) := by
  rw [get] at h ⊢
  cases hfind : params.pairs.find? (·.1 == name) with
  | none =>
    rw [hfind] at h
    exact absurd rfl h
  | some pair =>
    have hname : pair.1 = name := by simpa using List.find?_some hfind
    rw [← hname]
    rfl

/-- `code` stands between blanks in the first response type parameter. -/
def Parameters.AskForCode (params : Parameters) : Prop :=
  Text.IsPiece (· == ' ') "code".toList (params.get "response_type").toList

namespace AuthorizationService

variable {service : AuthorizationService} {inbound : InboundRequest} {params : Parameters}
  {accepted : AuthorizationRequest}

theorem accepted_eq (hform : inbound.parameters = .ok params)
    (hbuild : (service.build inbound).value = .ok accepted) :
    ∃ client url, service.Verified inbound params client url ∧
      service.AcceptsState (params.get "state") ∧ accepted = request params client url := by
  obtain ⟨params', client, url, hverified, hstate, haccepted⟩ := build_eq_ok_iff.mp hbuild
  obtain rfl := hverified.params_eq hform
  exact ⟨client, url, hverified, hstate, haccepted⟩

theorem mem_responseTypes_iff (hform : inbound.parameters = .ok params)
    (hbuild : (service.build inbound).value = .ok accepted) :
    "code" ∈ accepted.responseTypes ↔ params.AskForCode := by
  obtain ⟨client, url, -, -, rfl⟩ := accepted_eq hform hbuild
  have hparse : (request params client url).responseTypes =
      .parse (params.get "response_type") := rfl
  rw [hparse, TokenSet.mem_parse_iff, Parameters.AskForCode]
  exact and_iff_right (by decide)

theorem find?_state (hform : inbound.parameters = .ok params)
    (hbuild : (service.build inbound).value = .ok accepted) :
    params.pairs.find? (·.1 == "state") = some ("state", accepted.state) := by
  obtain ⟨client, url, -, hstate, rfl⟩ := accepted_eq hform hbuild
  exact Parameters.find?_of_get_ne hstate.1

end AuthorizationService

/-- A redirect whose query ends with a code and a state. -/
def Reply.Grants (reply : Reply) (code state : String) : Prop :=
  ∃ location headers before, reply = .redirect location headers ∧
    location.queryPairs = before ++ [("code", code), ("state", state)]

theorem Reply.not_grants_failure (target : Option Url) (error : AuthError) (code state : String) :
    ¬(failure target error).Grants code state := by
  rintro ⟨location, headers, before, hreply, hpairs⟩
  cases target with
  | none => cases hreply
  | some url =>
    rw [failure, Reply.redirect.injEq] at hreply
    rw [← hreply.1, Url.queryPairs_appendPairs] at hpairs
    have hlast : error.wire.pairs = [("code", code), ("state", state)] :=
      List.append_inj_right' hpairs rfl
    rw [WireError.pairs, List.cons.injEq, Prod.mk.injEq] at hlast
    exact absurd hlast.1.1 (by decide)

namespace Endpoint

variable {Session : Type} {service : AuthorizationService} {issuer : CodeGrant.Issuer}
  {inbound : InboundRequest} {session : Session} {accepted : AuthorizationRequest} {code : String}

/-- The endpoint of the code grant alone. -/
def granting (Session : Type) (service : AuthorizationService) (issuer : CodeGrant.Issuer) :
    Endpoint Session := ⟨service, CodeGrant.chain Session issuer⟩

theorem value_handle_of_issued (hbuild : (service.build inbound).value = .ok accepted)
    (hcode : "code" ∈ accepted.responseTypes) (hissued : issuer accepted = .ok code) :
    ((granting Session service issuer).handle inbound session).value =
      .redirect (accepted.redirectUri.appendPairs [("code", code), ("state", accepted.state)])
        .empty := by
  have hservice : ((granting Session service issuer).service.build inbound).value =
      .ok accepted := hbuild
  have hdispatch : ((granting Session service issuer).chain.dispatch accepted inbound
      session).value = .ok ⟨[("code", code), ("state", accepted.state)], .empty⟩ :=
    CodeGrant.value_dispatch_of_issued hcode hissued
  exact value_handle_of_response hservice hdispatch

theorem fails_of_other (hbuild : (service.build inbound).value = .ok accepted)
    (hcode : "code" ∉ accepted.responseTypes) :
    (granting Session service issuer).Fails inbound session .noHandler
      (some accepted.redirectUri) :=
  .aborted hbuild (CodeGrant.value_dispatch_of_other hcode)

/-- A run grants or fails. -/
theorem granting_cases (service : AuthorizationService) (issuer : CodeGrant.Issuer)
    (inbound : InboundRequest) (session : Session) :
    (∃ accepted code, (service.build inbound).value = .ok accepted ∧
      "code" ∈ accepted.responseTypes ∧ issuer accepted = .ok code) ∨
    ∃ error target, (granting Session service issuer).Fails inbound session error target := by
  cases hbuild : (service.build inbound).value with
  | error rejection => exact .inr ⟨rejection.error, rejection.redirectUri, .rejected hbuild⟩
  | ok accepted =>
    by_cases hcode : "code" ∈ accepted.responseTypes
    · cases hissue : issuer accepted with
      | ok code => exact .inl ⟨accepted, code, rfl, hcode, hissue⟩
      | error error =>
        exact .inr ⟨error, some accepted.redirectUri,
          .aborted hbuild (CodeGrant.value_dispatch_of_refused hcode hissue)⟩
    · exact .inr ⟨_, _, fails_of_other hbuild hcode⟩

theorem grants_iff {state : String} :
    ((granting Session service issuer).handle inbound session).value.Grants code state ↔
      ∃ accepted, (service.build inbound).value = .ok accepted ∧
        "code" ∈ accepted.responseTypes ∧ issuer accepted = .ok code ∧
        accepted.state = state := by
  constructor
  · intro hgrants
    rcases granting_cases service issuer inbound session with
      ⟨accepted, issued, hbuild, hcode, hissued⟩ | ⟨error, target, hfails⟩
    · obtain ⟨location, headers, before, hreply, hpairs⟩ := hgrants
      rw [value_handle_of_issued hbuild hcode hissued, Reply.redirect.injEq] at hreply
      rw [← hreply.1, Url.queryPairs_appendPairs] at hpairs
      have hlast := List.append_inj_right' hpairs rfl
      simp only [List.cons.injEq, Prod.mk.injEq, true_and, and_true] at hlast
      obtain ⟨rfl, rfl⟩ := hlast
      exact ⟨accepted, hbuild, hcode, hissued, rfl⟩
    · rw [hfails.value_handle] at hgrants
      exact absurd hgrants (Reply.not_grants_failure target error code state)
  · rintro ⟨accepted, hbuild, hcode, hissued, rfl⟩
    exact ⟨_, _, accepted.redirectUri.queryPairs, value_handle_of_issued hbuild hcode hissued,
      Url.queryPairs_appendPairs _ _⟩

/-- A grant goes to the accepted requests that ask for a code and to no others, and carries the code
and the request's own state, character for character, after the target's own pairs.  An accepted
request that asks for no code is told so at its target. -/
theorem granting_exact (hissues : ∀ accepted, (service.build inbound).value = .ok accepted →
      issuer accepted = .ok code) (session : Session) :
    ((∃ code state,
        ((granting Session service issuer).handle inbound session).value.Grants code state) ↔
      ∃ params accepted, inbound.parameters = .ok params ∧
        (service.build inbound).value = .ok accepted ∧ params.AskForCode) ∧
    ∀ params accepted, inbound.parameters = .ok params →
      (service.build inbound).value = .ok accepted →
      (params.AskForCode → ∃ location,
        ((granting Session service issuer).handle inbound session).value =
          .redirect location .empty ∧
        location.queryPairs =
          accepted.redirectUri.queryPairs ++ [("code", code), ("state", accepted.state)] ∧
        params.pairs.find? (·.1 == "state") = some ("state", accepted.state) ∧
        location = { accepted.redirectUri with query := location.query }) ∧
      (¬params.AskForCode → ∃ location,
        ((granting Session service issuer).handle inbound session).value =
          .redirect location .empty ∧
        location.queryPairs = accepted.redirectUri.queryPairs ++
          [("error", "unsupported_response_type"),
            ("error_description", AuthError.Kind.noHandler.description)] ∧
        location = { accepted.redirectUri with query := location.query }) := by
  refine ⟨⟨?_, ?_⟩, ?_⟩
  · rintro ⟨issued, state, hgrants⟩
    obtain ⟨accepted, hbuild, hcode, -, -⟩ := grants_iff.mp hgrants
    obtain ⟨params, client, url, hverified, -, -⟩ :=
      AuthorizationService.build_eq_ok_iff.mp hbuild
    exact ⟨params, accepted, hverified.form, hbuild,
      (AuthorizationService.mem_responseTypes_iff hverified.form hbuild).mp hcode⟩
  · rintro ⟨params, accepted, hform, hbuild, hasks⟩
    have hcode := (AuthorizationService.mem_responseTypes_iff hform hbuild).mpr hasks
    exact ⟨code, accepted.state,
      grants_iff.mpr ⟨accepted, hbuild, hcode, hissues accepted hbuild, rfl⟩⟩
  · intro params accepted hform hbuild
    have hasks := AuthorizationService.mem_responseTypes_iff hform hbuild
    constructor
    · intro h
      exact ⟨_, value_handle_of_issued hbuild (hasks.mpr h) (hissues accepted hbuild),
        Url.queryPairs_appendPairs _ _, AuthorizationService.find?_state hform hbuild, rfl⟩
    · intro h
      have hfails : (granting Session service issuer).Fails inbound session .noHandler
          (some accepted.redirectUri) := fails_of_other hbuild fun hcode => h (hasks.mp hcode)
      exact ⟨_, hfails.value_handle, Url.queryPairs_appendPairs _ _, rfl⟩

/-- Text that the form encoding has to work on, in the code and in the state. -/
theorem granting_exact_beyond_ascii :
    let issuer : CodeGrant.Issuer := fun _ => .ok "a&b=ü"
    let inbound := InboundRequest.ofQuery
      ("client_id=c1&redirect_uri=https%3A%2F%2Fapp.example%2Fcb%3Ftenant%3Da" ++
        "&response_type=id_token+code&state=%C3%9F%26%3D%23+%2Babc&state=other")
    (∀ accepted, (straying.service.build inbound).value = .ok accepted →
      issuer accepted = .ok "a&b=ü") ∧
    ∃ location, ((granting Unit straying.service issuer).handle inbound ()).value =
        .redirect location .empty ∧
      location.queryPairs = [("tenant", "a"), ("code", "a&b=ü"), ("state", "ß&=# +abc")] := by
  intro issuer inbound
  have hissues : ∀ accepted, (straying.service.build inbound).value = .ok accepted →
      issuer accepted = .ok "a&b=ü" := fun _ _ => rfl
  let params : Parameters := ⟨[("client_id", "c1"),
    ("redirect_uri", "https://app.example/cb?tenant=a"), ("response_type", "id_token code"),
    ("state", "ß&=# +abc"), ("state", "other")]⟩
  have hform : inbound.parameters = .ok params := by decide +kernel
  have hbuild : (straying.service.build inbound).value = .ok (AuthorizationService.request params
      ⟨"c1", "", ["https://app.example/cb?tenant=a", "https://app.example/other"]⟩
      { scheme := "https", authority := some ⟨"", "", some (.domain "app.example"), none⟩
        path := .rooted ["cb"], query := some "tenant=a", fragment := none }) := by
    decide +kernel
  have hasks : params.AskForCode := Text.mem_split_iff.mp (by decide +kernel)
  obtain ⟨location, hreply, hpairs, -, -⟩ := ((granting_exact hissues ()).2 _ _ hform hbuild).1
    hasks
  exact ⟨hissues, location, hreply, hpairs.trans (by decide +kernel)⟩

end Endpoint

end OAuthEndpoint
