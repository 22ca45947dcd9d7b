import OAuthEndpoint.Endpoint
import OAuthEndpoint.Proofs.Request.Checks

/-! How the endpoint answers.  A request whose target was verified is answered there, whatever comes
of it; any other request gets a JSON body, and the first check that it fails says which. -/

namespace OAuthEndpoint.Endpoint

variable {Session : Type} {endpoint : Endpoint Session} {inbound : InboundRequest}
  {params : Parameters} {client : Client} {url : Url}

theorem value_handle (endpoint : Endpoint Session) (inbound : InboundRequest) (session : Session) :
    (endpoint.handle inbound session).value =
      match (endpoint.service.build inbound).value with
      | .error rejection => .ofRejection rejection
      | .ok request => (endpoint.answer request inbound session).value := by
  rw [handle, Logged.value_bind]
  cases (endpoint.service.build inbound).value <;> rfl

/-- An accepted request is answered to its target, also when the chain fails. -/
theorem value_answer (endpoint : Endpoint Session) (request : AuthorizationRequest)
    (inbound : InboundRequest) (session : Session) :
    ∃ pairs headers, (endpoint.answer request inbound session).value =
      .redirect (request.redirectUri.appendPairs pairs) headers := by
  rw [answer, Logged.value_bind]
  cases (endpoint.chain.dispatch request inbound session).value with
  | ok response => exact ⟨response.query, response.headers, rfl⟩
  | error error => exact ⟨error.wire.pairs, .empty, rfl⟩

theorem handle_of_firstFault {kind : AuthError.Kind} {redirectUri : Option Url}
    (h : endpoint.service.FirstFault inbound kind redirectUri) (session : Session) :
    ∃ error, error.kind = kind ∧
      (endpoint.handle inbound session).value = .failure redirectUri error := by
  obtain ⟨error, hbuild, hkind⟩ := AuthorizationService.build_of_firstFault h
  refine ⟨error, hkind, ?_⟩
  rw [value_handle, hbuild]
  rfl

/-- A request with a verified target is answered there. -/
theorem handle_of_verified (h : endpoint.service.Verified inbound params client url)
    (session : Session) :
    ∃ pairs headers, (endpoint.handle inbound session).value =
      .redirect (url.appendPairs pairs) headers := by
  by_cases hstate : endpoint.service.AcceptsState (params.get "state")
  · rw [value_handle, AuthorizationService.build_of_accepts h hstate]
    exact endpoint.value_answer _ inbound session
  · obtain ⟨error, -, hvalue⟩ := handle_of_firstFault (.state h hstate) session
    exact ⟨error.wire.pairs, .empty, hvalue⟩

/-- Without a verified target the first fault is told in a JSON body. -/
theorem handle_of_unverified {kind : AuthError.Kind}
    (h : endpoint.service.FirstFault inbound kind none) (session : Session) :
    (endpoint.handle inbound session).value = .json (.ofKind kind) := by
  obtain ⟨error, rfl, hvalue⟩ := handle_of_firstFault h session
  exact hvalue

/-- Every request has a verified target or a first fault before it. -/
theorem verified_or_unverified (service : AuthorizationService) (inbound : InboundRequest) :
    (∃ params client url, service.Verified inbound params client url) ∨
      ∃ kind, service.FirstFault inbound kind none := by
  rcases service.accepts_or_firstFault inbound with
    ⟨params, client, url, hverified, -⟩ | ⟨kind, redirectUri, hfault⟩
  · exact .inl ⟨params, client, url, hverified⟩
  · cases redirectUri with
    | none => exact .inr ⟨kind, hfault⟩
    | some url =>
      obtain ⟨-, params, client, hverified⟩ := hfault.verified
      exact .inl ⟨params, client, url, hverified⟩

theorem handle_eq_redirect {session : Session} {location : Url} {headers : Http.Headers}
    (h : (endpoint.handle inbound session).value = .redirect location headers) :
    ∃ params client url pairs, endpoint.service.Verified inbound params client url ∧
      location = url.appendPairs pairs := by
  rcases verified_or_unverified endpoint.service inbound with
    ⟨params, client, url, hverified⟩ | ⟨kind, hfault⟩
  · obtain ⟨pairs, headers', hvalue⟩ := handle_of_verified hverified session
    rw [h, Reply.redirect.injEq] at hvalue
    exact ⟨params, client, url, pairs, hverified, hvalue.1⟩
  · rw [handle_of_unverified hfault session] at h
    cases h

theorem handle_eq_json_iff {session : Session} {error : WireError} :
    (endpoint.handle inbound session).value = .json error ↔
      ∃ kind, endpoint.service.FirstFault inbound kind none ∧ error = .ofKind kind := by
  constructor
  · intro h
    rcases verified_or_unverified endpoint.service inbound with
      ⟨params, client, url, hverified⟩ | ⟨kind, hfault⟩
    · obtain ⟨pairs, headers, hvalue⟩ := handle_of_verified hverified session
      rw [h] at hvalue
      cases hvalue
    · rw [handle_of_unverified hfault session, Reply.json.injEq] at h
      exact ⟨kind, hfault, h.symm⟩
  · rintro ⟨kind, hfault, rfl⟩
    exact handle_of_unverified hfault session

/-- A fault before the target was verified is the request's or the client's. -/
theorem wire_of_unverified {kind : AuthError.Kind}
    (h : endpoint.service.FirstFault inbound kind none) :
    (WireError.ofKind kind).status = 400 ∧ (WireError.ofKind kind).code = "invalid_request" ∨
      (WireError.ofKind kind).status = 401 ∧ (WireError.ofKind kind).code = "invalid_client" := by
  rcases h.not_verified.1 with rfl | rfl
  · exact .inl ⟨rfl, rfl⟩
  · exact .inr ⟨rfl, rfl⟩

/-- The checks fail in one order, each with its own error, and only a fault of the state is sent to
the target.  What the endpoint answers follows: a JSON body with one of two errors unless the target
was verified, and a redirect if it was. -/
theorem answers_by_first_fault (endpoint : Endpoint Session) (inbound : InboundRequest)
    (session : Session) :
    ((∃ accepted, (endpoint.service.build inbound).value = .ok accepted) ↔
      ∃ params client url, endpoint.service.Verified inbound params client url ∧
        endpoint.service.AcceptsState (params.get "state")) ∧
    (∀ kind redirectUri,
      (∃ error, (endpoint.service.build inbound).value = .error ⟨error, redirectUri⟩ ∧
        error.kind = kind) ↔ endpoint.service.FirstFault inbound kind redirectUri) ∧
    ((∃ error, (endpoint.handle inbound session).value = .json error) ↔
      ¬∃ params client url, endpoint.service.Verified inbound params client url) ∧
    (∀ error, (endpoint.handle inbound session).value = .json error →
      error.status = 400 ∧ error.code = "invalid_request" ∨
      error.status = 401 ∧ error.code = "invalid_client") ∧
    ((∃ params client url, endpoint.service.Verified inbound params client url) →
      ∃ location headers, (endpoint.handle inbound session).value = .redirect location headers ∧
        (endpoint.handle inbound session).value.status = 302) := by
  refine ⟨AuthorizationService.build_ok_iff, fun _ _ => AuthorizationService.build_error_iff,
    ⟨?_, ?_⟩, ?_, ?_⟩
  · rintro ⟨error, hjson⟩
    obtain ⟨kind, hfault, -⟩ := handle_eq_json_iff.mp hjson
    exact hfault.not_verified.2
  · intro hnone
    rcases verified_or_unverified endpoint.service inbound with hverified | ⟨kind, hfault⟩
    · exact absurd hverified hnone
    · exact ⟨.ofKind kind, handle_of_unverified hfault session⟩
  · intro error hjson
    obtain ⟨kind, hfault, rfl⟩ := handle_eq_json_iff.mp hjson
    exact wire_of_unverified hfault
  · rintro ⟨params, client, url, hverified⟩
    obtain ⟨pairs, headers, hvalue⟩ := handle_of_verified hverified session
    rw [hvalue]
    exact ⟨_, headers, rfl, rfl⟩

end OAuthEndpoint.Endpoint
