import OAuthEndpoint.Proofs.Endpoint.Location

/-! What a failing run answers.  A run fails when its request is rejected or when its chain ends
with an error, and both ways lead to the same reply: it depends on the kind of the error and on the
target alone, so that nothing else of the run can be read from it. -/

namespace OAuthEndpoint

theorem AuthorizationService.Verified.noFragment {service : AuthorizationService}
    {inbound : InboundRequest} {params : Parameters} {client : Client} {url : Url}
    (h : service.Verified inbound params client url) : url.fragment = none := by
  obtain ⟨destination, rfl⟩ := h.destination
  exact destination.noFragment

theorem AuthorizationService.noFragment_of_build {service : AuthorizationService}
    {inbound : InboundRequest} {accepted : AuthorizationRequest}
    (h : (service.build inbound).value = .ok accepted) : accepted.redirectUri.fragment = none := by
  obtain ⟨params, client, url, hverified, -, rfl⟩ := build_eq_ok_iff.mp h
  exact hverified.noFragment

theorem Reply.failure_eq_of_kind {error error' : AuthError} (h : error.kind = error'.kind)
    (target : Option Url) : failure target error = failure target error' := by
  have hwire : error.wire = error'.wire := congrArg WireError.ofKind h
  cases target <;> simp only [failure, hwire]

namespace Endpoint

variable {Session : Type} {endpoint : Endpoint Session} {inbound : InboundRequest}
  {session : Session} {error : AuthError} {target : Option Url}

/-- A run that fails, with its error and the target that was verified before. -/
inductive Fails (endpoint : Endpoint Session) (inbound : InboundRequest) (session : Session) :
    AuthError → Option Url → Prop
  | rejected {error : AuthError} {target : Option Url}
      (hbuild : (endpoint.service.build inbound).value = .error ⟨error, target⟩) :
      Fails endpoint inbound session error target
  | aborted {request : AuthorizationRequest} {error : AuthError}
      (hbuild : (endpoint.service.build inbound).value = .ok request)
      (hdispatch : (endpoint.chain.dispatch request inbound session).value = .error error) :
      Fails endpoint inbound session error (some request.redirectUri)

theorem value_handle_of_error {request : AuthorizationRequest}
    (hbuild : (endpoint.service.build inbound).value = .ok request)
    (hdispatch : (endpoint.chain.dispatch request inbound session).value = .error error) :
    (endpoint.handle inbound session).value = .failure (some request.redirectUri) error := by
  rw [value_handle, hbuild]
  simp only [answer, Logged.value_bind, hdispatch, Logged.value_raised]

theorem value_handle_of_response {request : AuthorizationRequest} {response : Response}
    (hbuild : (endpoint.service.build inbound).value = .ok request)
    (hdispatch : (endpoint.chain.dispatch request inbound session).value = .ok response) :
    (endpoint.handle inbound session).value = .success request response := by
  rw [value_handle, hbuild]
  simp only [answer, Logged.value_bind, hdispatch, Logged.value_raised]

namespace Fails

theorem value_handle (h : endpoint.Fails inbound session error target) :
    (endpoint.handle inbound session).value = .failure target error := by
  cases h with
  | rejected hbuild =>
    rw [Endpoint.value_handle, hbuild]
    rfl
  | aborted hbuild hdispatch => exact value_handle_of_error hbuild hdispatch

theorem verified {url : Url} (h : endpoint.Fails inbound session error (some url)) :
    ∃ params client, endpoint.service.Verified inbound params client url := by
  cases h with
  | rejected hbuild =>
    have hfault := AuthorizationService.build_error_iff.mp ⟨error, hbuild, rfl⟩
    exact hfault.verified.2
  | aborted hbuild _ =>
    obtain ⟨params, client, url, hverified, -, rfl⟩ :=
      AuthorizationService.build_eq_ok_iff.mp hbuild
    exact ⟨params, client, hverified⟩

end Fails

/-- Failing runs of the same kind and target answer alike, whatever endpoint, request, session and
handlers they had.  What reaches the target are its own pairs and two fixed ones. -/
theorem failures_alike {Session' : Type} {endpoint' : Endpoint Session'}
    {inbound' : InboundRequest} {session' : Session'} {error' : AuthError}
    (h : endpoint.Fails inbound session error target)
    (h' : endpoint'.Fails inbound' session' error' target) (hkind : error.kind = error'.kind) :
    (endpoint.handle inbound session).value = (endpoint'.handle inbound' session').value ∧
    (target = none → (endpoint.handle inbound session).value = .json (.ofKind error.kind)) ∧
    ∀ url, target = some url → ∃ location,
      (endpoint.handle inbound session).value = .redirect location .empty ∧
      (endpoint.handle inbound session).value.status = 302 ∧
      location.queryPairs = url.queryPairs ++
        [("error", error.kind.code), ("error_description", error.kind.description)] ∧
      location = { url with query := location.query } := by
  rw [h.value_handle, h'.value_handle]
  refine ⟨Reply.failure_eq_of_kind hkind target, ?_, ?_⟩
  · rintro rfl
    rfl
  · rintro url rfl
    exact ⟨url.appendPairs error.wire.pairs, rfl, rfl, Url.queryPairs_appendPairs url _, rfl⟩

/-- The straying handler, and after it one that fails and tells the state. -/
def betraying : Endpoint Unit where
  service := straying.service
  chain := straying.chain.register {
    name := "betray"
    run := fun request _ _ _ => ({}, .error (.invalidState ("found " ++ request.state))) }

/-- A run that writes a good deal before it fails, and one that is rejected at once. -/
theorem failures_alike_betraying :
    let query := "client_id=c1&redirect_uri=https%3A%2F%2Fapp.example%2Fother&state="
    let inbound := InboundRequest.ofQuery (query ++ "abcdefgh")
    let inbound' := InboundRequest.ofQuery (query ++ "weak&scope=mail")
    let url : Url := {
      scheme := "https", authority := some ⟨"", "", some (.domain "app.example"), none⟩
      path := .rooted ["other"], query := none, fragment := none }
    let error := AuthError.invalidState "found abcdefgh"
    let error' := AuthError.invalidState
      "State parameter is too short (minimum 8 characters, got 4)"
    betraying.Fails inbound () error (some url) ∧ straying.Fails inbound' () error' (some url) ∧
    (betraying.handle inbound ()).value = (straying.handle inbound' ()).value := by
  intro query inbound inbound' url error error'
  have hbuild : (betraying.service.build inbound).value = .ok (AuthorizationService.request
      ⟨[("client_id", "c1"), ("redirect_uri", "https://app.example/other"),
        ("state", "abcdefgh")]⟩
      ⟨"c1", "", ["https://app.example/cb?tenant=a", "https://app.example/other"]⟩ url) := by
    decide +kernel
  have hbetrayed : betraying.Fails inbound () error (some url) := .aborted hbuild rfl
  have hrejected : straying.Fails inbound' () error' (some url) := .rejected (by decide +kernel)
  exact ⟨hbetrayed, hrejected, (failures_alike hbetrayed hrejected rfl).1⟩

end Endpoint

end OAuthEndpoint
