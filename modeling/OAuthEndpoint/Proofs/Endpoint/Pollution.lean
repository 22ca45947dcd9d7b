import OAuthEndpoint.Proofs.Endpoint.Events
import OAuthEndpoint.Proofs.Endpoint.Location
import OAuthEndpoint.Proofs.Request.FirstValues

/-! Parameters that are sent more than once.  Pairs that come after the first values of the names
that decide about a request change nothing, whether they are in its query or behind its body: what
the service makes of it stays as it is, and so do the endpoint's reply and its log
(`pollution_harmless`). -/

namespace OAuthEndpoint

namespace CodeGrant

/-- Issues the same whatever is asked: one code, or one error. -/
def Issuer.fixed (issued : Except AuthError String) : Issuer := fun _ => issued

variable {Session : Type} {request request' : AuthorizationRequest}

theorem run_handler_fixed_congr (issued : Except AuthError String)
    (htypes : request.responseTypes = request'.responseTypes)
    (hstate : request.state = request'.state) (inbound inbound' : InboundRequest)
    (session : Session) (response : Response) :
    (handler Session (.fixed issued)).run request inbound session response =
      (handler Session (.fixed issued)).run request' inbound' session response := by
  simp only [handler, Issuer.fixed, htypes, hstate]

theorem dispatch_chainOf_fixed_congr (issued : List (Except AuthError String))
    (htypes : request.responseTypes = request'.responseTypes)
    (hstate : request.state = request'.state) (inbound inbound' : InboundRequest)
    (session : Session) :
    (chainOf Session (issued.map Issuer.fixed)).dispatch request inbound session =
      (chainOf Session (issued.map Issuer.fixed)).dispatch request' inbound' session := by
  refine Chain.runFrom_congr ?_ .empty false
  intro member hmember response
  obtain ⟨issuer, hissuer, rfl⟩ := List.mem_map.mp hmember
  obtain ⟨issue, -, rfl⟩ := List.mem_map.mp hissuer
  exact run_handler_fixed_congr issue htypes hstate inbound inbound' session response

end CodeGrant

namespace Endpoint

variable {Session : Type} {endpoint : Endpoint Session} {inbound inbound' : InboundRequest}
  {session : Session}

/-- Requests that are built alike are answered alike where the chain does the same with both. -/
theorem handle_congr (hevents : (endpoint.service.build inbound).events =
      (endpoint.service.build inbound').events)
    (halike : AuthorizationService.Alike (endpoint.service.build inbound).value
      (endpoint.service.build inbound').value)
    (hdispatch : ∀ request request' : AuthorizationRequest,
      request.responseTypes = request'.responseTypes → request.state = request'.state →
      endpoint.chain.dispatch request inbound session =
        endpoint.chain.dispatch request' inbound' session) :
    endpoint.handle inbound session = endpoint.handle inbound' session := by
  rw [handle, handle, Logged.bind, Logged.bind, hevents]
  generalize (endpoint.service.build inbound).value = built at halike ⊢
  generalize (endpoint.service.build inbound').value = built' at halike ⊢
  cases halike with
  | rejected rejection => rfl
  | @accepted request request' hclient hredirect htypes hstate hscopes =>
    have hanswer : endpoint.answer request inbound session =
        endpoint.answer request' inbound' session := by
      rw [answer, answer, hdispatch request request' htypes hstate]
      simp only [grantedEvent, failedEvent, Reply.success, hclient, hredirect, htypes]
    simp only [hanswer]

end Endpoint

/-- Two requests that come to the same: the service builds both alike, and an endpoint whose code
grants issue the same for both gives them the same reply and tells the same of them. -/
structure AuthorizationService.Indistinct (service : AuthorizationService)
    (inbound inbound' : InboundRequest) : Prop where
  built : Alike (service.build inbound).value (service.build inbound').value
  handled : ∀ (Session : Type) (issued : List (Except AuthError String)) (session : Session),
    (Endpoint.grantingBy Session service (issued.map CodeGrant.Issuer.fixed)).handle inbound
        session =
      (Endpoint.grantingBy Session service (issued.map CodeGrant.Issuer.fixed)).handle inbound'
        session

namespace AuthorizationService

variable {service : AuthorizationService} {inbound inbound' : InboundRequest}
  {params params' : Parameters}

theorem indistinct_of_agree (hform : inbound.parameters = .ok params)
    (hform' : inbound'.parameters = .ok params') (h : params.Agree params') :
    service.Indistinct inbound inbound' := by
  obtain ⟨halike, hevents⟩ := service.build_alike hform hform' h
  refine ⟨halike, ?_⟩
  intro Session issued session
  refine Endpoint.handle_congr hevents halike ?_
  intro request request' htypes hstate
  exact CodeGrant.dispatch_chainOf_fixed_congr issued htypes hstate inbound inbound' session

/-- Requests with the same first values come to the same, and so does a request with more in its
query, whatever that is, as long as its names were there before or decide nothing. -/
theorem pollution_harmless (service : AuthorizationService)
    (hform : inbound.parameters = .ok params) :
    (∀ inbound' params', inbound'.parameters = .ok params' → params.Agree params' →
      service.Indistinct inbound inbound') ∧
    ∀ more added, Form.parse more = .ok added → params.Shadows added →
      service.Indistinct inbound (inbound.addQuery more) := by
  constructor
  · intro inbound' params' hform' hagree
    exact indistinct_of_agree hform hform' hagree
  · intro more added hmore hshadows
    exact indistinct_of_agree hform (InboundRequest.parameters_addQuery hform hmore)
      hshadows.agree

/-- An empty state counts, whatever comes after it. -/
theorem pollution_harmless_empty_state :
    let service := Endpoint.straying.service
    let inbound := InboundRequest.ofForm (Text.Utf8.encode
      "client_id=c1&state=&redirect_uri=https://app.example/other".toList)
    let params : Parameters := ⟨[("client_id", "c1"), ("state", ""),
      ("redirect_uri", "https://app.example/other")]⟩
    let more := "state=abcdefgh&ui=dark&client_id=c2&state"
    let added := [("state", "abcdefgh"), ("ui", "dark"), ("client_id", "c2"), ("state", "")]
    let url : Url := {
      scheme := "https", authority := some ⟨"", "", some (.domain "app.example"), none⟩
      path := .rooted ["other"], query := none, fragment := none }
    inbound.parameters = .ok params ∧ Form.parse more = .ok added ∧ params.Shadows added ∧
    (service.build (inbound.addQuery more)).value =
      .error ⟨.invalidState "Missing state parameter", some url⟩ ∧
    service.Indistinct inbound (inbound.addQuery more) := by
  intro service inbound params more added url
  have hform : inbound.parameters = .ok params := by decide +kernel
  have hmore : Form.parse more = .ok added := by decide +kernel
  have hshadows : params.Shadows added := by
    unfold Parameters.Shadows
    decide
  have hrejected : (service.build (inbound.addQuery more)).value =
      .error ⟨.invalidState "Missing state parameter", some url⟩ := by
    decide +kernel
  exact ⟨hform, hmore, hshadows, hrejected,
    (pollution_harmless service hform).2 more added hmore hshadows⟩

end AuthorizationService

end OAuthEndpoint
