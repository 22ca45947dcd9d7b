import OAuthEndpoint.Proofs.Endpoint.Replies

/-! Stores that fail.  To whoever asks, a failing store looks like one without the client: the reply
is the same and the store's own error is in no part of it (`store_failure_hidden`). -/

namespace OAuthEndpoint

namespace AuthorizationService

variable {service service' : AuthorizationService}

/-- Services that find no client at all fail a request at the same check. -/
theorem firstFault_of_unfound
    (h : ∀ id, ¬∃ client, service.lookup id = .ok (some client))
    (h' : ∀ id, ¬∃ client, service'.lookup id = .ok (some client)) (inbound : InboundRequest) :
    ∃ kind, service.FirstFault inbound kind none ∧ service'.FirstFault inbound kind none := by
  by_cases hform : ∃ params, inbound.parameters = .ok params
  · obtain ⟨params, hform⟩ := hform
    have hunfound := h (params.get "client_id")
    have hunfound' := h' (params.get "client_id")
    exact ⟨_, .client hform hunfound, .client hform hunfound'⟩
  · exact ⟨_, .form hform, .form hform⟩

/-- What is said of a request where the store fails: that its form is at fault, or that its client
could not be looked up. -/
def lookupRejection (inbound : InboundRequest) : Rejection :=
  match inbound.parameters with
  | .error fault => .ofError (formError fault)
  | .ok _ => .ofError (.invalidClient "Client lookup failed")

theorem build_of_failing (error : AuthError) (minStateLength : Nat) (inbound : InboundRequest) :
    (build ⟨.failing error, minStateLength⟩ inbound).value = .error (lookupRejection inbound) := by
  rw [build, lookupRejection]
  cases inbound.parameters with
  | error fault => rfl
  | ok params =>
    simp only [findClient, ClientLookup.failing, Logged.value_bind, Logged.value_raised,
      Logged.value_silent]

end AuthorizationService

namespace Endpoint

variable {Session : Type}

/-- The endpoint of a store that looks up its clients in one way or another. -/
def withLookup (lookup : ClientLookup) (minStateLength : Nat) (chain : Chain Session) :
    Endpoint Session := ⟨⟨lookup, minStateLength⟩, chain⟩

/-- A store that fails every look-up gets the reply of an empty one, whatever its error is, and that
error is not in what the request is rejected with. -/
theorem store_failure_hidden (chain : Chain Session) (minStateLength : Nat)
    (inbound : InboundRequest) (session : Session) (error : AuthError) :
    ((withLookup (.failing error) minStateLength chain).handle inbound session).value =
      ((withLookup ClientStore.empty.lookup minStateLength chain).handle inbound session).value ∧
    ((withLookup (.failing error) minStateLength chain).service.build inbound).value =
      .error (AuthorizationService.lookupRejection inbound) ∧
    ((withLookup (.failing error) minStateLength chain).handle inbound session).value =
      .ofRejection (AuthorizationService.lookupRejection inbound) := by
  have hfailing : ∀ id, ¬∃ client,
      (withLookup (.failing error) minStateLength chain).service.lookup id = .ok (some client) := by
    rintro id ⟨client, hclient⟩
    cases hclient
  have hempty : ∀ id, ¬∃ client,
      (withLookup ClientStore.empty.lookup minStateLength chain).service.lookup id =
        .ok (some client) := by
    rintro id ⟨client, hclient⟩
    cases hclient
  obtain ⟨kind, hfault, hfault'⟩ :=
    AuthorizationService.firstFault_of_unfound hfailing hempty inbound
  have hbuild : ((withLookup (.failing error) minStateLength chain).service.build inbound).value =
      .error (AuthorizationService.lookupRejection inbound) :=
    AuthorizationService.build_of_failing error minStateLength inbound
  refine ⟨?_, hbuild, ?_⟩
  · rw [handle_of_unverified hfault session, handle_of_unverified hfault' session]
  · rw [value_handle, hbuild]

end Endpoint

end OAuthEndpoint
