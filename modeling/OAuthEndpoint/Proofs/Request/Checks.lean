import OAuthEndpoint.AuthorizationRequest
import OAuthEndpoint.Proofs.RedirectTarget

/-! The checks of an authorization request, each as a condition of its own.  A request that is
`Verified` has passed all but the last one and may be answered to its target; `AcceptsState` is the
last.  The service accepts a request that passes all of them (`build_ok_iff`) and otherwise tells of
the first that fails (`build_error_iff`). -/

namespace OAuthEndpoint.AuthorizationService

variable {service : AuthorizationService} {inbound : InboundRequest} {params : Parameters}
  {client : Client} {url : Url}

/-- Where a client may be answered: the request's URI unescapes and resolves. -/
def Targets (params : Parameters) (client : Client) (url : Url) : Prop :=
  ∃ raw, RedirectTarget.requested params = .ok raw ∧ RedirectTarget.resolve raw client = .ok url

/-- All that is known of a request whose target was verified. -/
structure Verified (service : AuthorizationService) (inbound : InboundRequest)
    (params : Parameters) (client : Client) (url : Url) : Prop where
  form : inbound.parameters = .ok params
  known : service.lookup (params.get "client_id") = .ok (some client)
  target : Targets params client url

/-- A state that is there and has as many characters as the service asks for. -/
def AcceptsState (service : AuthorizationService) (state : String) : Prop :=
  state ≠ "" ∧ service.minStateLength ≤ state.length

/-- The first check that a request fails, whatever the later ones would say: the kind of its error,
and the target where that was verified before. -/
inductive FirstFault (service : AuthorizationService) (inbound : InboundRequest) :
    AuthError.Kind → Option Url → Prop
  | form (h : ¬∃ params, inbound.parameters = .ok params) :
      FirstFault service inbound .invalidRequest none
  | client {params : Parameters} (hform : inbound.parameters = .ok params)
      (h : ¬∃ client, service.lookup (params.get "client_id") = .ok (some client)) :
      FirstFault service inbound .invalidClient none
  | target {params : Parameters} {client : Client} (hform : inbound.parameters = .ok params)
      (hknown : service.lookup (params.get "client_id") = .ok (some client))
      (h : ¬∃ url, Targets params client url) : FirstFault service inbound .invalidRequest none
  | state {params : Parameters} {client : Client} {url : Url}
      (hverified : service.Verified inbound params client url)
      (h : ¬service.AcceptsState (params.get "state")) :
      FirstFault service inbound .invalidState (some url)

theorem Targets.unique {url' : Url} (h : Targets params client url)
    (h' : Targets params client url') : url = url' := by
  obtain ⟨raw, hraw, hurl⟩ := h
  obtain ⟨raw', hraw', hurl'⟩ := h'
  rw [hraw', Except.ok.injEq] at hraw
  subst hraw
  rw [hurl', Except.ok.injEq] at hurl
  exact hurl.symm

namespace Verified

variable {params' : Parameters} {client' : Client} {url' : Url}

theorem params_eq (h : service.Verified inbound params client url)
    (hform : inbound.parameters = .ok params') : params = params' := by
  have hsame := h.form
  rw [hform, Except.ok.injEq] at hsame
  exact hsame.symm

theorem client_eq (h : service.Verified inbound params client url)
    (hknown : service.lookup (params.get "client_id") = .ok (some client')) :
    client = client' := by
  have hsame := h.known
  rw [hknown, Except.ok.injEq, Option.some.injEq] at hsame
  exact hsame.symm

/-- A request is verified in one way at most. -/
theorem unique (h : service.Verified inbound params client url)
    (h' : service.Verified inbound params' client' url') :
    params = params' ∧ client = client' ∧ url = url' := by
  obtain rfl := h.params_eq h'.form
  obtain rfl := h.client_eq h'.known
  exact ⟨rfl, rfl, h.target.unique h'.target⟩

end Verified

/-! ### One check at a time -/

theorem value_findClient (id : String) :
    (∃ client, service.lookup id = .ok (some client) ∧
      (service.findClient id).value = .ok client) ∨
    ((¬∃ client, service.lookup id = .ok (some client)) ∧
      ∃ error, (service.findClient id).value = .error error ∧ error.kind = .invalidClient) := by
  rw [findClient]
  cases h : service.lookup id with
  | error error => exact .inr ⟨by simp, _, rfl, rfl⟩
  | ok found =>
    cases found with
    | none => exact .inr ⟨by simp, _, rfl, rfl⟩
    | some client => exact .inl ⟨client, rfl, rfl⟩

theorem target_cases (params : Parameters) (client : Client) :
    (∃ url, Targets params client url ∧ target params client = .ok url) ∨
    ((¬∃ url, Targets params client url) ∧
      ∃ error, target params client = .error error ∧ error.kind = .invalidRequest) := by
  rw [target]
  simp only [Targets]
  cases hraw : RedirectTarget.requested params with
  | error fault => exact .inr ⟨by simp, _, rfl, rfl⟩
  | ok raw =>
    cases hurl : RedirectTarget.resolve raw client with
    | error fault =>
      exact .inr ⟨by simp [hurl], .invalidRequest fault.message, by simp only [hurl], rfl⟩
    | ok url => exact .inl ⟨url, ⟨raw, rfl, hurl⟩, by simp only [hurl]⟩

theorem checkState_cases (state : String) :
    (service.AcceptsState state ∧ service.checkState state = .ok ()) ∨
    (¬service.AcceptsState state ∧
      ∃ error, service.checkState state = .error error ∧ error.kind = .invalidState) := by
  rw [checkState, AcceptsState]
  by_cases hempty : state = ""
  · rw [if_pos hempty]
    exact .inr ⟨fun h => h.1 hempty, _, rfl, rfl⟩
  · rw [if_neg hempty]
    by_cases hshort : state.length < service.minStateLength
    · rw [if_pos hshort]
      exact .inr ⟨fun h => by omega, _, rfl, rfl⟩
    · rw [if_neg hshort]
      exact .inl ⟨⟨hempty, by omega⟩, rfl⟩

/-! ### All checks in their order -/

/-- The request that verified data make. -/
def request (params : Parameters) (client : Client) (url : Url) : AuthorizationRequest where
  client := client
  redirectUri := url
  responseTypes := .parse (params.get "response_type")
  state := params.get "state"
  scopes := .parse (params.get "scope")
  params := params

theorem value_build_of_form (hform : inbound.parameters = .ok params) :
    (service.build inbound).value =
      match (service.findClient (params.get "client_id")).value with
      | .error error => .error (.ofError error)
      | .ok client => service.buildFor params client := by
  rw [build]
  simp only [hform, Logged.value_bind]
  cases (service.findClient (params.get "client_id")).value <;> rfl

theorem value_build_of_known (hform : inbound.parameters = .ok params)
    (hknown : service.lookup (params.get "client_id") = .ok (some client)) :
    (service.build inbound).value = service.buildFor params client := by
  rw [value_build_of_form hform, findClient]
  simp only [hknown, Logged.value_silent]

theorem build_of_accepts (h : service.Verified inbound params client url)
    (hstate : service.AcceptsState (params.get "state")) :
    (service.build inbound).value = .ok (request params client url) := by
  rw [value_build_of_known h.form h.known, buildFor]
  rcases target_cases params client with ⟨url', htargets, htarget⟩ | ⟨hnone, -⟩
  · obtain rfl := h.target.unique htargets
    rcases service.checkState_cases (params.get "state") with ⟨-, hcheck⟩ | ⟨hnot, -⟩
    · simp only [htarget, hcheck]
      rfl
    · exact absurd hstate hnot
  · exact absurd ⟨url, h.target⟩ hnone

/-- A request that fails a check is rejected for the first that it fails. -/
theorem build_of_firstFault {kind : AuthError.Kind} {redirectUri : Option Url}
    (h : service.FirstFault inbound kind redirectUri) :
    ∃ error, (service.build inbound).value = .error ⟨error, redirectUri⟩ ∧ error.kind = kind := by
  cases h with
  | form hform =>
    rw [build]
    cases hparams : inbound.parameters with
    | error fault => exact ⟨formError fault, rfl, rfl⟩
    | ok params => exact absurd ⟨params, hparams⟩ hform
  | @client params hform hunknown =>
    rw [value_build_of_form hform]
    rcases service.value_findClient (params.get "client_id") with
      ⟨client, hknown, -⟩ | ⟨-, error, hfound, hkind⟩
    · exact absurd ⟨client, hknown⟩ hunknown
    · exact ⟨error, by simp only [hfound, Rejection.ofError], hkind⟩
  | @target params client hform hknown hnone =>
    rw [value_build_of_known hform hknown, buildFor]
    rcases target_cases params client with ⟨url, htargets, -⟩ | ⟨-, error, htarget, hkind⟩
    · exact absurd ⟨url, htargets⟩ hnone
    · exact ⟨error, by simp only [htarget, Rejection.ofError], hkind⟩
  | @state params client url hverified hstate =>
    rw [value_build_of_known hverified.form hverified.known, buildFor]
    rcases target_cases params client with ⟨url', htargets, htarget⟩ | ⟨hnone, -⟩
    · obtain rfl := hverified.target.unique htargets
      rcases service.checkState_cases (params.get "state") with
        ⟨hok, -⟩ | ⟨-, error, hcheck, hkind⟩
      · exact absurd hok hstate
      · exact ⟨error, by simp only [htarget, hcheck], hkind⟩
    · exact absurd ⟨url, hverified.target⟩ hnone

/-- A request passes every check or fails a first one. -/
theorem accepts_or_firstFault (service : AuthorizationService) (inbound : InboundRequest) :
    (∃ params client url, service.Verified inbound params client url ∧
      service.AcceptsState (params.get "state")) ∨
    ∃ kind redirectUri, service.FirstFault inbound kind redirectUri := by
  by_cases hform : ∃ params, inbound.parameters = .ok params
  · obtain ⟨params, hform⟩ := hform
    by_cases hknown : ∃ client, service.lookup (params.get "client_id") = .ok (some client)
    · obtain ⟨client, hknown⟩ := hknown
      by_cases htarget : ∃ url, Targets params client url
      · obtain ⟨url, htarget⟩ := htarget
        have hverified : service.Verified inbound params client url := ⟨hform, hknown, htarget⟩
        by_cases hstate : service.AcceptsState (params.get "state")
        · exact .inl ⟨params, client, url, hverified, hstate⟩
        · exact .inr ⟨_, _, .state hverified hstate⟩
      · exact .inr ⟨_, _, .target hform hknown htarget⟩
    · exact .inr ⟨_, _, .client hform hknown⟩
  · exact .inr ⟨_, _, .form hform⟩

theorem build_eq_ok_iff {accepted : AuthorizationRequest} :
    (service.build inbound).value = .ok accepted ↔
      ∃ params client url, service.Verified inbound params client url ∧
        service.AcceptsState (params.get "state") ∧ accepted = request params client url := by
  constructor
  · intro hbuild
    rcases accepts_or_firstFault service inbound with
      ⟨params, client, url, hverified, hstate⟩ | ⟨kind, redirectUri, hfault⟩
    · rw [build_of_accepts hverified hstate, Except.ok.injEq] at hbuild
      exact ⟨params, client, url, hverified, hstate, hbuild.symm⟩
    · obtain ⟨error, herror, -⟩ := build_of_firstFault hfault
      rw [hbuild] at herror
      cases herror
  · rintro ⟨params, client, url, hverified, hstate, rfl⟩
    exact build_of_accepts hverified hstate

theorem build_ok_iff :
    (∃ accepted, (service.build inbound).value = .ok accepted) ↔
      ∃ params client url, service.Verified inbound params client url ∧
        service.AcceptsState (params.get "state") := by
  constructor
  · rintro ⟨accepted, hbuild⟩
    obtain ⟨params, client, url, hverified, hstate, -⟩ := build_eq_ok_iff.mp hbuild
    exact ⟨params, client, url, hverified, hstate⟩
  · rintro ⟨params, client, url, hverified, hstate⟩
    exact ⟨_, build_of_accepts hverified hstate⟩

theorem build_error_iff {kind : AuthError.Kind} {redirectUri : Option Url} :
    (∃ error, (service.build inbound).value = .error ⟨error, redirectUri⟩ ∧ error.kind = kind) ↔
      service.FirstFault inbound kind redirectUri := by
  constructor
  · rintro ⟨error, hbuild, rfl⟩
    rcases accepts_or_firstFault service inbound with
      ⟨params, client, url, hverified, hstate⟩ | ⟨kind, redirectUri', hfault⟩
    · rw [build_of_accepts hverified hstate] at hbuild
      cases hbuild
    · obtain ⟨error', herror, rfl⟩ := build_of_firstFault hfault
      rw [hbuild] at herror
      cases herror
      exact hfault
  · exact build_of_firstFault

/-! ### What a fault says of the target -/

namespace FirstFault

variable {kind : AuthError.Kind}

theorem verified (h : service.FirstFault inbound kind (some url)) :
    kind = .invalidState ∧ ∃ params client, service.Verified inbound params client url := by
  cases h with
  | state hverified _ => exact ⟨rfl, _, _, hverified⟩

theorem not_verified (h : service.FirstFault inbound kind none) :
    (kind = .invalidRequest ∨ kind = .invalidClient) ∧
      ¬∃ params client url, service.Verified inbound params client url := by
  cases h with
  | form hform =>
    refine ⟨.inl rfl, ?_⟩
    rintro ⟨params, client, url, hverified⟩
    exact hform ⟨params, hverified.form⟩
  | client hform hunknown =>
    refine ⟨.inr rfl, ?_⟩
    rintro ⟨params, client, url, hverified⟩
    obtain rfl := hverified.params_eq hform
    exact hunknown ⟨client, hverified.known⟩
  | target hform hknown hnone =>
    refine ⟨.inl rfl, ?_⟩
    rintro ⟨params, client, url, hverified⟩
    obtain rfl := hverified.params_eq hform
    obtain rfl := hverified.client_eq hknown
    exact hnone ⟨url, hverified.target⟩

end FirstFault

end OAuthEndpoint.AuthorizationService
