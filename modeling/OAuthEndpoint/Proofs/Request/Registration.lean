import OAuthEndpoint.Proofs.Form.Pairs
import OAuthEndpoint.Proofs.Request.Checks
import Mathlib.Control.Monad.Basic

/-! Which registrations a request can name.  The target of a request is unescaped once more after
the form it came in, so a registration is sure to be reached when it is encoded before the form is
written.  Written as it stands, it is compared after one more unescaping, which leaves it alone only
where it holds no `%` and no `+`. -/

namespace OAuthEndpoint

namespace InboundRequest

/-- The parameters that name a client, a target and a state. -/
def namingPairs (id target state : String) : List (String × String) :=
  [("client_id", id), ("redirect_uri", target), ("state", state)]

/-- A request for them, with its query written once. -/
def naming (id target state : String) : InboundRequest :=
  .ofQuery (Form.serialize (namingPairs id target state))

theorem parameters_naming (id target state : String) :
    (naming id target state).parameters = .ok ⟨namingPairs id target state⟩ := by
  have hbody : (naming id target state).bodyPairs = .ok [] := rfl
  have hquery : (naming id target state).queryPairs = .ok (namingPairs id target state) :=
    Form.parse_serialize _
  rw [parameters, hbody, hquery]
  rfl

end InboundRequest

theorem Url.ne_empty_of_parse {registered : String} {url : Url}
    (h : Url.parse registered = .ok url) : registered ≠ "" := by
  rintro rfl
  have hempty : Url.parse "" = .error .relativeWithoutBase := by decide +kernel
  rw [hempty] at h
  cases h

namespace AuthorizationService

variable {service : AuthorizationService} {client : Client} {registered : String} {url : Url}
  {id target state : String}

/-- The service accepts a request, to be answered at a URL. -/
def AcceptsAt (service : AuthorizationService) (inbound : InboundRequest) (url : Url) : Prop :=
  ∃ accepted, (service.build inbound).value = .ok accepted ∧ accepted.redirectUri = url

theorem targets_naming_iff (htarget : Form.unescape target ≠ .ok "")
    (hhierarchical : url.isHierarchical = true) (hfragment : url.fragment = none) :
    Targets ⟨InboundRequest.namingPairs id target state⟩ client url ↔
      ∃ raw ∈ client.redirectUris, Form.unescape target = .ok raw ∧ Url.parse raw = .ok url := by
  have hrequested : RedirectTarget.requested ⟨InboundRequest.namingPairs id target state⟩ =
      Form.unescape target := rfl
  rw [Targets, hrequested]
  constructor
  · rintro ⟨raw, hraw, hresolve⟩
    obtain ⟨chosen, hchosen, hparse, -, -⟩ := RedirectTarget.resolve_eq_ok_iff.mp hresolve
    cases hchosen with
    | named _ hmem => exact ⟨raw, hmem, hraw, hparse⟩
    | only hempty _ =>
      subst hempty
      exact absurd hraw htarget
  · rintro ⟨raw, hmem, hraw, hparse⟩
    have hchosen : RedirectTarget.Chosen raw client raw :=
      .named (Url.ne_empty_of_parse hparse) hmem
    exact ⟨raw, hraw,
      RedirectTarget.resolve_eq_ok_iff.mpr ⟨raw, hchosen, hparse, hhierarchical, hfragment⟩⟩

/-- A request that names its target is accepted where the target unescapes to a registration. -/
theorem acceptsAt_naming_iff (hknown : service.lookup id = .ok (some client))
    (hstate : service.AcceptsState state) (htarget : Form.unescape target ≠ .ok "")
    (hhierarchical : url.isHierarchical = true) (hfragment : url.fragment = none) :
    service.AcceptsAt (.naming id target state) url ↔
      ∃ raw ∈ client.redirectUris, Form.unescape target = .ok raw ∧ Url.parse raw = .ok url := by
  have hform := InboundRequest.parameters_naming id target state
  rw [← @targets_naming_iff client url id target state htarget hhierarchical hfragment]
  constructor
  · rintro ⟨accepted, hbuild, haccepted⟩
    obtain ⟨params, client', url', hverified, -, rfl⟩ := build_eq_ok_iff.mp hbuild
    obtain rfl := hverified.params_eq hform
    obtain rfl := hverified.client_eq hknown
    rw [← haccepted]
    exact hverified.target
  · intro htargets
    have hverified : service.Verified (.naming id target state)
        ⟨InboundRequest.namingPairs id target state⟩ client url := ⟨hform, hknown, htargets⟩
    exact ⟨_, build_of_accepts hverified hstate, rfl⟩

/-- Every usable registration can be requested when it is encoded before the form is written.
Written into the form as it stands it is reached where it unescapes to a registration of the same
URL, as it does when there is nothing in it to unescape. -/
theorem registration_requestable (hknown : service.lookup id = .ok (some client))
    (hmem : registered ∈ client.redirectUris) (hparse : Url.parse registered = .ok url)
    (hhierarchical : url.isHierarchical = true) (hfragment : url.fragment = none)
    (hstate : service.AcceptsState state) :
    service.AcceptsAt (.naming id (String.ofList (Form.encode registered)) state) url ∧
    (service.AcceptsAt (.naming id registered state) url ↔
      ∃ raw ∈ client.redirectUris, Form.unescape registered = .ok raw ∧
        Url.parse raw = .ok url) ∧
    ('%' ∉ registered.toList → '+' ∉ registered.toList →
      service.AcceptsAt (.naming id registered state) url) := by
  have hne : registered ≠ "" := Url.ne_empty_of_parse hparse
  have honce : service.AcceptsAt (.naming id registered state) url ↔
      ∃ raw ∈ client.redirectUris, Form.unescape registered = .ok raw ∧
        Url.parse raw = .ok url :=
    acceptsAt_naming_iff hknown hstate (fun h => hne (Form.eq_empty_of_unescape h))
      hhierarchical hfragment
  refine ⟨?_, honce, ?_⟩
  · have htwice : Form.unescape (String.ofList (Form.encode registered)) = .ok registered :=
      Form.unescape_encode registered
    have htarget : Form.unescape (String.ofList (Form.encode registered)) ≠ .ok "" := by
      rw [htwice, ne_eq, Except.ok.injEq]
      exact hne
    rw [acceptsAt_naming_iff hknown hstate htarget hhierarchical hfragment]
    exact ⟨registered, hmem, htwice, hparse⟩
  · intro hpercent hplus
    rw [honce]
    exact ⟨registered, hmem, Form.unescape_eq_self_iff.mpr ⟨hpercent, hplus⟩, hparse⟩

/-- One client whose only registration has an escape in its query. -/
def escaping : AuthorizationService where
  lookup := fun id => .ok (if id = "c1" then
    some ⟨"c1", "", ["https://app.example/cb?q=a%20b"]⟩ else none)
  minStateLength := 8

/-- The URL of that registration. -/
def escapedTarget : Url where
  scheme := "https"
  authority := some ⟨"", "", some (.domain "app.example"), none⟩
  path := .rooted ["cb"]
  query := some "q=a%20b"
  fragment := none

theorem registration_requestable_escaping :
    let client : Client := ⟨"c1", "", ["https://app.example/cb?q=a%20b"]⟩
    let registered := "https://app.example/cb?q=a%20b"
    escaping.AcceptsAt (.naming "c1" (String.ofList (Form.encode registered)) "abcdefgh")
      escapedTarget ∧
    (escaping.AcceptsAt (.naming "c1" registered "abcdefgh") escapedTarget ↔
      ∃ raw ∈ client.redirectUris, Form.unescape registered = .ok raw ∧
        Url.parse raw = .ok escapedTarget) ∧
    ('%' ∉ registered.toList → '+' ∉ registered.toList →
      escaping.AcceptsAt (.naming "c1" registered "abcdefgh") escapedTarget) := by
  intro client registered
  have hknown : escaping.lookup "c1" = .ok (some client) := rfl
  have hparse : Url.parse registered = .ok escapedTarget := by decide +kernel
  have hstate : escaping.AcceptsState "abcdefgh" := ⟨by decide, by decide⟩
  exact registration_requestable hknown (List.mem_singleton.mpr rfl) hparse rfl rfl hstate

/-- Written into the form as it stands, a usable registration can fail to be found. -/
theorem not_acceptsAt_of_written_once :
    let client : Client := ⟨"c1", "", ["https://app.example/cb?q=a%20b"]⟩
    let registered := "https://app.example/cb?q=a%20b"
    escaping.lookup "c1" = .ok (some client) ∧ registered ∈ client.redirectUris ∧
    Url.parse registered = .ok escapedTarget ∧ escapedTarget.isHierarchical = true ∧
    escapedTarget.fragment = none ∧ escaping.AcceptsState "abcdefgh" ∧
    ¬escaping.AcceptsAt (.naming "c1" registered "abcdefgh") escapedTarget := by
  refine ⟨rfl, List.mem_singleton.mpr rfl, by decide +kernel, rfl, rfl,
    ⟨by decide, by decide⟩, ?_⟩
  rintro ⟨accepted, hbuild, -⟩
  have hrejected : (escaping.build
      (.naming "c1" "https://app.example/cb?q=a%20b" "abcdefgh")).value =
      .error ⟨.invalidRequest RedirectTarget.Fault.notRegistered.message, none⟩ := by
    decide +kernel
  rw [hrejected] at hbuild
  cases hbuild

end AuthorizationService

end OAuthEndpoint
