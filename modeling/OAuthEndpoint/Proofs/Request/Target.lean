import OAuthEndpoint.AuthorizationRequest
import OAuthEndpoint.Proofs.RedirectTarget
import OAuthEndpoint.Proofs.Url.Fragment
import OAuthEndpoint.Proofs.Url.RoundTrip
import Mathlib.Control.Monad.Basic

/-! What becomes of the target that a request names.  It is resolved exactly where a registration is
chosen that may be redirected to, and all else makes the request invalid (`resolution_exact`).  A
registration that holds a `#` anywhere is never redirected to (`resolved_without_hash`).
Registrations are compared as they stand but redirected to as they are read, so that only canonical
ones are written as they were registered (`resolved_as_registered_iff`). -/

namespace OAuthEndpoint.RedirectTarget

variable {raw : String} {client : Client} {url : Url}

/-- The requester learns of a target that was refused as of an invalid request. -/
theorem target_of_refused {params : Parameters} {fault : Fault} (hraw : requested params = .ok raw)
    (h : Refused raw client fault) :
    AuthorizationService.target params client = .error (.invalidRequest fault.message) := by
  simp only [AuthorizationService.target, hraw, resolve_of_refused h]

/-- A target is resolved exactly where the client has one registration and none is named, or where
one is named that is registered character by character, and that registration is a hierarchical URL
without a fragment.  Otherwise it is refused for one of four reasons, and the request is invalid.  So
registration exempts no URI from the checks, and nothing is chosen among several registrations. -/
theorem resolution_exact (raw : String) (client : Client) :
    (∀ url, resolve raw client = .ok url ↔
      ∃ registered,
        (raw = "" ∧ client.redirectUris = [registered] ∨
          raw ≠ "" ∧ raw = registered ∧ registered ∈ client.redirectUris) ∧
        Url.parse registered = .ok url ∧ url.isHierarchical = true ∧ url.fragment = none) ∧
    (∀ fault, resolve raw client = .error fault ↔ Refused raw client fault) ∧
    ((¬∃ url, resolve raw client = .ok url) → ∃ fault, Refused raw client fault ∧
      ∀ params, requested params = .ok raw →
        AuthorizationService.target params client = .error (.invalidRequest fault.message)) := by
  refine ⟨fun url => ?_, fun fault => resolve_eq_error_iff, fun hnot => ?_⟩
  · rw [resolve_eq_ok_iff]
    refine exists_congr fun registered => and_congr_left' ?_
    exact chosen_iff
  · obtain ⟨fault, hrefused⟩ := (exists_resolved_or_refused raw client).resolve_left hnot
    exact ⟨fault, hrefused, fun params hraw => target_of_refused hraw hrefused⟩

/-- Of a registration that was made twice, the request must still name one. -/
theorem resolution_exact_twice :
    let client : Client := ⟨"c1", "", ["https://app.example/cb", "https://app.example/cb"]⟩
    (¬∃ url, resolve "" client = .ok url) ∧
    requested ⟨[("state", "abcdefgh")]⟩ = .ok "" ∧
    ∃ fault, Refused "" client fault ∧
      AuthorizationService.target ⟨[("state", "abcdefgh")]⟩ client =
        .error (.invalidRequest fault.message) := by
  intro client
  have hrefused : resolve "" client = .error .notChosen := by decide +kernel
  have hnot : ¬∃ url, resolve "" client = .ok url := by simp [hrefused]
  have hrequested : requested ⟨[("state", "abcdefgh")]⟩ = .ok "" := by decide +kernel
  obtain ⟨fault, hfault, htarget⟩ := (resolution_exact "" client).2.2 hnot
  exact ⟨hnot, hrequested, fault, hfault, htarget _ hrequested⟩

/-- Where a target is resolved, the one registration that the request chose holds no `#`, in
whatever part of it, and neither does what is written of the URL. -/
theorem resolved_without_hash (h : resolve raw client = .ok url) :
    ∃ registered, Chosen raw client registered ∧
      (∀ other, Chosen raw client other → other = registered) ∧
      Url.parse registered = .ok url ∧ '#' ∉ registered.toList ∧ '#' ∉ url.render.toList := by
  obtain ⟨registered, hchosen, hparse, hhierarchical, hfragment⟩ := resolve_eq_ok_iff.mp h
  exact ⟨registered, hchosen, fun _ hother => hother.unique hchosen, hparse,
    (Url.fragment_eq_none_iff hparse).mp hfragment,
    Url.hash_not_mem_render hparse hhierarchical hfragment⟩

/-- An escaped `#` is none. -/
theorem resolved_without_hash_escaped :
    let registered := "com.example.app:/oauth2redirect?x=%23"
    let client : Client := ⟨"c1", "", [registered]⟩
    let url : Url := {
      scheme := "com.example.app", authority := none, path := .rooted ["oauth2redirect"]
      query := some "x=%23", fragment := none }
    resolve "" client = .ok url ∧
    ∃ registered, Chosen "" client registered ∧
      (∀ other, Chosen "" client other → other = registered) ∧
      Url.parse registered = .ok url ∧ '#' ∉ registered.toList ∧ '#' ∉ url.render.toList := by
  intro registered client url
  have hresolve : resolve "" client = .ok url := by decide +kernel
  exact ⟨hresolve, resolved_without_hash hresolve⟩

/-- A target is resolved to the URL that the chosen registration, as it stands, is read as.  What is
written of that URL is the registration, character by character, exactly where the registration is
canonical. -/
theorem resolved_as_registered_iff (h : resolve raw client = .ok url) :
    ∃ registered, Chosen raw client registered ∧
      (∀ other, Chosen raw client other → other = registered) ∧
      Url.parse registered = .ok url ∧
      (url.render = registered ↔ Url.IsCanonicalText registered) := by
  obtain ⟨registered, hchosen, hparse, hhierarchical, hfragment⟩ := resolve_eq_ok_iff.mp h
  exact ⟨registered, hchosen, fun _ hother => hother.unique hchosen, hparse,
    Url.render_eq_iff hparse hhierarchical hfragment⟩

/-- Of two registrations that are read as the same URL, the one that is named is chosen, and the one
without the scheme's own port is canonical. -/
theorem resolved_as_registered_iff_default_port :
    let raw := "https://app.example/cb"
    let client : Client := ⟨"c1", "", ["https://app.example:443/cb", raw]⟩
    let url : Url := {
      scheme := "https", authority := some ⟨"", "", some (.domain "app.example"), none⟩
      path := .rooted ["cb"], query := none, fragment := none }
    resolve raw client = .ok url ∧
    (∃ registered, Chosen raw client registered ∧
      (∀ other, Chosen raw client other → other = registered) ∧
      Url.parse registered = .ok url ∧
      (url.render = registered ↔ Url.IsCanonicalText registered)) ∧
    Url.IsCanonicalText raw := by
  intro raw client url
  have hresolve : resolve raw client = .ok url := by decide +kernel
  have hresolved := resolved_as_registered_iff hresolve
  have ⟨registered, _, hunique, _, hcanonical⟩ := hresolved
  have hnamed : raw = registered := hunique raw (.named (by decide) (by decide))
  have hwritten : url.render = raw := by decide +kernel
  exact ⟨hresolve, hresolved, hnamed ▸ hcanonical.mp (hwritten.trans hnamed)⟩

/-- A registration without a path is written with one. -/
theorem not_resolved_as_registered :
    ¬∀ raw client url registered, resolve raw client = .ok url →
      Chosen raw client registered → url.render = registered := by
  intro h
  let url : Url := {
    scheme := "https", authority := some ⟨"", "", some (.domain "app.example"), none⟩
    path := .rooted [""], query := none, fragment := none }
  have hresolve : resolve "" ⟨"c1", "", ["https://app.example"]⟩ = .ok url := by decide +kernel
  have hwritten := h "" _ url "https://app.example" hresolve (.only rfl rfl)
  exact absurd hwritten (by decide +kernel)

end OAuthEndpoint.RedirectTarget
