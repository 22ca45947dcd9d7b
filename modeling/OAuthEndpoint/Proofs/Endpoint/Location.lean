import OAuthEndpoint.Proofs.Endpoint.Replies
import OAuthEndpoint.Proofs.Url.Parser
import OAuthEndpoint.Proofs.Url.Query
import Mathlib.Control.Monad.Basic

/-! Where redirects go.  Whatever the request, the store and the handlers, a redirect leads to a
registration that the request chose, with nothing but text of the query added to it: there is no
open redirect.  It is written in visible characters alone, whatever the added text is. -/

namespace OAuthEndpoint

/-- A registration that a request may be answered to, with all that makes it so. -/
structure Destination (service : AuthorizationService) (inbound : InboundRequest) where
  params : Parameters
  client : Client
  /-- What the request names, empty where it names nothing. -/
  raw : String
  registered : String
  url : Url
  form : inbound.parameters = .ok params
  known : service.lookup (params.get "client_id") = .ok (some client)
  requested : RedirectTarget.requested params = .ok raw
  mem : registered ∈ client.redirectUris
  chosen : registered = raw ∨ raw = "" ∧ client.redirectUris = [registered]
  parsed : Url.parse registered = .ok url
  hierarchical : url.isHierarchical = true
  noFragment : url.fragment = none

theorem AuthorizationService.Verified.destination {service : AuthorizationService}
    {inbound : InboundRequest} {params : Parameters} {client : Client} {url : Url}
    (h : service.Verified inbound params client url) :
    ∃ destination : Destination service inbound, destination.url = url := by
  obtain ⟨raw, hraw, hresolve⟩ := h.target
  obtain ⟨registered, hchosen, hparse, hhierarchical, hfragment⟩ :=
    RedirectTarget.resolve_eq_ok_iff.mp hresolve
  exact ⟨{
    params, client, raw, registered, url
    form := h.form
    known := h.known
    requested := hraw
    mem := hchosen.mem
    chosen := hchosen.eq_or_only
    parsed := hparse
    hierarchical := hhierarchical
    noFragment := hfragment }, rfl⟩

namespace Endpoint

/-- Every redirect, of a grant or of an error, goes to a registration of the client. -/
theorem redirect_to_destination {Session : Type} (endpoint : Endpoint Session)
    (inbound : InboundRequest) (session : Session) {location : Url} {headers : Http.Headers}
    (h : (endpoint.handle inbound session).value = .redirect location headers) :
    ∃ destination : Destination endpoint.service inbound, destination.url.Extends location := by
  obtain ⟨params, client, url, pairs, hverified, rfl⟩ := handle_eq_redirect h
  obtain ⟨destination, rfl⟩ := hverified.destination
  exact ⟨destination, Url.extends_appendPairs destination.noFragment pairs⟩

theorem allVisible_of_redirect {Session : Type} {endpoint : Endpoint Session}
    {inbound : InboundRequest} {session : Session} {location : Url} {headers : Http.Headers}
    (h : (endpoint.handle inbound session).value = .redirect location headers) :
    Url.AllVisible location.render := by
  obtain ⟨params, client, url, pairs, hverified, rfl⟩ := handle_eq_redirect h
  obtain ⟨destination, rfl⟩ := hverified.destination
  have hwritten := (Url.written_of_parse destination.parsed).appendPairs pairs
  exact hwritten.allVisible_render destination.hierarchical destination.noFragment

/-- One client, and a handler that grants but writes a location of its own. -/
def straying : Endpoint Unit where
  service := {
    lookup := fun id => .ok (if id = "c1" then
      some ⟨"c1", "", ["https://app.example/cb?tenant=a", "https://app.example/other"]⟩ else none)
    minStateLength := 8 }
  chain := ⟨[{
    name := "stray"
    run := fun _ _ _ _ =>
      (⟨[("code", "a b")], [("location", "https://evil.example/cb")]⟩, .ok .handled) }]⟩

/-- The location that a handler writes is a header like any other. -/
theorem redirect_to_destination_straying :
    let inbound := InboundRequest.ofQuery
      "client_id=c1&state=abcdefgh&redirect_uri=https%3A%2F%2Fapp.example%2Fcb%3Ftenant%3Da"
    let location : Url := {
      scheme := "https", authority := some ⟨"", "", some (.domain "app.example"), none⟩
      path := .rooted ["cb"], query := some "tenant=a&code=a+b", fragment := none }
    (straying.handle inbound ()).value =
      .redirect location ⟨[("location", "https://evil.example/cb")]⟩ ∧
    location.render = "https://app.example/cb?tenant=a&code=a+b" ∧
    ∃ destination : Destination straying.service inbound, destination.url.Extends location := by
  intro inbound location
  have hvalue : (straying.handle inbound ()).value =
      .redirect location ⟨[("location", "https://evil.example/cb")]⟩ := by
    decide +kernel
  exact ⟨hvalue, by decide +kernel, redirect_to_destination straying inbound () hvalue⟩

end Endpoint

end OAuthEndpoint
