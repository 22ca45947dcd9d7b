import OAuthEndpoint.Http.Router
import OAuthEndpoint.Proofs.Endpoint.Location

/-! That replies can be sent.  A location takes in text that handlers and requesters choose, but what
is written of it holds visible characters alone: no such text ends the header line, starts a
fragment, or keeps the redirect from being sent (`locations_sendable`). -/

namespace OAuthEndpoint.Http

theorem Headers.isFieldValue_of_allVisible {text : String} (h : Url.AllVisible text) :
    isFieldValue text = true := by
  rw [isFieldValue, List.all_eq_true]
  intro c hc
  obtain ⟨hlow, hhigh, -⟩ := h c hc
  have hblank : ' ' ≤ c := UInt32.le_iff_toNat_le.mpr (by
    change 32 ≤ c.toNat
    omega)
  have hdelete : c ≠ '\x7f' := by
    rintro rfl
    exact absurd hhigh (by decide)
  simp [hblank, hdelete]

variable {Session : Type} {endpoint : Endpoint Session} {inbound : InboundRequest}
  {session : Session}

/-- A location that the endpoint redirects to is sent as it is written. -/
theorem Response.ofReply_of_redirect {location : Url} {headers : Headers}
    (h : (endpoint.handle inbound session).value = .redirect location headers) :
    ofReply (.redirect location headers) =
      .silent ⟨302, headers.set "location" location.render, ""⟩ := by
  have hvalue := Headers.isFieldValue_of_allVisible (Endpoint.allVisible_of_redirect h)
  rw [ofReply, if_pos hvalue]

theorem Response.events_ofReply_handle (endpoint : Endpoint Session) (inbound : InboundRequest)
    (session : Session) : (ofReply (endpoint.handle inbound session).value).events = [] := by
  cases hreply : (endpoint.handle inbound session).value with
  | redirect location headers =>
    rw [ofReply_of_redirect hreply]
    rfl
  | json error => rfl

theorem Response.status_ofReply_handle (endpoint : Endpoint Session) (inbound : InboundRequest)
    (session : Session) : (ofReply (endpoint.handle inbound session).value).value.status =
      (endpoint.handle inbound session).value.status := by
  cases hreply : (endpoint.handle inbound session).value with
  | redirect location headers =>
    rw [ofReply_of_redirect hreply]
    rfl
  | json error => rfl

/-! ### The response to a request -/

@[simp] theorem Request.status_deliver (request : Request) (response : Response) :
    (request.deliver response).status = response.status := by
  rw [deliver]
  split <;> rfl

variable [Inhabited Session] {request : Request} {extension : Option Session}

theorem value_serve_of_endpoint (h : Route.of request = .endpoint) :
    (serve endpoint request extension).value = request.deliver
      (Response.ofReply
        (endpoint.handle request.inbound (extension.getD default)).value).value := by
  rw [serve, h]
  rfl

theorem events_serve_of_endpoint (h : Route.of request = .endpoint) :
    (serve endpoint request extension).events =
      (endpoint.handle request.inbound (extension.getD default)).events := by
  rw [serve, h]
  simp only [Logged.events_map, Logged.events_bind, Response.events_ofReply_handle,
    List.append_nil]

theorem status_serve_of_endpoint (h : Route.of request = .endpoint) :
    (serve endpoint request extension).value.status =
      (endpoint.handle request.inbound (extension.getD default)).value.status := by
  rw [value_serve_of_endpoint h, Request.status_deliver, Response.status_ofReply_handle]

/-- The status of requests that are kept from the endpoint, which their route decides. -/
def Route.status? : Route → Option Nat
  | .endpoint => none
  | .bodyTooLong => some 413
  | .methodNotAllowed => some 405
  | .noPath | .notFound => some 404

theorem status_serve_of_route {status : Nat} (h : (Route.of request).status? = some status) :
    (serve endpoint request extension).value.status = status := by
  rw [serve]
  cases hroute : Route.of request with
  | endpoint =>
    rw [hroute] at h
    cases h
  | bodyTooLong | methodNotAllowed | noPath | notFound =>
    rw [hroute] at h
    cases h
    simp only [Logged.value_silent, Request.status_deliver]
    rfl

/-- No redirect of the endpoint is kept back, so nothing is answered as a fault of the server. -/
theorem status_serve_lt (endpoint : Endpoint Session) (request : Request)
    (extension : Option Session) : (serve endpoint request extension).value.status < 500 := by
  by_cases hroute : Route.of request = .endpoint
  · rw [status_serve_of_endpoint hroute]
    cases hreply : (endpoint.handle request.inbound (extension.getD default)).value with
    | redirect location headers => exact (by decide : 302 < 500)
    | json error =>
      obtain ⟨kind, hfault, rfl⟩ := Endpoint.handle_eq_json_iff.mp hreply
      rcases Endpoint.wire_of_unverified hfault with ⟨hstatus, -⟩ | ⟨hstatus, -⟩
      all_goals
        rw [Reply.status, hstatus]
        decide
  · cases hother : Route.of request with
    | endpoint => exact absurd hother hroute
    | bodyTooLong | methodNotAllowed | noPath | notFound =>
      rw [status_serve_of_route (congrArg Route.status? hother)]
      decide

/-- Whatever text comes from requesters and handlers, the location of a redirect is visible ASCII
without `#`, so that it is always sent. -/
theorem locations_sendable (endpoint : Endpoint Session) :
    (∀ inbound session location headers,
      (endpoint.handle inbound session).value = .redirect location headers →
      (∀ b ∈ location.render.toByteArray.data.toList, 0x21 ≤ b ∧ b ≤ 0x7E ∧ b ≠ 0x23) ∧
      Response.ofReply (.redirect location headers) =
        .silent ⟨302, headers.set "location" location.render, ""⟩) ∧
    ∀ request extension, (serve endpoint request extension).value.status ≠ 500 := by
  refine ⟨?_, fun request extension => Nat.ne_of_lt (status_serve_lt endpoint request extension)⟩
  intro inbound session location headers h
  exact ⟨(Endpoint.allVisible_of_redirect h).bytes, Response.ofReply_of_redirect h⟩

/-- A handler whose parameters would split the header line if they were written as they are. -/
def splitting : Endpoint Unit where
  service := Endpoint.straying.service
  chain := ⟨[{
    name := "split"
    run := fun request _ _ _ =>
      (⟨[("code\r\n", "a b\x00#"), ("state", request.state)], []⟩, .ok .handled) }]⟩

theorem locations_sendable_splitting :
    let inbound := InboundRequest.ofQuery
      "client_id=c1&redirect_uri=https%3A%2F%2Fapp.example%2Fother&state=%0D%0ASet-Cookie:+a"
    let location : Url := {
      scheme := "https", authority := some ⟨"", "", some (.domain "app.example"), none⟩
      path := .rooted ["other"]
      query := some "code%0D%0A=a+b%00%23&state=%0D%0ASet-Cookie%3A+a", fragment := none }
    (splitting.handle inbound ()).value = .redirect location .empty ∧
    (∀ b ∈ location.render.toByteArray.data.toList, 0x21 ≤ b ∧ b ≤ 0x7E ∧ b ≠ 0x23) ∧
    Response.ofReply (.redirect location .empty) =
      .silent ⟨302, .ofList [("location", location.render)], ""⟩ := by
  intro inbound location
  have hvalue : (splitting.handle inbound ()).value = .redirect location .empty := by
    decide +kernel
  obtain ⟨hbytes, hsilent⟩ := (locations_sendable splitting).1 inbound () location .empty hvalue
  exact ⟨hvalue, hbytes, hsilent⟩

end OAuthEndpoint.Http
