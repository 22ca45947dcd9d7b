import OAuthEndpoint.Proofs.Http.Headers
import OAuthEndpoint.Proofs.Http.Sendable

/-! Where a response sends the user agent: to the target of the endpoint's redirect and nowhere else,
whatever the route, the method and the headers of handlers (`location?_serve_eq_some_iff`). -/

namespace OAuthEndpoint.Http

/-- What the field `location` of a response says. -/
def Response.location? (response : Response) : Option String := response.headers.get? "location"

theorem Response.location?_ofReply_handle {Session : Type} (endpoint : Endpoint Session)
    (inbound : InboundRequest) (session : Session) :
    (ofReply (endpoint.handle inbound session).value).value.location? =
      (endpoint.handle inbound session).value.location?.map Url.render := by
  cases hreply : (endpoint.handle inbound session).value with
  | redirect location headers =>
    rw [ofReply_of_redirect hreply]
    exact headers.get?_set "location" location.render
  | json error => rfl

theorem Response.location?_withLength (response : Response) :
    response.withLength.location? = response.location? :=
  Headers.get?_setDefault_of_ne (by decide) response.headers _

theorem Request.location?_deliver (request : Request) (response : Response) :
    (request.deliver response).location? = response.location? := by
  rw [deliver]
  by_cases hhead : request.method = "HEAD"
  · rw [if_pos hhead]
    exact response.location?_withLength
  · rw [if_neg hhead]
    exact response.location?_withLength

variable {Session : Type} [Inhabited Session] {endpoint : Endpoint Session} {request : Request}
  {session : Option Session}

/-- A request that is kept from the endpoint is sent nowhere. -/
theorem location?_serve_of_ne_endpoint (h : Route.of request ≠ .endpoint) :
    (serve endpoint request session).value.location? = none := by
  rw [serve]
  cases hroute : Route.of request with
  | endpoint => exact absurd hroute h
  | bodyTooLong => exact request.location?_deliver .bodyTooLong
  | methodNotAllowed => exact request.location?_deliver .methodNotAllowed
  | noPath => exact request.location?_deliver (.bare 404)
  | notFound => rfl

theorem location?_serve_eq_some_iff {text : String} :
    (serve endpoint request session).value.location? = some text ↔
      Route.of request = .endpoint ∧ ∃ location headers,
        (endpoint.handle request.inbound (session.getD default)).value =
          .redirect location headers ∧ location.render = text := by
  by_cases hroute : Route.of request = .endpoint
  · rw [value_serve_of_endpoint hroute, request.location?_deliver,
      Response.location?_ofReply_handle, Option.map_eq_some_iff]
    cases hreply : (endpoint.handle request.inbound (session.getD default)).value with
    | redirect location headers => simp [hroute, Reply.location?]
    | json error => simp [Reply.location?]
  · rw [location?_serve_of_ne_endpoint hroute]
    simp [hroute]

end OAuthEndpoint.Http
