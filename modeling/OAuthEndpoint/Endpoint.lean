import OAuthEndpoint.Dispatch
import OAuthEndpoint.Reply

/-! The authorization endpoint: checks a request, runs the chain on it and writes the reply.  Every
error ends in a reply, and what happened is in the events. -/

namespace OAuthEndpoint

structure Endpoint (Session : Type) where
  service : AuthorizationService
  chain : Chain Session

namespace Endpoint

variable {Session : Type}

def rejectedEvent (rejection : Rejection) : Log.Event :=
  ⟨.debug, "Authorization request rejected",
    [("error", .text rejection.error.kind.code), ("redirect", .flag rejection.isRedirectable)]⟩

def grantedEvent (request : AuthorizationRequest) : Log.Event :=
  ⟨.info, "Authorization request granted",
    [("client_id", .text request.client.id),
      ("response_types", .text request.responseTypes.render)]⟩

/-- Only the server's own errors are told in full. -/
def failedEvent (request : AuthorizationRequest) (error : AuthError) : Log.Event :=
  ⟨if error.isServerError then .error else .debug, "Response type dispatch failed",
    [("client_id", .text request.client.id),
      ("error", .text (if error.isServerError then error.message else error.kind.code))]⟩

/-- Answers a request that passed its checks. -/
def answer (endpoint : Endpoint Session) (request : AuthorizationRequest)
    (inbound : InboundRequest) (session : Session) : Logged Reply :=
  (endpoint.chain.dispatch request inbound session).bind fun result =>
    match result with
    | .ok response => .raised (grantedEvent request) (.success request response)
    | .error error =>
      .raised (failedEvent request error) (.failure (some request.redirectUri) error)

/-- Answers any request. -/
def handle (endpoint : Endpoint Session) (inbound : InboundRequest) (session : Session) :
    Logged Reply :=
  (endpoint.service.build inbound).bind fun built =>
    match built with
    | .error rejection => .raised (rejectedEvent rejection) (.ofRejection rejection)
    | .ok request => endpoint.answer request inbound session

/-- The handlers that run on a request. -/
def invoked (endpoint : Endpoint Session) (inbound : InboundRequest) (session : Session) :
    List (Handler Session) :=
  match (endpoint.service.build inbound).value with
  | .error _ => []
  | .ok request => endpoint.chain.invoked request inbound session

end Endpoint

end OAuthEndpoint
