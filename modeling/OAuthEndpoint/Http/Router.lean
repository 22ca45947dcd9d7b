import OAuthEndpoint.Endpoint
import OAuthEndpoint.Http.Message
import OAuthEndpoint.Json.Writer

/-! The endpoint behind HTTP.  It is served at one path; GET and HEAD requests and form posts reach
it, and its reply becomes a response. -/

namespace OAuthEndpoint.Http

namespace Response

/-- What is told of a location that no field can hold. -/
def unsendableEvent : Log.Event :=
  ⟨.error, "Redirect location is not a valid header value",
    [("error", .text "failed to parse header value")]⟩

/-- A reply as a response.  The target is the only `location`, whatever handlers wrote. -/
def ofReply : Reply → Logged Response
  | .redirect location headers =>
    if Headers.isFieldValue location.render then
      .silent ⟨302, headers.set "location" location.render, ""⟩
    else .raised unsendableEvent (bare 500)
  | .json error =>
    .silent ⟨error.status, .ofList [("content-type", "application/json")],
      Json.object error.pairs⟩

/-- The refusal of a body that is too long. -/
def bodyTooLong : Response :=
  ⟨413, .ofList [("content-type", "text/plain; charset=utf-8")],
    "Failed to buffer the request body: length limit exceeded"⟩

/-- The refusal of a method that the path does not serve. -/
def methodNotAllowed : Response := ⟨405, .ofList [("allow", "GET,HEAD,POST")], ""⟩

end Response

/-- The path of the authorization endpoint. -/
def authorizePath : String := "/oauth/authorize"

/-- The most bytes that a body may have. -/
def bodyLimit : Nat := 2 * 1024 * 1024

/-- Where a request goes. -/
inductive Route where
  | endpoint
  | bodyTooLong
  | methodNotAllowed
  /-- The target is no path from the root: an asterisk, or a host alone. -/
  | noPath
  | notFound
deriving DecidableEq, Repr

def Route.of (request : Request) : Route :=
  if request.target.path = authorizePath then
    if request.method ∈ ["GET", "HEAD", "POST"] then
      if request.body.length ≤ bodyLimit then .endpoint else .bodyTooLong
    else .methodNotAllowed
  else if request.target.path.toList.head? = some '/' then .notFound
  else .noPath

/-- The authorization request that an HTTP request carries. -/
def Request.inbound (request : Request) : InboundRequest :=
  { method := request.method, query := request.target.query, headers := request.headers,
    body := request.body }

/-- What goes out for a response of the served path, and for a target that is no path: its length is
told, and HEAD asks for no body. -/
def Request.deliver (request : Request) (response : Response) : Response :=
  if request.method = "HEAD" then response.withLength.withoutBody else response.withLength

/-- Serves a request.  One that brings no session has the default one. -/
def serve {Session : Type} [Inhabited Session] (endpoint : Endpoint Session) (request : Request)
    (session : Option Session) : Logged Response :=
  match Route.of request with
  | .endpoint =>
    ((endpoint.handle request.inbound (session.getD default)).bind Response.ofReply).map
      request.deliver
  | .bodyTooLong => .silent (request.deliver .bodyTooLong)
  | .methodNotAllowed => .silent (request.deliver .methodNotAllowed)
  | .noPath => .silent (request.deliver (.bare 404))
  | .notFound => .silent (.bare 404)

/-- The handlers that run on a request. -/
def invoked {Session : Type} [Inhabited Session] (endpoint : Endpoint Session) (request : Request)
    (session : Option Session) : List (Handler Session) :=
  match Route.of request with
  | .endpoint => endpoint.invoked request.inbound (session.getD default)
  | _ => []

end OAuthEndpoint.Http
