import OAuthEndpoint.AuthorizationRequest
import OAuthEndpoint.Response

/-! What the endpoint answers: a redirect with parameters added to the target's query, or a JSON
body where no target could be verified. -/

namespace OAuthEndpoint

inductive Reply where
  | redirect (location : Url) (headers : Http.Headers)
  | json (error : WireError)
deriving DecidableEq, Repr

namespace Reply

def status : Reply → Nat
  | .redirect _ _ => 302
  | .json error => error.status

def location? : Reply → Option Url
  | .redirect location _ => some location
  | .json _ => none

/-- The answer to a request that was served. -/
def success (request : AuthorizationRequest) (response : Response) : Reply :=
  .redirect (request.redirectUri.appendPairs response.query) response.headers

/-- The answer to an error: sent to a verified target, or else shown to the user agent. -/
def failure (redirectUri : Option Url) (error : AuthError) : Reply :=
  match redirectUri with
  | some url => .redirect (url.appendPairs error.wire.pairs) .empty
  | none => .json error.wire

def ofRejection (rejection : Rejection) : Reply := failure rejection.redirectUri rejection.error

end Reply

end OAuthEndpoint
