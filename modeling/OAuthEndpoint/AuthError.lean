/-! Why an authorization request fails, and what of that is said on the wire.  The wire form depends
on the kind of the error alone, so no message reaches it. -/

namespace OAuthEndpoint

/-- An error of the authorization endpoint, with what the operator may know about it. -/
inductive AuthError where
  | invalidRequest (message : String)
  | invalidClient (message : String)
  | invalidState (message : String)
  /-- No handler served the requested response types. -/
  | noHandler
  | accessDenied (message : String)
  | storage (message : String)
deriving DecidableEq, Repr

namespace AuthError

inductive Kind where
  | invalidRequest
  | invalidClient
  | invalidState
  | noHandler
  | accessDenied
  | storage
deriving DecidableEq, Repr

def kind : AuthError → Kind
  | .invalidRequest _ => .invalidRequest
  | .invalidClient _ => .invalidClient
  | .invalidState _ => .invalidState
  | .noHandler => .noHandler
  | .accessDenied _ => .accessDenied
  | .storage _ => .storage

/-- The error as the operator reads it. -/
def message : AuthError → String
  | .invalidRequest message => "Invalid request: " ++ message
  | .invalidClient message => "Invalid client: " ++ message
  | .invalidState message => "Invalid state: " ++ message
  | .noHandler => "No response type handler found"
  | .accessDenied message => "Access denied: " ++ message
  | .storage message => "Storage error: " ++ message

/-- Only a failing store is the server's fault. -/
def isServerError (error : AuthError) : Bool := error.kind == .storage

def isClientError (error : AuthError) : Bool := !error.isServerError

namespace Kind

/-- The name of the error on the wire. -/
def code : Kind → String
  | .invalidRequest => "invalid_request"
  | .invalidClient => "invalid_client"
  | .invalidState => "invalid_state"
  | .noHandler => "unsupported_response_type"
  | .accessDenied => "access_denied"
  | .storage => "server_error"

def description : Kind → String
  | .invalidRequest => "The request is missing a required parameter, includes an invalid " ++
      "parameter value, or is otherwise malformed"
  | .invalidClient => "Client authentication failed (unknown client)"
  | .invalidState => "The state is missing or has less than 8 characters and is therefore " ++
      "considered too weak"
  | .noHandler => "The authorization server does not support obtaining a response using this " ++
      "response type"
  | .accessDenied => "The resource owner or authorization server denied the request"
  | .storage => "The authorization server encountered an unexpected condition that prevented it " ++
      "from fulfilling the request"

/-- The HTTP status of an error that is not sent by redirect. -/
def status : Kind → Nat
  | .invalidClient => 401
  | .accessDenied => 403
  | .storage => 500
  | .invalidRequest | .invalidState | .noHandler => 400

end Kind

end AuthError

/-- An error on the wire. -/
structure WireError where
  code : String
  description : String
  status : Nat
deriving DecidableEq, Repr

namespace WireError

def ofKind (kind : AuthError.Kind) : WireError := ⟨kind.code, kind.description, kind.status⟩

/-- The two parameters, or members of a JSON object, that carry the error. -/
def pairs (error : WireError) : List (String × String) :=
  [("error", error.code), ("error_description", error.description)]

def render (error : WireError) : String := error.code ++ ": " ++ error.description

end WireError

/-- The wire form of an error. -/
def AuthError.wire (error : AuthError) : WireError := .ofKind error.kind

end OAuthEndpoint
