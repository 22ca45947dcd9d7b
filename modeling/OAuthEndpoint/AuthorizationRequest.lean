import OAuthEndpoint.ClientStore
import OAuthEndpoint.InboundRequest
import OAuthEndpoint.Log.Event
import OAuthEndpoint.RedirectTarget
import OAuthEndpoint.TokenSet

/-! Authorization requests that passed every check, and the service that makes them.  The checks
come in one order and the first that fails ends the work; a rejection keeps the redirect target
where that was already verified. -/

namespace OAuthEndpoint

/-- An accepted request.  The time at which it came is no part of it: nothing here reads a clock. -/
structure AuthorizationRequest where
  client : Client
  /-- The verified target of the answer. -/
  redirectUri : Url
  responseTypes : TokenSet
  state : String
  scopes : TokenSet
  /-- All parameters, for handlers that read more of them. -/
  params : Parameters
deriving DecidableEq, Repr

/-- A request that failed a check. -/
structure Rejection where
  error : AuthError
  /-- The target that the error may be sent to. -/
  redirectUri : Option Url
deriving DecidableEq, Repr

namespace Rejection

/-- A rejection from before the target was verified. -/
def ofError (error : AuthError) : Rejection := ⟨error, none⟩

def isRedirectable (rejection : Rejection) : Bool := rejection.redirectUri.isSome

end Rejection

/-- What a request is checked against. -/
structure AuthorizationService where
  lookup : ClientLookup
  minStateLength : Nat

namespace AuthorizationService

/-- The error of text that is no form. -/
def formError (fault : Form.Fault) : AuthError := .invalidRequest fault.message

/-- The client of an id.  A failing store and an unknown client look alike to the requester. -/
def findClient (service : AuthorizationService) (id : String) :
    Logged (Except AuthError Client) :=
  match service.lookup id with
  | .ok (some client) => .silent (.ok client)
  | .ok none => .silent (.error (.invalidClient "Unknown client"))
  | .error error =>
    .raised ⟨.warn, "Client lookup failed",
      [("client_id", .text id), ("error", .text error.message)]⟩
      (.error (.invalidClient "Client lookup failed"))

/-- The verified target of the answer. -/
def target (params : Parameters) (client : Client) : Except AuthError Url :=
  match RedirectTarget.requested params with
  | .error fault => .error (formError fault)
  | .ok raw =>
    match RedirectTarget.resolve raw client with
    | .error fault => .error (.invalidRequest fault.message)
    | .ok url => .ok url

/-- A state must be there and long enough that nobody guesses it. -/
def checkState (service : AuthorizationService) (state : String) : Except AuthError Unit :=
  if state = "" then .error (.invalidState "Missing state parameter")
  else if state.length < service.minStateLength then
    .error (.invalidState ("State parameter is too short (minimum " ++
      toString service.minStateLength ++ " characters, got " ++ toString state.length ++ ")"))
  else .ok ()

/-- The checks that come once the client is known. -/
def buildFor (service : AuthorizationService) (params : Parameters) (client : Client) :
    Except Rejection AuthorizationRequest :=
  match target params client with
  | .error error => .error (.ofError error)
  | .ok redirectUri =>
    match service.checkState (params.get "state") with
    | .error error => .error ⟨error, some redirectUri⟩
    | .ok () => .ok {
        client, redirectUri
        responseTypes := .parse (params.get "response_type")
        state := params.get "state"
        scopes := .parse (params.get "scope")
        params }

/-- Checks a request: its form, its client, its target and its state, in this order. -/
def build (service : AuthorizationService) (inbound : InboundRequest) :
    Logged (Except Rejection AuthorizationRequest) :=
  match inbound.parameters with
  | .error fault => .silent (.error (.ofError (formError fault)))
  | .ok params =>
    (service.findClient (params.get "client_id")).bind fun found =>
      match found with
      | .error error => .silent (.error (.ofError error))
      | .ok client => .silent (service.buildFor params client)

end AuthorizationService

end OAuthEndpoint
