import OAuthEndpoint.AuthorizationRequest
import OAuthEndpoint.Response

/-! Handlers of response types and the chain that runs them.  Every handler runs, in order, and
sees what those before it wrote; the first error ends the chain, and a chain in which no handler
served the request fails. -/

namespace OAuthEndpoint

inductive Outcome where
  /-- The handler served the requested response types, or part of them. -/
  | handled
  | notResponsible
deriving DecidableEq, Repr

def Outcome.name : Outcome → String
  | .handled => "Handled"
  | .notResponsible => "NotResponsible"

/-- A handler reads the request and the response so far, and says what it adds and how it ended.
`Session` is the caller's own and passes through untouched. -/
structure Handler (Session : Type) where
  name : String
  run : AuthorizationRequest → InboundRequest → Session → Response →
    Contribution × Except AuthError Outcome

namespace Handler

def finished {Session : Type} (handler : Handler Session) (outcome : Outcome) : Log.Event :=
  ⟨.trace, "Response type handler finished",
    [("handler", .text handler.name), ("outcome", .text outcome.name)]⟩

def aborted {Session : Type} (handler : Handler Session) (error : AuthError) : Log.Event :=
  ⟨.debug, "Response type handler aborted dispatch",
    [("handler", .text handler.name), ("error", .text error.kind.code)]⟩

end Handler

/-- Handlers in the order in which they run. -/
structure Chain (Session : Type) where
  handlers : List (Handler Session)

namespace Chain

variable {Session : Type}

def empty : Chain Session := ⟨[]⟩

/-- The chain with a handler of its own at its end. -/
def withHandler (chain : Chain Session) (handler : Handler Session) : Chain Session :=
  ⟨chain.handlers ++ [handler]⟩

/-- The chain with a handler at its end that others may share. -/
def register (chain : Chain Session) (handler : Handler Session) : Chain Session :=
  ⟨chain.handlers ++ [handler]⟩

def names (chain : Chain Session) : List String := chain.handlers.map Handler.name

def size (chain : Chain Session) : Nat := chain.handlers.length

def isEmpty (chain : Chain Session) : Bool := chain.handlers.isEmpty

/-- Runs handlers on the response so far; `served` says whether one before them served the
request. -/
def runFrom (request : AuthorizationRequest) (inbound : InboundRequest) (session : Session) :
    List (Handler Session) → Response → Bool → Logged (Except AuthError Response)
  | [], response, served => .silent (if served then .ok response else .error .noHandler)
  | handler :: handlers, response, served =>
    match handler.run request inbound session response with
    | (_, .error error) => .raised (handler.aborted error) (.error error)
    | (contribution, .ok outcome) =>
      (runFrom request inbound session handlers (response.add contribution)
        (served || outcome == .handled)).after (handler.finished outcome)

/-- Runs the whole chain on an empty response. -/
def dispatch (chain : Chain Session) (request : AuthorizationRequest) (inbound : InboundRequest)
    (session : Session) : Logged (Except AuthError Response) :=
  runFrom request inbound session chain.handlers .empty false

/-- The handlers that run, up to the first that fails. -/
def invokedFrom (request : AuthorizationRequest) (inbound : InboundRequest) (session : Session) :
    List (Handler Session) → Response → List (Handler Session)
  | [], _ => []
  | handler :: handlers, response =>
    match handler.run request inbound session response with
    | (_, .error _) => [handler]
    | (contribution, .ok _) =>
      handler :: invokedFrom request inbound session handlers (response.add contribution)

def invoked (chain : Chain Session) (request : AuthorizationRequest) (inbound : InboundRequest)
    (session : Session) : List (Handler Session) :=
  invokedFrom request inbound session chain.handlers .empty

end Chain

end OAuthEndpoint
