import OAuthEndpoint.CodeGrant
import OAuthEndpoint.Http.Trace
import OAuthEndpoint.Settings.Basic

/-! The application that the server runs: the endpoint with the clients of the settings and the
authorization code grant, and a span in the log around each request. -/

namespace OAuthEndpoint

structure Application where
  endpoint : Endpoint Unit

namespace Application

/-- Why an application cannot be built. -/
inductive Fault where
  | client (fault : Client.Fault)
deriving DecidableEq, Repr

def Fault.message : Fault → String
  | .client fault => "client registration error: " ++ fault.message

def seededEvent (store : ClientStore) : Log.Event :=
  ⟨.info, "Client store seeded", [("clients", .number store.size)]⟩

/-- The application that serves from a store. -/
def ofStore (store : ClientStore) (minStateLength : Nat) (issuer : CodeGrant.Issuer) :
    Application where
  endpoint := {
    service := { lookup := store.lookup, minStateLength }
    chain := Chain.empty.withHandler (CodeGrant.handler Unit issuer) }

/-- The application of settings, which need not have been checked. -/
def ofSettings (settings : Settings) (issuer : CodeGrant.Issuer) :
    Except Fault (Logged Application) :=
  match ClientStore.ofClients settings.clients with
  | .error fault => .error (.client fault)
  | .ok store =>
    .ok (.raised (seededEvent store) (ofStore store settings.authorize.minStateLength issuer))

/-- The span of a request.  It names the path alone, since the query holds secrets. -/
def span (request : Http.Request) : Log.Entry :=
  .span .info "http.request"
    [("method", .text request.method), ("path", .text request.target.path)]

/-- Serves a request.  The log of it depends on how many milliseconds that takes. -/
def serve (application : Application) (request : Http.Request) :
    (Nat → List Log.Record) × Http.Response :=
  let served := Http.serve application.endpoint request none
  ((Http.TraceLayer.withSpan span).trace request (Http.innerRecords request served.events)
    served.value, served.value)

end Application

end OAuthEndpoint
