/-! Clients: the applications that may ask for authorization, and where each may be sent back to. -/

namespace OAuthEndpoint

structure Client where
  id : String
  /-- The name shown to people. -/
  name : String
  /-- The registered redirect URIs, in the order of registration. -/
  redirectUris : List String
deriving DecidableEq, Repr

namespace Client

inductive Fault where
  | emptyId
deriving DecidableEq, Repr

def Fault.message : Fault → String
  | .emptyId => "Client ID cannot be empty"

/-- Registrations are compared character by character. -/
def isRegistered (client : Client) (uri : String) : Bool := client.redirectUris.contains uri

def validate (client : Client) : Except Fault Unit :=
  if client.id = "" then .error .emptyId else .ok ()

end Client

end OAuthEndpoint
