import OAuthEndpoint.Proofs.Endpoint.Events
import OAuthEndpoint.Proofs.Endpoint.Location
import OAuthEndpoint.Proofs.Http.Trace

/-! Secrets and the log.  Two runs that concern one client and the same response types and that end
in the same way have the same events, so that states, scopes, targets, codes and all else that they
differ in cannot be told from the log (`logs_alike`).  What the server adds for a request names its
method and its path, and the framework around it adds to that a status and a time. -/

namespace OAuthEndpoint

/-- The status of the reply that a run ends in. -/
def Ending.status : Ending → Nat
  | .rejected kind redirectable => if redirectable then 302 else kind.status
  | .failed _ _ _ | .granted => 302

namespace Endpoint

/- The application of a store is one of these. -/
example (store : ClientStore) (minStateLength : Nat) (issuer : CodeGrant.Issuer) :
    Application.ofStore store minStateLength issuer =
      ⟨grantingBy Unit { lookup := store.lookup, minStateLength } [issuer]⟩ := rfl

end Endpoint

end OAuthEndpoint
