import OAuthEndpoint.Client
import OAuthEndpoint.Parameters
import OAuthEndpoint.Url.Parser

/-! Where a user agent may be sent: the `redirect_uri` of a request is compared with the client's
registrations character by character, and the one that is chosen must be a hierarchical URL with no
fragment.  Registration exempts no URI from that. -/

namespace OAuthEndpoint.RedirectTarget

inductive Fault where
  | notChosen
  | notRegistered
  | malformed (fault : Url.Fault)
  | notRedirectable
deriving DecidableEq, Repr

def Fault.message : Fault → String
  | .notChosen => "redirect_uri is required when the client has not registered exactly one"
  | .notRegistered => "redirect_uri is not registered for this client"
  | .malformed fault => "redirect_uri is malformed: " ++ fault.message
  | .notRedirectable => "redirect_uri must be an absolute hierarchical URI without a fragment"

/-- The requested URI, unescaped once more after form decoding, since the target of the request may
carry an encoded query of its own. -/
def requested (params : Parameters) : Except Form.Fault String :=
  Form.unescape (params.get "redirect_uri")

/-- A fragment excludes a URL even where it is empty. -/
def isRedirectable (url : Url) : Bool := url.isHierarchical && url.fragment.isNone

/-- The registration that a request chooses: the only one by saying nothing, or the one it names. -/
def choose (raw : String) (client : Client) : Except Fault String :=
  if raw = "" then
    match client.redirectUris with
    | [only] => .ok only
    | _ => .error .notChosen
  else if client.isRegistered raw then .ok raw
  else .error .notRegistered

/-- The URL that a request may be answered to. -/
def resolve (raw : String) (client : Client) : Except Fault Url :=
  match choose raw client with
  | .error fault => .error fault
  | .ok chosen =>
    match Url.parse chosen with
    | .error fault => .error (.malformed fault)
    | .ok url => if isRedirectable url then .ok url else .error .notRedirectable

end OAuthEndpoint.RedirectTarget
