import OAuthEndpoint.Form
import OAuthEndpoint.Net.Ipv6

/-! Absolute URLs as they are once read: every part is already in its written form, so `render`
only joins them.  `appendPairs` adds form encoded pairs to the query and touches nothing else. -/

namespace OAuthEndpoint

namespace Url

/-- Who answers: a registered name, or an address. -/
inductive Host where
  | domain (name : String)
  | ipv4 (address : Net.Ipv4)
  | ipv6 (address : Net.Ipv6)
deriving DecidableEq, Repr

def Host.render : Host → String
  | .domain name => name
  | .ipv4 address => address.render
  | .ipv6 address => "[" ++ address.render ++ "]"

/-- What stands after `//`.  An empty user name or password is an absent one. -/
structure Authority where
  username : String
  password : String
  host : Option Host
  port : Option UInt16
deriving DecidableEq, Repr

namespace Authority

def renderUserinfo (authority : Authority) : String :=
  if authority.username = "" ∧ authority.password = "" then ""
  else if authority.password = "" then authority.username ++ "@"
  else authority.username ++ ":" ++ authority.password ++ "@"

def render (authority : Authority) : String :=
  "//" ++ authority.renderUserinfo ++ (authority.host.map Host.render).getD "" ++
    (authority.port.map fun port => ":" ++ toString port).getD ""

end Authority

/-- A path is a list of segments with a slash before each, or text that starts with no slash and has
no inner structure. -/
inductive Path where
  | rooted (segments : List String)
  | rootless (text : String)
deriving DecidableEq, Repr

def Path.render : Path → String
  | .rooted segments => String.join (segments.map ("/" ++ ·))
  | .rootless text => text

end Url

structure Url where
  scheme : String
  authority : Option Url.Authority
  path : Url.Path
  query : Option String
  fragment : Option String
deriving DecidableEq, Repr

namespace Url

/-- Without an authority, a path that starts with two slashes is written after `/.`, since it would
be read as an authority. -/
def renderAuthority (url : Url) : String :=
  match url.authority, url.path with
  | some authority, _ => authority.render
  | none, .rooted ("" :: _ :: _) => "/."
  | none, _ => ""

/-- All that stands before the query. -/
def renderBase (url : Url) : String :=
  url.scheme ++ ":" ++ url.renderAuthority ++ url.path.render

def render (url : Url) : String :=
  url.renderBase ++ (url.query.map ("?" ++ ·)).getD "" ++ (url.fragment.map ("#" ++ ·)).getD ""

/-- A hierarchical URL has an authority or a path that starts with a slash. -/
def isHierarchical (url : Url) : Bool :=
  match url.path with
  | .rooted _ => true
  | .rootless _ => false

/-- The pairs that the query holds when it is read as form encoded text. -/
def queryPairs (url : Url) : List (String × String) := Form.pairs (url.query.getD "").toList

/-- The query with pairs added at its end; no pairs leave it as it is, absent or not. -/
def extendQuery (query : Option String) (pairs : List (String × String)) : Option String :=
  if pairs.isEmpty then query
  else match query with
    | none => some (Form.serialize pairs)
    | some text =>
      if text.isEmpty then some (Form.serialize pairs) else some (text ++ "&" ++ Form.serialize pairs)

def appendPairs (url : Url) (pairs : List (String × String)) : Url :=
  { url with query := extendQuery url.query pairs }

@[simp] theorem appendPairs_nil (url : Url) : url.appendPairs [] = url := rfl

end Url

end OAuthEndpoint
