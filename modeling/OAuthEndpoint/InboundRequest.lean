import OAuthEndpoint.AuthError
import OAuthEndpoint.Form
import OAuthEndpoint.Http.Headers
import OAuthEndpoint.Parameters

/-! An authorization request as it arrives, before any check, and the parameters it carries: those
of a form encoded body, then those of the query. -/

namespace OAuthEndpoint

structure InboundRequest where
  method : String
  /-- The query of the request's target, still encoded. -/
  query : Option String
  headers : Http.Headers
  body : List UInt8
deriving DecidableEq, Repr

namespace InboundRequest

def formType : String := "application/x-www-form-urlencoded"

/-- A request with its parameters in the query. -/
def ofQuery (query : String) : InboundRequest :=
  { method := "GET", query := some query, headers := .empty, body := [] }

/-- A request with its parameters in a form encoded body. -/
def ofForm (body : List UInt8) : InboundRequest :=
  { method := "POST", query := none, headers := Http.Headers.ofList [("content-type", formType)],
    body }

def isBlank (c : Char) : Bool := c == ' ' || c == '\t'

/-- Printable ASCII and tabs: a field value with any other character is no text. -/
def isFieldText (value : String) : Bool :=
  value.toList.all fun c => (' ' ≤ c && c ≤ '~') || c == '\t'

/-- A content type names form encoding before its parameters, in any letter case. -/
def isFormType (contentType : String) : Bool :=
  isFieldText contentType &&
    Text.sameLetters
      (String.ofList (Text.trim isBlank (Text.cut (· == ';') contentType.toList).1)) formType

/-- Whether the body holds parameters. -/
def hasFormBody (request : InboundRequest) : Bool :=
  (request.method == "POST" || request.method == "PUT" || request.method == "PATCH") &&
    ((request.headers.get? "content-type").map isFormType).getD false

/-- The pairs of the body, none where it holds no parameters. -/
def bodyPairs (request : InboundRequest) : Except Form.Fault (List (String × String)) :=
  if request.hasFormBody then
    match Text.Utf8.decode? request.body with
    | some text => Form.parse (String.ofList text)
    | none => .error .bodyNotUtf8
  else .ok []

/-- The pairs of the query. -/
def queryPairs (request : InboundRequest) : Except Form.Fault (List (String × String)) :=
  match request.query with
  | some query => Form.parse query
  | none => .ok []

/-- The parameters of the request: those of the body come first and so count. -/
def parameters (request : InboundRequest) : Except Form.Fault Parameters := do
  let inBody ← request.bodyPairs
  let inQuery ← request.queryPairs
  return ⟨inBody ++ inQuery⟩

end InboundRequest

end OAuthEndpoint
