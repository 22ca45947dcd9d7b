import OAuthEndpoint.Http.Headers
import OAuthEndpoint.Text.Pieces
import OAuthEndpoint.Text.Utf8

/-! HTTP requests and responses, as far as a route and a reply depend on them. -/

namespace OAuthEndpoint.Http

open Text

/-- What a request asks for: a path, still encoded, and a query where there is a `?`. -/
structure Target where
  path : String
  query : Option String
deriving DecidableEq, Repr

namespace Target

/-- Whether a character may stand in the scheme of a target that is a whole URL. -/
def isSchemeChar (c : Char) : Bool := c.isAlphanum || c == '+' || c == '-' || c == '.'

/-- A path and a query as they stand in a target. -/
def ofPath (text : List Char) : Target :=
  let (path, query) := cut (· == '?') text
  { path := String.ofList path, query := query.map String.ofList }

/-- The path and query after a host, where an empty path means the root. -/
def ofPathAfterHost (text : List Char) : Target :=
  if text.head? = some '/' then ofPath text else ofPath ('/' :: text)

/-- Reads a target: what follows a `#` does not count.  A target may be a path, a whole URL, the
asterisk, or a host alone, which has no path. -/
def parse (text : String) : Target :=
  let text := (cut (· == '#') text.toList).1
  if text.head? = some '/' || text = ['*'] then ofPath text
  else match after? [':', '/', '/'] (text.dropWhile isSchemeChar) with
    | some rest => ofPathAfterHost (rest.dropWhile fun c => !(c == '/' || c == '?'))
    | none => ⟨"", none⟩

end Target

structure Request where
  method : String
  target : Target
  headers : Headers
  body : List UInt8
deriving DecidableEq, Repr

structure Response where
  status : Nat
  headers : Headers
  body : String
deriving DecidableEq, Repr

namespace Response

/-- A response of a status alone. -/
def bare (status : Nat) : Response := ⟨status, .empty, ""⟩

/-- The number of bytes of the body. -/
def size (response : Response) : Nat := response.body.utf8ByteSize

/-- The response with the length of its body in the header, unless a length is there already. -/
def withLength (response : Response) : Response :=
  { response with
    headers := response.headers.setDefault "content-length" (toString response.size) }

/-- The response without its body, whose length stays in the header. -/
def withoutBody (response : Response) : Response := { response with body := "" }

end Response

end OAuthEndpoint.Http
