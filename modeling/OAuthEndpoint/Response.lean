import OAuthEndpoint.Http.Headers

/-! The answer to a request while handlers fill it.  It only grows: a `Contribution` is added after
what others wrote. -/

namespace OAuthEndpoint

/-- The query parameters and header fields that one handler adds. -/
structure Contribution where
  query : List (String × String) := []
  headers : List (String × String) := []
deriving DecidableEq, Repr

structure Response where
  query : List (String × String)
  headers : Http.Headers
deriving DecidableEq, Repr

namespace Response

def empty : Response := ⟨[], .empty⟩

def addQuery (response : Response) (key value : String) : Response :=
  { response with query := response.query ++ [(key, value)] }

def addHeader (response : Response) (name value : String) : Response :=
  { response with headers := response.headers.append name value }

/-- The response with a contribution after all that it holds. -/
def add (response : Response) (contribution : Contribution) : Response :=
  ⟨response.query ++ contribution.query, response.headers.appendAll contribution.headers⟩

/-- Every value of a query parameter. -/
def queryValues (response : Response) (key : String) : List String :=
  (response.query.filter (·.1 == key)).map (·.2)

end Response

end OAuthEndpoint
