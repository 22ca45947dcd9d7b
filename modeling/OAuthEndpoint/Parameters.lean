/-! The decoded parameters of a request.  A name may have many values; the first one counts. -/

namespace OAuthEndpoint

structure Parameters where
  pairs : List (String × String)
deriving DecidableEq, Repr

namespace Parameters

/-- The first value of a name, or the empty text. -/
def get (params : Parameters) (name : String) : String :=
  ((params.pairs.find? (·.1 == name)).map (·.2)).getD ""

def getAll (params : Parameters) (name : String) : List String :=
  (params.pairs.filter (·.1 == name)).map (·.2)

def isEmpty (params : Parameters) : Bool := params.pairs.isEmpty

end Parameters

end OAuthEndpoint
