import OAuthEndpoint.Text.Ascii

/-! Header fields in the order in which they were added.  Names are kept in lower case, and a name
may have many values. -/

namespace OAuthEndpoint.Http

structure Headers where
  entries : List (String × String)
deriving DecidableEq, Repr

namespace Headers

def empty : Headers := ⟨[]⟩

/-- One more value of a name, after all others. -/
def append (headers : Headers) (name value : String) : Headers :=
  ⟨headers.entries ++ [(Text.lower name, value)]⟩

def appendAll (headers : Headers) (fields : List (String × String)) : Headers :=
  fields.foldl (fun headers field => headers.append field.1 field.2) headers

def ofList (fields : List (String × String)) : Headers := empty.appendAll fields

/-- The values of a name in lower case. -/
def getAll (headers : Headers) (name : String) : List String :=
  (headers.entries.filter (·.1 == name)).map (·.2)

/-- The first value of a name in lower case. -/
def get? (headers : Headers) (name : String) : Option String :=
  (headers.entries.find? (·.1 == name)).map (·.2)

def contains (headers : Headers) (name : String) : Bool := headers.entries.any (·.1 == name)

/-- The value in the place of all others of its name. -/
def set (headers : Headers) (name value : String) : Headers :=
  ⟨headers.entries.filter (·.1 != Text.lower name) ++ [(Text.lower name, value)]⟩

/-- Whether a text can be the value of a field: control characters cannot stand in one, but for the
tab. -/
def isFieldValue (value : String) : Bool :=
  value.toList.all fun c => (' ' ≤ c && c != '\x7f') || c == '\t'

/-- The value, unless the name has one. -/
def setDefault (headers : Headers) (name value : String) : Headers :=
  if headers.contains (Text.lower name) then headers else headers.append name value

end Headers

end OAuthEndpoint.Http
