import OAuthEndpoint.Data.Place

/-! Environment variables and the settings in them.  A variable such as `PORTICO__SERVER__PORT` sets
the place `server.port`, whatever its letter case; its text is read as a flag or a number where it
is one. -/

namespace OAuthEndpoint

open Text

/-- Variables with their values, all of them Unicode text, and each name once. -/
structure Environment where
  entries : List (String × String)
deriving DecidableEq, Repr

namespace Environment

def empty : Environment := ⟨[]⟩

def get? (environment : Environment) (name : String) : Option String :=
  environment.entries.lookup name

/-- The environment with a variable added, unless it has one of that name.  A value with a null
character cannot be set. -/
def setDefault? (environment : Environment) (name value : String) : Option Environment :=
  if (environment.get? name).isSome then some environment
  else if '\x00' ∈ value.toList then none
  else some ⟨environment.entries ++ [(name, value)]⟩

/-- What the name of every setting starts with. -/
def settingStart : List Char := ['p', 'o', 'r', 't', 'i', 'c', 'o', '_', '_']

/-- Two underscores stand for the point between the names of a place. -/
def dotted : List Char → List Char
  | '_' :: '_' :: rest => '.' :: dotted rest
  | c :: rest => c :: dotted rest
  | [] => []

/-- The place that a variable sets, if it is a setting. -/
def place? (name : String) : Option Data.Place :=
  (after? settingStart (lower name).toList).map fun rest =>
    Data.Place.ofKey (String.ofList (dotted rest))

/-- The value of a variable: a flag, a whole number, a fraction, or else its text. -/
def value (text : String) : Data :=
  if lower text = "true" then .flag true
  else if lower text = "false" then .flag false
  else match Number.int64? text.toList with
    | some n => .integer n
    | none =>
      match Number.Binary64.parse? text.toList with
      | some x => .float x
      | none => .text text

/-- The settings among the variables: each place with its value.  They come in the order of the
variables; where two of them set one place, or one sets a place within another's, the order in which
a library goes through its table of variables is taken to be that order. -/
def settings (environment : Environment) : List (Data.Place × Data) :=
  environment.entries.filterMap fun entry =>
    (place? entry.1).map fun place => (place, value entry.2)

end Environment

end OAuthEndpoint
