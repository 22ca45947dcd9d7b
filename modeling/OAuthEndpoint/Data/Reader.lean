import OAuthEndpoint.Data.Basic

/-! Reading records from data trees.  What counts as text and as a number differs between sources:
JSON converts nothing, and settings convert what can be converted. -/

namespace OAuthEndpoint.Data

/-- How leaves are read, and whether a list that stands for a record may be longer than it. -/
structure Reading where
  text : Data → Option String
  natural : Data → Option Nat
  allowsMore : Bool

namespace Reading

/-- Text is text and a number is a whole number. -/
def strict : Reading where
  text
    | .text value => some value
    | _ => none
  natural
    | .integer value => if 0 ≤ value then some value.toNat else none
    | _ => none
  allowsMore := false

/-- The number that a word or a numeral stands for. -/
def naturalOfText? (value : String) : Option Nat :=
  if Text.lower value ∈ ["true", "on", "yes"] then some 1
  else if Text.lower value ∈ ["false", "off", "no"] then some 0
  else Number.uint64? value.toList

/-- Every leaf has a text, and flags, fractions and some texts stand for numbers. -/
def lenient : Reading where
  text
    | .text value => some value
    | .flag value => some (if value then "true" else "false")
    | .integer value => some (toString value)
    | .float value => some value.render
    | _ => none
  natural
    | .integer value => if 0 ≤ value then some value.toNat else none
    | .flag value => some (if value then 1 else 0)
    | .float value => some value.toUInt64
    | .text value => naturalOfText? value
    | _ => none
  allowsMore := true

/-- A number below a bound. -/
def naturalBelow (reading : Reading) (bound : Nat) (data : Data) : Option Nat :=
  (reading.natural data).filter (· < bound)

/-- The fields of a record: a table by name, or a list in the order of the fields. -/
def record? (reading : Reading) (names : List String) : Data → Option (String → Option Data)
  | .table entries => some fun name => entries.lookup name
  | .list items =>
    if items.length ≤ names.length || reading.allowsMore then
      some fun name => (names.zip items).lookup name
    else none
  | _ => none

end Reading

/-- Reads a field that may be missing. -/
def readOr {α : Type} (read : Data → Option α) (default : α) : Option Data → Option α
  | none => some default
  | some data => read data

/-- Reads each item of a list. -/
def readList? {α : Type} (read : Data → Option α) : Data → Option (List α)
  | .list items => items.mapM read
  | _ => none

end OAuthEndpoint.Data
