import OAuthEndpoint.Data.Basic
import OAuthEndpoint.Text.Pieces

/-! Places in a data tree, written as `server.port` or `clients[0].name`.  Assigning at a place
makes what is missing on the way to it. -/

namespace OAuthEndpoint.Data

open Text

/-- One step down a tree: to the entry of a key, or to an item, counted from the end where the
number is negative. -/
inductive Step where
  | key (name : String)
  | index (position : Int)
deriving DecidableEq, Repr

/-- A place is the way to it from the root. -/
abbrev Place := List Step

namespace Place

def isNameChar (c : Char) : Bool := c.isAlphanum || c == '_' || c == '-'

def isBlank (c : Char) : Bool := c == ' ' || c == '\t'

/-- A name and what follows it. -/
def name? (text : List Char) : Option (String × List Char) :=
  let name := text.takeWhile isNameChar
  if name.isEmpty then none else some (String.ofList name, text.dropWhile isNameChar)

/-- The number in brackets, blanks around it allowed, with no plus sign. -/
def position? (text : List Char) : Option Int :=
  let number := trim isBlank text
  if number.head? = some '+' then none else Number.int64? number

/-- The steps after the first; `fuel` bounds their number. -/
def steps? : Nat → List Char → Option Place
  | _, [] => some []
  | 0, _ => none
  | fuel + 1, '.' :: rest => do
    let (name, rest) ← name? rest
    return .key name :: (← steps? fuel rest)
  | fuel + 1, '[' :: rest =>
    match cut (· == ']') rest with
    | (_, none) => none
    | (number, some rest) => do
      let position ← position? number
      return .index position :: (← steps? fuel rest)
  | _ + 1, _ => none

/-- Reads a place. -/
def parse? (text : String) : Option Place := do
  let (name, rest) ← name? text.toList
  return .key name :: (← steps? rest.length rest)

/-- The place that a key names; a key that is no place names itself. -/
def ofKey (key : String) : Place := (parse? key).getD [.key key]

end Place

/-- Changes the item at a position, and puts nulls where items are missing up to it. -/
def modifyItem (change : Data → Data) (position : Int) (items : List Data) : List Data :=
  if 0 ≤ position then
    let n := position.toNat
    (items ++ List.replicate (n + 1 - items.length) Data.null).modify n change
  else
    let n := position.natAbs
    (List.replicate (n - items.length) Data.null ++ items).modify (items.length - n) change

/-- Changes what is at a place.  What is no table or list on the way becomes one. -/
def modify (change : Data → Data) : Place → Data → Data
  | [], data => change data
  | .key name :: place, data =>
    .table (put name (modify change place ((data.entries.lookup name).getD .null)) data.entries)
  | .index position :: place, data =>
    .list (modifyItem (modify change place) position data.items)

/-- Lays a value over what is at a place. -/
def assign (data : Data) (place : Place) (value : Data) : Data :=
  modify (fun old => old.merge value) place data

end OAuthEndpoint.Data
