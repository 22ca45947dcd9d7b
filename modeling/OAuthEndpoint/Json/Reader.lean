import OAuthEndpoint.Json.Number
import OAuthEndpoint.Text.Unit

/-! Reading JSON as data.  Of members with one name the last counts, and lists and objects may lie
within each other to a limit. -/

namespace OAuthEndpoint.Json

open Text Number

def isBlank (c : Char) : Bool := c == ' ' || c == '\t' || c == '\n' || c == '\r'

def dropBlanks (text : List Char) : List Char := text.dropWhile isBlank

/-- The character of an escape with one letter. -/
def escaped? (c : Char) : Option Char :=
  match c with
  | 'b' => some '\x08'
  | 'f' => some '\x0c'
  | 'n' => some '\n'
  | 'r' => some '\r'
  | 't' => some '\t'
  | '"' | '\\' | '/' => some c
  | _ => none

/-- Undoes escapes. -/
def unescape? : List Char → Option (List Char)
  | [] => some []
  | c :: rest =>
    if c == '\\' then
      match rest with
      | 'u' :: a :: b :: c :: d :: rest =>
        match charOfUnit? [a, b, c, d], rest with
        | some c, rest => (unescape? rest).map (c :: ·)
        | none, '\\' :: 'u' :: e :: f :: g :: h :: rest => do
          return (← charOfUnits? [a, b, c, d] [e, f, g, h]) :: (← unescape? rest)
        | none, _ => none
      | mark :: rest => do return (← escaped? mark) :: (← unescape? rest)
      | [] => none
    else (unescape? rest).map (c :: ·)

/-- The text up to the quote that ends it, still escaped, and what follows. -/
def upToQuote? : List Char → Option (List Char × List Char)
  | [] => none
  | c :: rest =>
    if c == '"' then some ([], rest)
    else if c < ' ' then none
    else if c == '\\' then
      match rest with
      | [] => none
      | mark :: rest => (upToQuote? rest).map fun (text, rest) => (c :: mark :: text, rest)
    else (upToQuote? rest).map fun (text, rest) => (c :: text, rest)

/-- A text after its opening quote, and what follows. -/
def text? (text : List Char) : Option (String × List Char) := do
  let (inside, rest) ← upToQuote? text
  return (String.ofList (← unescape? inside), rest)

/-- A literal name or a number. -/
def word? (word : List Char) : Option Data :=
  if word = ['n', 'u', 'l', 'l'] then some .null
  else if word = ['t', 'r', 'u', 'e'] then some (.flag true)
  else if word = ['f', 'a', 'l', 's', 'e'] then some (.flag false)
  else number? word

def isWordChar (c : Char) : Bool := c.isAlphanum || c == '+' || c == '-' || c == '.'

/-- How many brackets and braces may be open at once. -/
def nestingLimit : Nat := 127

mutual

/-- A value and what follows it.  `room` is how many brackets may still open, and `fuel` bounds the
steps of the reading. -/
def value? (room : Nat) : Nat → List Char → Option (Data × List Char)
  | 0, _ => none
  | fuel + 1, text =>
    match dropBlanks text with
    | '"' :: rest => (text? rest).map fun (text, rest) => (.text text, rest)
    | '[' :: rest =>
      if room = 0 then none
      else match dropBlanks rest with
        | ']' :: rest => some (.list [], rest)
        | rest => (items? (room - 1) fuel rest).map fun (items, rest) => (.list items, rest)
    | '\x7b' :: rest =>
      if room = 0 then none
      else match dropBlanks rest with
        | '\x7d' :: rest => some (.table [], rest)
        | rest =>
          (members? (room - 1) fuel [] rest).map fun (members, rest) => (.table members, rest)
    | text =>
      (word? (text.takeWhile isWordChar)).map fun data => (data, text.dropWhile isWordChar)

/-- The items of a list that has some, and what follows its bracket. -/
def items? (room : Nat) : Nat → List Char → Option (List Data × List Char)
  | 0, _ => none
  | fuel + 1, text => do
    let (item, rest) ← value? room fuel text
    match dropBlanks rest with
    | ',' :: rest =>
      let (items, rest) ← items? room fuel rest
      return (item :: items, rest)
    | ']' :: rest => return ([item], rest)
    | _ => none

/-- The members of an object that has some, after those before, and what follows its brace. -/
def members? (room : Nat) :
    Nat → List (String × Data) → List Char → Option (List (String × Data) × List Char)
  | 0, _, _ => none
  | fuel + 1, before, text => do
    match dropBlanks text with
    | '"' :: rest =>
      let (name, rest) ← text? rest
      match dropBlanks rest with
      | ':' :: rest =>
        let (value, rest) ← value? room fuel rest
        match dropBlanks rest with
        | ',' :: rest => members? room fuel (Data.put name value before) rest
        | '\x7d' :: rest => return (Data.put name value before, rest)
        | _ => none
      | _ => none
    | _ => none

end

/-- Reads a JSON text. -/
def parse? (text : String) : Option Data := do
  let (data, rest) ← value? nestingLimit (2 * text.length + 2) text.toList
  if (dropBlanks rest).isEmpty then some data else none

end OAuthEndpoint.Json
