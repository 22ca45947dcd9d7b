import OAuthEndpoint.Toml.Quoted
import OAuthEndpoint.Toml.Scalar
import OAuthEndpoint.Toml.Tree

/-! TOML documents.  A document is a sequence of statements, each on a line: the header of a table,
the header of one more table of a list, or a key with its value. -/

namespace OAuthEndpoint.Toml

open Text

inductive Statement where
  | table (path : List String)
  | item (path : List String)
  | entry (path : List String) (value : Data)
deriving Repr

def isBlank (c : Char) : Bool := c == ' ' || c == '\t'

def dropBlanks (text : List Char) : List Char := text.dropWhile isBlank

/-- What follows blanks, line ends and comments. -/
def skipLayout (inComment : Bool) : List Char → Option (List Char)
  | [] => some []
  | c :: rest =>
    if isLineEnd c then skipLayout false rest
    else if inComment then if isControl c then none else skipLayout true rest
    else if isBlank c then skipLayout false rest
    else if c == '#' then skipLayout true rest
    else some (c :: rest)

/-- What follows the end of the line; only blanks and a comment may stand before it. -/
def endLine (inComment : Bool) : List Char → Option (List Char)
  | [] => some []
  | c :: rest =>
    if c == '\n' then some rest
    else if c == '\r' then endLine inComment rest
    else if inComment then if isControl c then none else endLine true rest
    else if isBlank c then endLine false rest
    else if c == '#' then endLine true rest
    else none

def isKeyChar (c : Char) : Bool := c.isAlphanum || c == '_' || c == '-'

/-- A key, bare or in quotes, and what follows it. -/
def key? : List Char → Option (String × List Char)
  | '"' :: rest => quoted? '"' rest
  | '\'' :: rest => quoted? '\'' rest
  | text =>
    let key := text.takeWhile isKeyChar
    if key.isEmpty then none else some (String.ofList key, text.dropWhile isKeyChar)

/-- Keys with points between them, and what follows them and the blanks after them.  `fuel` bounds
their number. -/
def path? : Nat → List Char → Option (List String × List Char)
  | 0, _ => none
  | fuel + 1, text => do
    let (key, rest) ← key? text
    match dropBlanks rest with
    | '.' :: rest =>
      let (path, rest) ← path? fuel (dropBlanks rest)
      return (key :: path, rest)
    | rest => return ([key], rest)

/-- How many brackets and braces may be open at once. -/
def nestingLimit : Nat := 80

mutual

/-- A value and what follows it.  `room` is how many brackets may still open, and `fuel` bounds the
steps of the reading. -/
def value? (room : Nat) : Nat → List Char → Option (Data × List Char)
  | 0, _ => none
  | fuel + 1, text =>
    match text with
    | '"' :: rest => (anyQuoted? '"' rest).map fun (text, rest) => (.text text, rest)
    | '\'' :: rest => (anyQuoted? '\'' rest).map fun (text, rest) => (.text text, rest)
    | '[' :: rest =>
      if room = 0 then none
      else (items? (room - 1) fuel rest).map fun (items, rest) => (.list items, rest)
    | '\x7b' :: rest =>
      if room = 0 then none
      else do
        let (members, rest) ← members? (room - 1) fuel rest
        return (← tableOf? members, rest)
    | text => do
      let (text, rest) := scalarText text
      return (← scalar? text, rest)

/-- The items of a list up to its bracket, with a comma after each but the last, where it may be
too. -/
def items? (room : Nat) : Nat → List Char → Option (List Data × List Char)
  | 0, _ => none
  | fuel + 1, text => do
    match ← skipLayout false text with
    | ']' :: rest => return ([], rest)
    | text =>
      let (item, rest) ← value? room fuel text
      match ← skipLayout false rest with
      | ',' :: rest =>
        let (items, rest) ← items? room fuel rest
        return (item :: items, rest)
      | ']' :: rest => return ([item], rest)
      | _ => none

/-- The members of a table in braces, with commas as in a list. -/
def members? (room : Nat) : Nat → List Char → Option (List (List String × Data) × List Char)
  | 0, _ => none
  | fuel + 1, text => do
    match ← skipLayout false text with
    | '\x7d' :: rest => return ([], rest)
    | text =>
      let (path, rest) ← path? text.length text
      match rest with
      | '=' :: rest =>
        let (value, rest) ← value? room fuel (dropBlanks rest)
        match ← skipLayout false rest with
        | ',' :: rest =>
          let (members, rest) ← members? room fuel rest
          return ((path, value) :: members, rest)
        | '\x7d' :: rest => return ([(path, value)], rest)
        | _ => none
      | _ => none

end

/-- A statement and what follows it on its line. -/
def statement? (text : List Char) : Option (Statement × List Char) :=
  match text with
  | '[' :: '[' :: rest => do
    let (path, rest) ← path? rest.length (dropBlanks rest)
    match rest with
    | ']' :: ']' :: rest => return (.item path, rest)
    | _ => none
  | '[' :: rest => do
    let (path, rest) ← path? rest.length (dropBlanks rest)
    match rest with
    | ']' :: rest => return (.table path, rest)
    | _ => none
  | text => do
    let (path, rest) ← path? text.length text
    match rest with
    | '=' :: rest =>
      let (value, rest) ← value? nestingLimit (2 * rest.length + 2) (dropBlanks rest)
      return (.entry path value, rest)
    | _ => none

/-- The statements of a text; `fuel` bounds their number. -/
def statements? : Nat → List Char → Option (List Statement)
  | 0, _ => none
  | fuel + 1, text => do
    match ← skipLayout false text with
    | [] => return []
    | text =>
      let (statement, rest) ← statement? text
      return statement :: (← statements? fuel (← endLine false rest))

/-- The tables read so far and the path of the last header. -/
structure State where
  root : Entries
  current : List String

/-- What a statement adds. -/
def State.step? (state : State) : Statement → Option State
  | .table path => (Entries.atHeader Entries.openTable path state.root).map fun root => ⟨root, path⟩
  | .item path => (Entries.atHeader Entries.openItem path state.root).map fun root => ⟨root, path⟩
  | .entry path value =>
    (Entries.within (Entries.assign value path) state.current state.root).map fun root =>
      { state with root }

/-- The table that statements describe. -/
def ofStatements? (statements : List Statement) : Option Data :=
  (statements.foldlM State.step? ⟨[], []⟩).map fun state => .table (entriesData state.root)

/-- Whether each carriage return stands before a line feed. -/
def hasWholeLineEnds : List Char → Bool
  | [] => true
  | '\r' :: '\n' :: rest => hasWholeLineEnds rest
  | c :: rest => c != '\r' && hasWholeLineEnds rest

/-- Reads a document.  A byte order mark at its start does not count. -/
def parse? (text : String) : Option Data :=
  let text := (after? ['\uFEFF'] text.toList).getD text.toList
  if hasWholeLineEnds text then (statements? (text.length + 1) text).bind ofStatements? else none

end OAuthEndpoint.Toml
