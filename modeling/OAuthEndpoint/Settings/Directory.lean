import OAuthEndpoint.Text.Pieces

/-! What the server can read, and the paths to it.  A path is walked name by name, and only a folder
has names in it. -/

namespace OAuthEndpoint

open Text

/-- What a path leads to.  Files hold text, and there are no links. -/
inductive Entry where
  | file (text : String)
  | folder
  | device
deriving DecidableEq, Repr

/-- The names on the way from the root. -/
abbrev Location := List (List Char)

/-- Entries by their paths.  The folders around an entry are there too. -/
structure Directory where
  /-- The folder that the server starts in, where a path that names no root starts. -/
  start : Location
  entries : List (String × Entry)
deriving DecidableEq, Repr

namespace Directory

/-- Where a walk is after a name. -/
def step (location : Location) (name : List Char) : Location :=
  if name = [] ∨ name = ['.'] then location
  else if name = ['.', '.'] then location.dropLast
  else location ++ [name]

/-- The names of a path, some of which may be empty. -/
def names (path : String) : List (List Char) := split (· == '/') path.toList

/-- Where a walk along a path starts. -/
def origin (directory : Directory) (path : String) : Location :=
  if path.toList.head? = some '/' then [] else directory.start

/-- Where a path leads, if all folders on it are there. -/
def locate (directory : Directory) (path : String) : Location :=
  (names path).foldl step (directory.origin path)

/-- What is at a location. -/
def at? (directory : Directory) (location : Location) : Option Entry :=
  match directory.entries.find? fun entry => directory.locate entry.1 == location with
  | some entry => some entry.2
  | none =>
    let located := directory.entries.map fun entry => directory.locate entry.1
    if (directory.start :: located).any location.isPrefixOf then some .folder else none

/-- The text of the file at a location. -/
def text? (directory : Directory) (location : Location) : Option String :=
  match directory.at? location with
  | some (.file text) => some text
  | _ => none

/-- The text of the nearest file of a name: in the folder at a depth of the way to the start, or else
in the folders around it. -/
def nearest? (directory : Directory) (name : List Char) : Nat → Option String
  | 0 => directory.text? [name]
  | depth + 1 =>
    (directory.text? (directory.start.take (depth + 1) ++ [name])).or
      (directory.nearest? name depth)

/-- A step of a walk, which can be taken from a folder alone. -/
def step? (directory : Directory) (location : Location) (name : List Char) : Option Location :=
  if directory.at? location = some .folder then some (step location name) else none

/-- The entry at a path. -/
def find? (directory : Directory) (path : String) : Option Entry :=
  if path = "" then none
  else ((names path).foldlM directory.step? (directory.origin path)).bind directory.at?

/-- What stands after the last point of a file's name; a point at its start does not count. -/
def extension (path : String) : String :=
  match (names path).getLast? with
  | none => ""
  | some name =>
    match cut (· == '.') name.reverse with
    | (_, none) => ""
    | (_, some []) => ""
    | (after, some _) => String.ofList after.reverse

/-- The path whose last name is longer by an extension; one that ends at no name of its own has
none. -/
def withExtension? (path extension : String) : Option String :=
  let names := (names path).filter fun name => !(name.isEmpty || name = ['.'])
  match names.getLast? with
  | none => none
  | some last =>
    if last = ['.', '.'] then none
    else
      let start := if path.toList.head? = some '/' then ['/'] else []
      some (String.ofList (start ++ join ['/'] names ++ '.' :: extension.toList))

/-- A directory of files alone, started at its root. -/
def ofFiles (files : List (String × String)) : Directory :=
  ⟨[], files.map fun file => (file.1, .file file.2)⟩

end Directory

end OAuthEndpoint
