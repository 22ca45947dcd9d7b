import OAuthEndpoint.Ron.Scalar
import OAuthEndpoint.Text.Name

/-! RON documents.  A structure with named fields is read as a table and one without names as a
list, whatever its own name.  An option is read as what is in it, and the empty option and the unit
as null. -/

namespace OAuthEndpoint.Ron

open Text

def isBlank (c : Char) : Bool :=
  ('\t' ≤ c && c ≤ '\r') || c == ' ' || c == '\u0085' || c == '\u200E' || c == '\u200F' ||
    c == '\u2028' || c == '\u2029'

/-- Where a reading stands between values; comments in blocks lie within each other. -/
inductive Gap where
  | open
  | lineComment
  | blockComment (depth : Nat)
deriving DecidableEq, Repr

/-- What follows blanks and comments. -/
def skipGap : Gap → List Char → Option (List Char)
  | .blockComment _, [] => none
  | _, [] => some []
  | .blockComment depth, '/' :: '*' :: rest => skipGap (.blockComment (depth + 1)) rest
  | .blockComment 0, '*' :: '/' :: rest => skipGap .open rest
  | .blockComment (depth + 1), '*' :: '/' :: rest => skipGap (.blockComment depth) rest
  | .blockComment depth, _ :: rest => skipGap (.blockComment depth) rest
  | .lineComment, c :: rest => skipGap (if c == '\n' then .open else .lineComment) rest
  | .open, '/' :: '/' :: rest => skipGap .lineComment rest
  | .open, '/' :: '*' :: rest => skipGap (.blockComment 0) rest
  | .open, c :: rest => if isBlank c then skipGap .open rest else some (c :: rest)

/-- A name and what follows it.  After `r#` it may hold points and signs. -/
def name? (text : List Char) : Option (List Char × List Char) :=
  match text with
  | 'r' :: '#' :: rest =>
    let isPart (c : Char) : Bool := isNamePart c || c == '.' || c == '+' || c == '-'
    let name := rest.takeWhile isPart
    if name.isEmpty then none else some (name, rest.dropWhile isPart)
  | text =>
    if (text.head?.map isNameStart).getD false then
      some (text.takeWhile isNamePart, text.dropWhile isNamePart)
    else none

/-- A field's name with its colon, and what follows that and the gap after it. -/
def field? (text : List Char) : Option (String × List Char) := do
  let (name, rest) ← name? text
  match ← skipGap .open rest with
  | ':' :: rest => return (String.ofList name, ← skipGap .open rest)
  | _ => none

/-- The text that is a key, and what follows it as after a field's name. -/
def key? (text : List Char) : Option (String × List Char) := do
  let (key, rest) ← text? text
  match ← skipGap .open rest with
  | ':' :: rest => return (key, ← skipGap .open rest)
  | _ => none

/-- Whether quotes start a text, a raw text or a character. -/
def startsText (text : List Char) : Bool :=
  match text with
  | '"' :: _ => true
  | '\'' :: _ => true
  | 'r' :: rest => (rest.dropWhile (· == '#')).head? = some '"'
  | _ => false

def isNumberStart (c : Char) : Bool := c.isDigit || c == '+' || c == '-' || c == '.'

def isNumberChar (c : Char) : Bool := isNumberStart c || c.isAlpha || c == '_'

/-- How many brackets may be open at once. -/
def nestingLimit : Nat := 128

mutual

/-- A value, and what follows it and the gap after it.  `room` is how many brackets may still open,
and `fuel` bounds the steps of the reading. -/
def value? (room : Nat) : Nat → List Char → Option (Data × List Char)
  | 0, _ => none
  | fuel + 1, text => do
    let (value, rest) ←
      if startsText text then (text? text).map fun (text, rest) => (Data.text text, rest)
      else if (text.head?.map isNumberStart).getD false then
        (number? (text.takeWhile isNumberChar)).map fun number =>
          (number, text.dropWhile isNumberChar)
      else match text with
        | '(' :: rest => structure? room fuel rest
        | '[' :: rest =>
          if room = 0 then none
          else do
            let (items, rest) ← items? (room - 1) ']' fuel (← skipGap .open rest)
            return (Data.list items, rest)
        | '\x7b' :: rest =>
          if room = 0 then none
          else do
            let (entries, rest) ←
              entries? (room - 1) key? '\x7d' fuel [] (← skipGap .open rest)
            return (Data.table entries, rest)
        | text => named? room fuel text
    return (value, ← skipGap .open rest)

/-- A value that starts with a name. -/
def named? (room : Nat) : Nat → List Char → Option (Data × List Char)
  | 0, _ => none
  | fuel + 1, text => do
    let (name, rest) ← name? text
    match String.ofList name with
    | "true" => return (.flag true, rest)
    | "false" => return (.flag false, rest)
    | "None" => return (.null, rest)
    | "inf" => return (.float (.infinite false), rest)
    | "NaN" => return (.float .nan, rest)
    | "Some" =>
      match ← skipGap .open rest with
      | '(' :: rest =>
        if room = 0 then none
        else
          match ← items? (room - 1) ')' fuel (← skipGap .open rest) with
          | ([item], rest) => return (item, rest)
          | _ => none
      | _ => none
    | _ =>
      match ← skipGap .open rest with
      | '(' :: rest => structure? room fuel rest
      | rest => return (.null, rest)

/-- A structure after its bracket. -/
def structure? (room : Nat) : Nat → List Char → Option (Data × List Char)
  | 0, _ => none
  | fuel + 1, text => do
    match ← skipGap .open text with
    | ')' :: rest => return (.null, rest)
    | text =>
      if room = 0 then none
      else if (field? text).isSome then
        let (entries, rest) ← entries? (room - 1) field? ')' fuel [] text
        return (.table entries, rest)
      else
        let (items, rest) ← items? (room - 1) ')' fuel text
        return (.list items, rest)

/-- Values up to a bracket, with a comma after each but the last, where it may be too. -/
def items? (room : Nat) (close : Char) : Nat → List Char → Option (List Data × List Char)
  | 0, _ => none
  | fuel + 1, text =>
    if text.head? = some close then some ([], text.drop 1)
    else do
      let (item, rest) ← value? room fuel text
      match rest with
      | ',' :: rest =>
        let (items, rest) ← items? room close fuel (← skipGap .open rest)
        return (item :: items, rest)
      | c :: rest => if c == close then some ([item], rest) else none
      | [] => none

/-- Named values up to a bracket, after those before, with commas as between items. -/
def entries? (room : Nat) (label? : List Char → Option (String × List Char)) (close : Char) :
    Nat → List (String × Data) → List Char → Option (List (String × Data) × List Char)
  | 0, _, _ => none
  | fuel + 1, before, text =>
    if text.head? = some close then some (before, text.drop 1)
    else do
      let (label, rest) ← label? text
      let (value, rest) ← value? room fuel rest
      let before := Data.put label value before
      match rest with
      | ',' :: rest => entries? room label? close fuel before (← skipGap .open rest)
      | c :: rest => if c == close then some (before, rest) else none
      | [] => none

end

/-- The names of the extensions, which change nothing in what is read here. -/
def extensions : List String :=
  ["unwrap_newtypes", "implicit_some", "unwrap_variant_newtypes", "explicit_struct_names"]

/-- What follows a sequence of tokens with gaps between them. -/
def skipTokens? : List Char → List Char → Option (List Char)
  | [], text => some text
  | token :: tokens, text => do
    match ← skipGap .open text with
    | c :: rest => if c == token then skipTokens? tokens rest else none
    | [] => none

/-- The names in a list of extensions, and what follows its bracket.  `fuel` bounds their number. -/
def extensionNames? : Nat → List Char → Option (List Char)
  | 0, _ => none
  | fuel + 1, text => do
    match ← skipGap .open text with
    | ')' :: rest => return rest
    | text =>
      let (name, rest) ← name? text
      if String.ofList name ∉ extensions then none
      else
        match ← skipGap .open rest with
        | ',' :: rest => extensionNames? fuel rest
        | ')' :: rest => return rest
        | _ => none

/-- What follows the lines that name extensions.  `fuel` bounds their number. -/
def skipExtensions? : Nat → List Char → Option (List Char)
  | 0, _ => none
  | fuel + 1, text => do
    match ← skipGap .open text with
    | '#' :: rest =>
      let (word, rest) ← name? (← skipGap .open (← skipTokens? ['!', '['] rest))
      if String.ofList word ≠ "enable" then none
      else
        let rest ← extensionNames? rest.length (← skipTokens? ['('] rest)
        skipExtensions? fuel (← skipTokens? [']'] rest)
    | text => return text

/-- Reads a document. -/
def parse? (text : String) : Option Data := do
  let text := text.toList
  let text ← skipExtensions? (text.length + 1) text
  let (data, rest) ← value? nestingLimit (4 * text.length + 4) text
  if rest.isEmpty then some data else none

end OAuthEndpoint.Ron
