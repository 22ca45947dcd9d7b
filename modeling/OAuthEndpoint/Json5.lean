import OAuthEndpoint.Data.Basic
import OAuthEndpoint.Number.Arithmetic
import OAuthEndpoint.Text.Name
import OAuthEndpoint.Text.Unit

/-! JSON5 documents: JSON with comments, names without quotes, single quotes, a comma after the last
item, and more ways to write numbers.  Of members with one name the last counts. -/

namespace OAuthEndpoint.Json5

open Text Number

def isLineEnd (c : Char) : Bool := c == '\n' || c == '\r' || c == '\u2028' || c == '\u2029'

def isBlank (c : Char) : Bool :=
  isLineEnd c || c == '\t' || c == '\x0b' || c == '\x0c' || c == ' ' || c == '\u00A0' ||
    c == '\u1680' || ('\u2000' ≤ c && c ≤ '\u200A') || c == '\u202F' || c == '\u205F' ||
    c == '\u3000' || c == '\uFEFF'

/-- Where a reading stands between values. -/
inductive Gap where
  | open
  | lineComment
  | blockComment
deriving DecidableEq, Repr

/-- What follows blanks and comments. -/
def skipGap : Gap → List Char → Option (List Char)
  | .blockComment, [] => none
  | _, [] => some []
  | .blockComment, '*' :: '/' :: rest => skipGap .open rest
  | .blockComment, _ :: rest => skipGap .blockComment rest
  | .lineComment, c :: rest => skipGap (if isLineEnd c then .open else .lineComment) rest
  | .open, '/' :: '/' :: rest => skipGap .lineComment rest
  | .open, '/' :: '*' :: rest => skipGap .blockComment rest
  | .open, c :: rest => if isBlank c then skipGap .open rest else some (c :: rest)

/-- The character of an escape with one letter; a digit and a letter of other escapes have none. -/
def escaped? (c : Char) : Option Char :=
  match c with
  | 'b' => some '\x08'
  | 'f' => some '\x0c'
  | 'n' => some '\n'
  | 'r' => some '\r'
  | 't' => some '\t'
  | 'v' => some '\x0b'
  | '0' => some '\x00'
  | c => if c.isDigit || c == 'x' || c == 'u' then none else some c

/-- Undoes escapes.  A backslash takes away the line end after it. -/
def unescape? : List Char → Option (List Char)
  | [] => some []
  | c :: rest =>
    if c == '\\' then
      match rest with
      | 'x' :: a :: b :: rest =>
        if [a, b].all (isDigitOf 16) then
          (unescape? rest).map (Char.ofNat (numeral 16 [a, b]) :: ·)
        else none
      | 'u' :: a :: b :: c :: d :: rest =>
        match charOfUnit? [a, b, c, d], rest with
        | some c, rest => (unescape? rest).map (c :: ·)
        | none, '\\' :: 'u' :: e :: f :: g :: h :: rest => do
          return (← charOfUnits? [a, b, c, d] [e, f, g, h]) :: (← unescape? rest)
        | none, _ => none
      | '\r' :: '\n' :: rest => unescape? rest
      | mark :: rest =>
        if isLineEnd mark then unescape? rest
        else do return (← escaped? mark) :: (← unescape? rest)
      | [] => none
    else (unescape? rest).map (c :: ·)

/-- The text up to the quote that ends it, still escaped, and what follows. -/
def upToQuote? (quote : Char) : List Char → Option (List Char × List Char)
  | [] => none
  | c :: rest =>
    if c == quote then some ([], rest)
    else if isLineEnd c then none
    else if c == '\\' then
      match rest with
      | [] => none
      | '\r' :: '\n' :: rest =>
        (upToQuote? quote rest).map fun (text, rest) => (c :: '\n' :: text, rest)
      | mark :: rest => (upToQuote? quote rest).map fun (text, rest) => (c :: mark :: text, rest)
    else (upToQuote? quote rest).map fun (text, rest) => (c :: text, rest)

/-- A text after its opening quote, and what follows. -/
def text? (quote : Char) (text : List Char) : Option (String × List Char) := do
  let (inside, rest) ← upToQuote? quote text
  return (String.ofList (← unescape? inside), rest)

/-- Whether each backslash starts the escape of a unit, the only one in a name. -/
def escapesUnitsAlone : List Char → Bool
  | [] => true
  | '\\' :: 'u' :: rest => escapesUnitsAlone rest
  | c :: rest => c != '\\' && escapesUnitsAlone rest

def isNameStart (c : Char) : Bool := Text.isNameStart c || c == '$' || c == '\\'

/-- The characters of names; two ASCII diacritics are among them. -/
def isNameChar (c : Char) : Bool :=
  isNameStart c || isNamePart c || c == '^' || c == '\x60' || c == '\u200C' || c == '\u200D'

/-- The name of a member, with or without quotes, and what follows it. -/
def name? : List Char → Option (String × List Char)
  | [] => none
  | c :: rest =>
    if c == '"' || c == '\'' then text? c rest
    else
      let name := (c :: rest).takeWhile isNameChar
      if isNameStart c && escapesUnitsAlone name then
        (unescape? name).map fun name => (String.ofList name, (c :: rest).dropWhile isNameChar)
      else none

/-- A whole number of at most 32 bits in hexadecimal, after its mark. -/
def hexadecimal? (digits : List Char) : Option Nat :=
  if digits.isEmpty || !digits.all (isDigitOf 16) then none
  else some (numeral 16 digits) |>.filter (· < UInt32.size)

/-- Whether a numeral without sign starts with no needless zero. -/
def hasPlainStart (unsigned : List Char) : Bool :=
  match unsigned with
  | '0' :: c :: _ => !c.isDigit
  | c :: _ => c.isDigit || c == '.'
  | [] => false

/-- A decimal number: whole, if it has neither point nor power of ten, and not too large. -/
def decimal? (word : List Char) : Option Data :=
  if !hasPlainStart (sign word).2 then none
  else if word.any fun c => c == '.' || c == 'e' || c == 'E' then
    ((Decimal.parse? word).map Binary64.ofDecimal).bind fun number =>
      if number.isFinite then some (.float number) else none
  else (int64? word).map .integer

/-- The value that a word spells.  Hexadecimal takes no sign, and names of numbers no plus. -/
def word? (word : List Char) : Option Data :=
  match String.ofList word with
  | "null" => some .null
  | "true" => some (.flag true)
  | "false" => some (.flag false)
  | "Infinity" => some (.float (.infinite false))
  | "-Infinity" => some (.float (.infinite true))
  | "NaN" => some (.float .nan)
  | "-NaN" => some (.float .nan)
  | _ =>
    match word with
    | '0' :: 'x' :: digits => (hexadecimal? digits).map fun n => .integer n
    | '0' :: 'X' :: digits => (hexadecimal? digits).map fun n => .integer n
    | _ => decimal? word

def isWordChar (c : Char) : Bool :=
  !(isBlank c || c == ',' || c == ']' || c == '\x7d' || c == '/')

mutual

/-- A value and what follows it and the gap after it.  `fuel` bounds the steps of the reading. -/
def value? : Nat → List Char → Option (Data × List Char)
  | 0, _ => none
  | fuel + 1, text => do
    let (value, rest) ← match text with
      | '"' :: rest => (text? '"' rest).map fun (text, rest) => (Data.text text, rest)
      | '\'' :: rest => (text? '\'' rest).map fun (text, rest) => (Data.text text, rest)
      | '[' :: rest => do
        match ← skipGap .open rest with
        | ']' :: rest => pure (Data.list [], rest)
        | rest => (items? fuel rest).map fun (items, rest) => (Data.list items, rest)
      | '\x7b' :: rest => do
        match ← skipGap .open rest with
        | '\x7d' :: rest => pure (Data.table [], rest)
        | rest => (members? fuel [] rest).map fun (members, rest) => (Data.table members, rest)
      | text =>
        (word? (text.takeWhile isWordChar)).map fun data => (data, text.dropWhile isWordChar)
    return (value, ← skipGap .open rest)

/-- The items of a list that has some, and what follows its bracket. -/
def items? : Nat → List Char → Option (List Data × List Char)
  | 0, _ => none
  | fuel + 1, text => do
    let (item, rest) ← value? fuel text
    match rest with
    | ']' :: rest => return ([item], rest)
    | ',' :: rest =>
      match ← skipGap .open rest with
      | ']' :: rest => return ([item], rest)
      | rest =>
        let (items, rest) ← items? fuel rest
        return (item :: items, rest)
    | _ => none

/-- The members of an object that has some, after those before, and what follows its brace. -/
def members? : Nat → List (String × Data) → List Char → Option (List (String × Data) × List Char)
  | 0, _, _ => none
  | fuel + 1, before, text => do
    let (name, rest) ← name? text
    match ← skipGap .open rest with
    | ':' :: rest =>
      let (value, rest) ← value? fuel (← skipGap .open rest)
      match rest with
      | '\x7d' :: rest => return (Data.put name value before, rest)
      | ',' :: rest =>
        match ← skipGap .open rest with
        | '\x7d' :: rest => return (Data.put name value before, rest)
        | rest => members? fuel (Data.put name value before) rest
      | _ => none
    | _ => none

end

/-- Reads a document. -/
def parse? (text : String) : Option Data := do
  let (data, rest) ← value? (2 * text.length + 2) (← skipGap .open text.toList)
  if rest.isEmpty then some data else none

end OAuthEndpoint.Json5
