import OAuthEndpoint.Text.Ascii

/-! TOML text in quotes.  Double quotes allow escapes and single quotes do not; three of either let
the text run over several lines and keep their ends, each a line feed with or without a carriage
return before it.  A carriage return that stands alone is no part of any document. -/

namespace OAuthEndpoint.Toml

open Text

/-- Control characters may stand in no text; the tab is none of them. -/
def isControl (c : Char) : Bool := (c < ' ' && c != '\t') || c == '\x7f'

/-- The characters of line ends. -/
def isLineEnd (c : Char) : Bool := c == '\n' || c == '\r'

/-- The character of an escape with one letter. -/
def escaped? (c : Char) : Option Char :=
  match c with
  | 'b' => some '\x08'
  | 't' => some '\t'
  | 'n' => some '\n'
  | 'f' => some '\x0c'
  | 'r' => some '\r'
  | 'e' => some '\x1b'
  | '"' => some '"'
  | '\\' => some '\\'
  | _ => none

/-- The character of a number in hexadecimal. -/
def charOf? (digits : List Char) : Option Char :=
  let n := numeral 16 digits
  if digits.all (isDigitOf 16) && (n < 0xD800 || (0xE000 ≤ n && n < 0x110000)) then
    some (Char.ofNat n)
  else none

/-- Undoes escapes.  A backslash at the end of a line takes away all blanks and line ends after it;
`skipping` says that this is going on. -/
def unescape? (skipping : Bool) : List Char → Option (List Char)
  | [] => some []
  | c :: rest =>
    if skipping && (c == ' ' || c == '\t' || isLineEnd c) then unescape? true rest
    else if c == '\\' then
      match rest with
      | 'x' :: a :: b :: rest => do return (← charOf? [a, b]) :: (← unescape? false rest)
      | 'u' :: a :: b :: c :: d :: rest => do
        return (← charOf? [a, b, c, d]) :: (← unescape? false rest)
      | 'U' :: a :: b :: c :: d :: e :: f :: g :: h :: rest => do
        return (← charOf? [a, b, c, d, e, f, g, h]) :: (← unescape? false rest)
      | mark :: rest =>
        if isLineEnd mark then unescape? true rest
        else if mark == ' ' || mark == '\t' then
          if ((rest.dropWhile fun c => c == ' ' || c == '\t').head?.map isLineEnd).getD false then
            unescape? true rest
          else none
        else do return (← escaped? mark) :: (← unescape? false rest)
      | [] => none
    else do return c :: (← unescape? false rest)

/-- The text up to the quote that ends it, and what follows; where `escapes` says so, a backslash
keeps the character after it from ending the text. -/
def upToQuote? (quote : Char) (escapes : Bool) : List Char → Option (List Char × List Char)
  | [] => none
  | c :: rest =>
    if c == quote then some ([], rest)
    else if isControl c then none
    else if escapes && c == '\\' then
      match rest with
      | [] => none
      | mark :: rest =>
        if isControl mark then none
        else (upToQuote? quote escapes rest).map fun (text, rest) => (c :: mark :: text, rest)
    else (upToQuote? quote escapes rest).map fun (text, rest) => (c :: text, rest)

/-- The text up to the three quotes that end it, and what follows.  Two more quotes may stand right
before those three. -/
def upToQuotes? (quote : Char) (escapes : Bool) : List Char → Option (List Char × List Char)
  | [] => none
  | c :: rest =>
    if c == quote && rest.take 2 == [quote, quote] then
      let more := ((rest.drop 2).takeWhile (· == quote)).take 2
      some (more, rest.drop (2 + more.length))
    else if isControl c && !isLineEnd c then none
    else if escapes && c == '\\' then
      match rest with
      | [] => none
      | mark :: rest =>
        if isControl mark && !isLineEnd mark then none
        else (upToQuotes? quote escapes rest).map fun (text, rest) => (c :: mark :: text, rest)
    else (upToQuotes? quote escapes rest).map fun (text, rest) => (c :: text, rest)

/-- A line end right after the opening quotes does not count. -/
def dropLineEnd : List Char → List Char
  | '\n' :: rest => rest
  | '\r' :: '\n' :: rest => rest
  | text => text

/-- Undoes the escapes of the text, if it may have any. -/
def finish? (escapes : Bool) (text : List Char × List Char) : Option (String × List Char) :=
  (if escapes then unescape? false text.1 else some text.1).map fun plain =>
    (String.ofList plain, text.2)

/-- Text in single quotes or double quotes, after the opening one. -/
def quoted? (quote : Char) (text : List Char) : Option (String × List Char) :=
  (upToQuote? quote (quote == '"') text).bind (finish? (quote == '"'))

/-- Text in three quotes, after the opening ones. -/
def tripleQuoted? (quote : Char) (text : List Char) : Option (String × List Char) :=
  (upToQuotes? quote (quote == '"') (dropLineEnd text)).bind (finish? (quote == '"'))

/-- Text in quotes of any kind. -/
def anyQuoted? (quote : Char) (text : List Char) : Option (String × List Char) :=
  if text.take 2 == [quote, quote] then tripleQuoted? quote (text.drop 2) else quoted? quote text

end OAuthEndpoint.Toml
