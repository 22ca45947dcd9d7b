import OAuthEndpoint.Text.Ascii
import OAuthEndpoint.Text.Utf8

/-! Percent escapes: `%` and two hexadecimal digits stand for a byte.  Decoding leaves a `%` that
starts no escape alone; `wellFormed` says that there is none.  The sets at the end say which
characters each part of a URL keeps as they are. -/

namespace OAuthEndpoint.Percent

open Text

/-- The byte that two hexadecimal digits spell. -/
def byte? (high low : UInt8) : Option UInt8 := do
  let h ← hexValue? (Char.ofNat high.toNat)
  let l ← hexValue? (Char.ofNat low.toNat)
  return UInt8.ofNat (h * 16 + l)

/-- Decoding, with the bytes decoded so far in reverse. -/
def decodeOnto (decoded : List UInt8) : List UInt8 → List UInt8
  | [] => decoded.reverse
  | b :: rest =>
    if b = 0x25 then
      match rest with
      | high :: low :: tail =>
        match byte? high low with
        | some byte => decodeOnto (byte :: decoded) tail
        | none => decodeOnto (b :: decoded) (high :: low :: tail)
      | [low] => decodeOnto (b :: decoded) [low]
      | [] => decodeOnto (b :: decoded) []
    else decodeOnto (b :: decoded) rest

/-- Each escape becomes its byte and all else stays. -/
def decode (bytes : List UInt8) : List UInt8 := decodeOnto [] bytes

/-- Every `%` is followed by two hexadecimal digits. -/
def wellFormed : List Char → Bool
  | [] => true
  | c :: rest =>
    if c = '%' then
      match rest with
      | high :: low :: tail =>
        if (hexValue? high).isSome && (hexValue? low).isSome then wellFormed (high :: low :: tail)
        else false
      | _ => false
    else wellFormed rest

/-- The escape of a byte, with upper case digits. -/
def escape (b : UInt8) : List Char := ['%', hexDigit (b.toNat / 16), hexDigit (b.toNat % 16)]

/-- The escapes of a character's UTF-8 bytes. -/
def escapeChar (c : Char) : List Char := (String.utf8EncodeChar c).flatMap escape

/-- Escapes every character that is not to be kept. -/
def encode (keeps : Char → Bool) (text : List Char) : List Char :=
  text.flatMap fun c => if keeps c then [c] else escapeChar c

/-- Printable ASCII, the blank included: an opaque path and an opaque host keep these. -/
def keepsPrintable (c : Char) : Bool := ' ' ≤ c && c ≤ '~'

/-- What a fragment keeps. -/
def keepsInFragment (c : Char) : Bool :=
  keepsPrintable c && !(c == ' ' || c == '"' || c == '<' || c == '>' || c == '\x60')

/-- What a query keeps. -/
def keepsInQuery (c : Char) : Bool :=
  keepsPrintable c && !(c == ' ' || c == '"' || c == '#' || c == '<' || c == '>')

/-- What the query of a special URL keeps: no quote either. -/
def keepsInSpecialQuery (c : Char) : Bool := keepsInQuery c && c != '\''

/-- What a path segment keeps. -/
def keepsInPath (c : Char) : Bool :=
  keepsInFragment c && !(c == '#' || c == '?' || c == '{' || c == '}')

/-- What a user name or password keeps. -/
def keepsInUserinfo (c : Char) : Bool :=
  keepsInPath c && !(c == '/' || c == ':' || c == ';' || c == '=' || c == '@' || c == '[' ||
    c == '\\' || c == ']' || c == '^' || c == '|')

end OAuthEndpoint.Percent
