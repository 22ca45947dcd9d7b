import OAuthEndpoint.Percent
import OAuthEndpoint.Text.Pieces

/-! Form encoded text: pairs of a key and a value, joined by `&` and `=`, with `+` for a blank and
percent escapes.  `serialize` writes pairs and `parse` reads them; `unescape` reads one component
and refuses what `parse` would read leniently. -/

namespace OAuthEndpoint.Form

open Text

/-- What is wrong with form encoded text. -/
inductive Fault where
  | semicolon
  | malformedEscape
  | escapedNotUtf8
  | bodyNotUtf8
deriving DecidableEq, Repr

def Fault.message : Fault → String
  | .semicolon => "Semicolon is not a valid parameter separator"
  | .malformedEscape => "Malformed percent escape"
  | .escapedNotUtf8 => "Escaped value is not valid UTF-8"
  | .bodyNotUtf8 => "Request body is not valid UTF-8"

/-- The characters that stand for themselves: letters, digits and four marks. -/
def keeps (c : Char) : Bool := c.isAlphanum || c == '*' || c == '-' || c == '.' || c == '_'

/-- A component as it is written. -/
def encode (text : String) : List Char :=
  text.toList.flatMap fun c => if c = ' ' then ['+'] else if keeps c then [c]
    else Percent.escapeChar c

def encodePair (pair : String × String) : List Char := encode pair.1 ++ '=' :: encode pair.2

/-- The pairs in order, with `&` between each two. -/
def serialize (pairs : List (String × String)) : String :=
  String.ofList (join ['&'] (pairs.map encodePair))

def plusToSpace (c : Char) : Char := if c = '+' then ' ' else c

/-- The bytes that a component stands for. -/
def bytes (component : List Char) : List UInt8 :=
  Percent.decode (Utf8.encode (component.map plusToSpace))

/-- The text of a component; bytes that are no UTF-8 become U+FFFD. -/
def decode (component : List Char) : String := String.ofList (Utf8.decodeLossy (bytes component))

/-- A segment up to its first `=` is the key and the rest is the value, empty if there is no `=`. -/
def decodePair (segment : List Char) : String × String :=
  match cut (· == '=') segment with
  | (key, none) => (decode key, "")
  | (key, some value) => (decode key, decode value)

/-- The pairs of form encoded text; empty segments are skipped. -/
def pairs (text : List Char) : List (String × String) :=
  ((split (· == '&') text).filter (fun segment => !segment.isEmpty)).map decodePair

/-- Reads form encoded text, which may hold no `;` and no malformed escape. -/
def parse (text : String) : Except Fault (List (String × String)) :=
  if text.toList.contains ';' then .error .semicolon
  else if Percent.wellFormed text.toList then .ok (pairs text.toList)
  else .error .malformedEscape

/-- Undoes one level of encoding of one component. -/
def unescape (text : String) : Except Fault String :=
  if Percent.wellFormed text.toList then
    match Utf8.decode? (bytes text.toList) with
    | some decoded => .ok (String.ofList decoded)
    | none => .error .escapedNotUtf8
  else .error .malformedEscape

end OAuthEndpoint.Form
