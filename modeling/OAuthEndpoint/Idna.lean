import OAuthEndpoint.Idna.Direction
import OAuthEndpoint.Idna.Forbidden
import OAuthEndpoint.Idna.Joiner
import OAuthEndpoint.Idna.Mapping
import OAuthEndpoint.Idna.Mark
import OAuthEndpoint.Idna.Normal
import OAuthEndpoint.Idna.Punycode

/-! Domain names with characters beyond ASCII.  A name is mapped and normalized, each label is
checked, and labels beyond ASCII are written as ASCII after `xn--`.  The rules are those for URLs:
hyphens may stand anywhere, names may be of any length, and ASCII marks that URLs use are shut
out. -/

namespace OAuthEndpoint.Idna

open Text

/-- The ASCII characters that a domain may have in the end: printable ones that mean nothing in a
URL around it. -/
def keepsInDomain (c : Char) : Bool :=
  '!' ≤ c && c ≤ '~' && !(c == '#' || c == '%' || c == '/' || c == ':' || c == '<' || c == '>' ||
    c == '?' || c == '@' || c == '[' || c == '\\' || c == ']' || c == '^' || c == '|')

/-- What marks the ASCII form of a label. -/
def encodedMark : List Char := ['x', 'n', '-', '-']

def isEncoded (label : List Char) : Bool := (after? encodedMark label).isSome

def labels (domain : List Char) : List (List Char) := split (· == '.') domain

/-- A name in lower case of ASCII alone in which no label is encoded needs no further look. -/
def isPlain (domain : List Char) : Bool :=
  domain.all Punycode.isBasic && !(labels domain).any isEncoded

/-- Every character as it counts: mapped, or as it is. -/
def mapAll (domain : List Char) : List Char :=
  normalize (domain.flatMap fun c => (mapped? c).getD [c])

/-- The rules for the characters of a label. -/
def isValid (label : List Char) : Bool :=
  label.all (fun c => !isForbidden c && (mapped? c).isNone) &&
    !(label.head?.map isMark).getD false && joinersOk [] label

/-- A label in its Unicode form, if it keeps the rules.  An encoded label must hold a character
beyond ASCII and be normalized. -/
def decodeLabel? (label : List Char) : Option (List Char) :=
  match after? encodedMark label with
  | none => if isValid label then some label else none
  | some encoded =>
    if encoded.length ≤ 2000 && encoded.all Punycode.isBasic then
      (Punycode.decode? encoded).filter fun decoded =>
        !decoded.all Punycode.isBasic && normalize decoded == decoded && isValid decoded
    else none

/-- A label in its ASCII form. -/
def encodeLabel? (label : List Char) : Option (List Char) :=
  if label.all Punycode.isBasic then some label
  else if label.length ≤ 1000 then some (encodedMark ++ Punycode.encode label)
  else none

/-- Whether directions mix nowhere; only domains with characters from right to left are looked
at. -/
def directionsOk (labels : List (List Char)) : Bool :=
  let directions := labels.map fun label => label.map Direction.of
  if directions.any fun label => label.any Direction.runsRight then
    directions.all Direction.labelOk
  else true

/-- The ASCII form of a name that is not plain. -/
def encode? (domain : List Char) : Option (List Char) := do
  let decoded ← (labels (mapAll domain)).mapM decodeLabel?
  if directionsOk decoded then
    return join ['.'] (← decoded.mapM encodeLabel?)
  else none

/-- The ASCII form of a domain name, in lower case. -/
def toAscii? (domain : List Char) : Option (List Char) :=
  let lowered := domain.map Char.toLower
  (if isPlain lowered then some lowered else encode? domain).filter fun name =>
    name.all keepsInDomain

end OAuthEndpoint.Idna
