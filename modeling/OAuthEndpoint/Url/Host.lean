import OAuthEndpoint.Idna
import OAuthEndpoint.Url.Basic
import OAuthEndpoint.Url.Fault

/-! Reading hosts.  The hosts of special schemes are domain names or addresses in any of their
spellings; those of other schemes keep their text. -/

namespace OAuthEndpoint.Url

open Text

/-- A number of an IPv4 address: decimal, octal after `0`, hexadecimal after `0x`. -/
def number? (digits : List Char) : Option Nat :=
  let of (radix : Nat) (digits : List Char) :=
    if digits.all (isDigitOf radix) then some (numeral radix digits) else none
  match digits with
  | [] => none
  | '0' :: 'x' :: digits => of 16 digits
  | '0' :: 'X' :: digits => of 16 digits
  | '0' :: digit :: digits => of 8 (digit :: digits)
  | digits => of 10 digits

/-- The pieces between dots, without an empty last one. -/
def numberPieces (domain : List Char) : List (List Char) :=
  let pieces := split (· == '.') domain
  if pieces.length > 1 && pieces.getLast? == some [] then pieces.dropLast else pieces

/-- A domain whose last piece is a number can only be an address. -/
def endsInNumber (domain : List Char) : Bool :=
  match (numberPieces domain).getLast? with
  | none => false
  | some last => (!last.isEmpty && last.all Char.isDigit) || (number? last).isSome

/-- The address of one to four numbers: the last fills the bytes that the others leave. -/
def ipv4OfNumbers? (numbers : List Nat) : Option Net.Ipv4 :=
  match numbers.getLast? with
  | none => none
  | some last =>
    let leading := numbers.dropLast
    if leading.length < 4 ∧ (∀ n ∈ leading, n < 256) ∧ last < Nat.pow 256 (4 - leading.length) then
      some ⟨UInt32.ofNat (leading.foldl (· * 256 + ·) 0 * Nat.pow 256 (4 - leading.length) + last)⟩
    else none

def ipv4? (domain : List Char) : Option Net.Ipv4 :=
  ((numberPieces domain).mapM number?).bind ipv4OfNumbers?

/-- The address between the brackets. -/
def bracketed (text : List Char) : Except Fault Host :=
  if text.getLast? = some ']' then
    match Net.Ipv6.parse? (text.drop 1).dropLast with
    | some address => .ok (.ipv6 address)
    | none => .error .invalidIpv6
  else .error .invalidIpv6

/-- The host of a special URL. -/
def Host.parse (text : List Char) : Except Fault Host :=
  if text.head? = some '[' then bracketed text
  else
    match Idna.toAscii? (Utf8.decodeLossy (Percent.decode (Utf8.encode text))) with
    | none => .error .invalidDomainName
    | some name =>
      if name.isEmpty then .error .emptyHost
      else if endsInNumber name then
        match ipv4? name with
        | some address => .ok (.ipv4 address)
        | none => .error .invalidIpv4
      else .ok (.domain (String.ofList name))

/-- The characters that end or would confuse a host; none may stand in one. -/
def forbiddenInHost (c : Char) : Bool :=
  c == '\x00' || c == '\t' || c == '\n' || c == '\r' || c == ' ' || c == '#' || c == '/' ||
    c == ':' || c == '<' || c == '>' || c == '?' || c == '@' || c == '[' || c == '\\' ||
    c == ']' || c == '^' || c == '|'

/-- The host of a URL that is not special: `none` where it is empty. -/
def Host.parsePlain (text : List Char) : Except Fault (Option Host) :=
  if text.head? = some '[' then (bracketed text).map some
  else if text.any forbiddenInHost then .error .invalidDomainCharacter
  else if text.isEmpty then .ok none
  else .ok (some (.domain (String.ofList (Percent.encode Percent.keepsPrintable text))))

end OAuthEndpoint.Url
