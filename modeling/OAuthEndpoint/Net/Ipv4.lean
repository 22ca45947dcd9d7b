import OAuthEndpoint.Text.Ascii
import OAuthEndpoint.Text.Pieces

/-! IPv4 addresses.  `parse?` reads the dotted quad alone; the shorter and hexadecimal spellings
that a URL allows belong to its hosts. -/

namespace OAuthEndpoint.Net

open Text

structure Ipv4 where
  value : UInt32
deriving DecidableEq, Repr

namespace Ipv4

/-- The address 0.0.0.0, which stands for every local address. -/
def unspecified : Ipv4 := ⟨0⟩

/-- The address of four numbers below 256, most significant first. -/
def ofOctets (octets : List Nat) : Ipv4 := ⟨UInt32.ofNat (octets.foldl (· * 256 + ·) 0)⟩

def octets (address : Ipv4) : List Nat :=
  let n := address.value.toNat
  [n / 0x1000000, n / 0x10000 % 256, n / 0x100 % 256, n % 256]

/-- A number below 256 of one to three digits, with no leading zero. -/
def octet? (digits : List Char) : Option Nat :=
  if digits.isEmpty || digits.length > 3 || !digits.all Char.isDigit then none
  else if digits.length > 1 && digits.head? == some '0' then none
  else
    let n := numeral 10 digits
    if n < 256 then some n else none

/-- The four octets of a dotted quad. -/
def quad? (text : List Char) : Option (List Nat) :=
  let pieces := split (· == '.') text
  if pieces.length = 4 then pieces.mapM octet? else none

def parse? (text : List Char) : Option Ipv4 := (quad? text).map ofOctets

def render (address : Ipv4) : String := ".".intercalate (address.octets.map toString)

end Ipv4

end OAuthEndpoint.Net
