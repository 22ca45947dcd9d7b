import OAuthEndpoint.Net.Ipv4

/-! IPv6 addresses: eight groups of sixteen bits, of which one run may be left out as `::` and the
last two may be a dotted quad.  Zones are not read. -/

namespace OAuthEndpoint.Net

open Text

structure Ipv6 where
  groups : List Nat
  length_groups : groups.length = 8
deriving DecidableEq, Repr

namespace Ipv6

/-- One to four hexadecimal digits. -/
def group? (digits : List Char) : Option Nat :=
  if digits.isEmpty || digits.length > 4 || !digits.all (isDigitOf 16) then none
  else some (numeral 16 digits)

/-- The groups between colons; where `quadLast` says so, the last piece may be a dotted quad, which
makes two groups. -/
def groups? (quadLast : Bool) : List (List Char) → Option (List Nat)
  | [] => some []
  | [last] =>
    if quadLast && last.contains '.' then
      match Ipv4.quad? last with
      | some [a, b, c, d] => some [a * 256 + b, c * 256 + d]
      | _ => none
    else (group? last).map ([·])
  | piece :: pieces => do return (← group? piece) :: (← groups? quadLast pieces)

/-- The groups of a text that holds no `::`; an empty text has none. -/
def run? (quadLast : Bool) (text : List Char) : Option (List Nat) :=
  if text.isEmpty then some [] else groups? quadLast (split (· == ':') text)

/-- What stands before and after the first `::`. -/
def atDoubleColon : List Char → Option (List Char × List Char)
  | ':' :: ':' :: rest => some ([], rest)
  | [] => none
  | c :: rest => (atDoubleColon rest).map fun (before, after) => (c :: before, after)

def ofGroups? (groups : List Nat) : Option Ipv6 :=
  if h : groups.length = 8 then some ⟨groups, h⟩ else none

def parse? (text : List Char) : Option Ipv6 :=
  match atDoubleColon text with
  | none => (groups? true (split (· == ':') text)).bind ofGroups?
  | some (before, after) => do
    let head ← run? false before
    let tail ← run? true after
    if head.length + tail.length < 8 then
      ofGroups? (head ++ List.replicate (8 - head.length - tail.length) 0 ++ tail)
    else none

/-- The start and length of the first longest run of zero groups: the best so far, then the run
that ends where the reading stands. -/
def zeroRun (best current : Nat × Nat) (position : Nat) : List Nat → Nat × Nat
  | [] => best
  | group :: groups =>
    if group = 0 then
      let current := (if current.2 = 0 then position else current.1, current.2 + 1)
      zeroRun (if best.2 < current.2 then current else best) current (position + 1) groups
    else zeroRun best (0, 0) (position + 1) groups

def renderGroups (groups : List Nat) : String := ":".intercalate (groups.map hexNumeral)

/-- Lower case hexadecimal, the first longest run of at least two zero groups left out. -/
def render (address : Ipv6) : String :=
  let run := zeroRun (0, 0) (0, 0) 0 address.groups
  if 2 ≤ run.2 then
    renderGroups (address.groups.take run.1) ++ "::" ++
      renderGroups (address.groups.drop (run.1 + run.2))
  else renderGroups address.groups

/-- The IPv4 address that an IPv6 address embeds after `::ffff:`. -/
def embedded? (address : Ipv6) : Option Ipv4 :=
  match address.groups with
  | [0, 0, 0, 0, 0, 0xFFFF, high, low] => some (Ipv4.ofOctets [high / 256, high % 256, low / 256,
      low % 256])
  | _ => none

end Ipv6

end OAuthEndpoint.Net
