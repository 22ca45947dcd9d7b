import OAuthEndpoint.Data.Basic
import OAuthEndpoint.Number.Arithmetic
import OAuthEndpoint.Text.Pieces

/-! Numbers in JSON.  A whole number of 64 bits with a sign stays one.  Every other number is a
floating point number, read in few steps that each round: the digits that fit 64 bits, as a number,
times or through a power of ten.  So the last bit may differ from that of the nearest number. -/

namespace OAuthEndpoint.Json

open Text Number

/-- Reads digits after a number as long as it fits 64 bits, and gives the digits left. -/
def significand (start : Nat) : List Char → Nat × List Char
  | [] => (start, [])
  | c :: rest =>
    let next := start * 10 + numeral 10 [c]
    if next < UInt64.size then significand next rest else (start, c :: rest)

/-- The highest power of ten that is at hand. -/
def powerLimit : Nat := 308

/-- Ten to a power, rounded. -/
def powerOfTen (power : Nat) : Binary64 := .ofDecimal ⟨false, 1, power⟩

/-- A number times a power of ten; one too large is refused.  Powers below those at hand take
several quotients. -/
def timesPowerOfTen? (x : Binary64) (power : Int) : Option Binary64 :=
  if power.natAbs ≤ powerLimit then
    if 0 ≤ power then
      let product := x.mul (powerOfTen power.natAbs)
      if product.isFinite then some product else none
    else some (x.div (powerOfTen power.natAbs))
  else if x.isZero then some x
  else if 0 ≤ power then none
  else timesPowerOfTen? (x.div (powerOfTen powerLimit)) (power + powerLimit)
termination_by power.natAbs
decreasing_by simp only [powerLimit] at *; omega

/-- The number with some digits before the point and some after it, times a power of ten. -/
def float? (negative : Bool) (whole part : List Char) (power : Int) : Option Binary64 :=
  let (start, left) := significand 0 whole
  let (digits, unread) := significand start part
  timesPowerOfTen? (.rounded negative (digits, 1))
    (power + left.length - (part.length - unread.length : Nat))

/-- The number that a word spells.  It starts with a digit or a minus and a digit, has no needless
zero at its start and a digit after its point.  Minus zero is a floating point number. -/
def number? (word : List Char) : Option Data :=
  let unsigned := (after? ['-'] word).getD word
  let negative := word.head? = some '-'
  let whole := unsigned.takeWhile Char.isDigit
  let (part, rest) := match unsigned.dropWhile Char.isDigit with
    | '.' :: rest => (some (rest.takeWhile Char.isDigit), rest.dropWhile Char.isDigit)
    | rest => (none, rest)
  if whole.isEmpty || (whole.length > 1 && whole.head? = some '0') || part = some [] then none
  else match int64? word with
    | some n =>
      if word = ['-', '0'] then (float? true whole [] 0).map .float else some (.integer n)
    | none => do
      let power ← power? rest
      return .float (← float? negative whole (part.getD []) power)

end OAuthEndpoint.Json
