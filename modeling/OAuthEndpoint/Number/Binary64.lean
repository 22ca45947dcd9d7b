import OAuthEndpoint.Number.Decimal

/-! Floating point numbers of 64 bits, as exact fractions `mantissa · 2 ^ exponent`.  A decimal is
rounded to the nearest of them, a tie to the even mantissa, and a number is written with the fewest
digits that read back as it. -/

namespace OAuthEndpoint.Number

inductive Binary64 where
  | nan
  | infinite (negative : Bool)
  | finite (negative : Bool) (mantissa : Nat) (exponent : Int)
deriving DecidableEq, Repr

namespace Binary64

/-- The fraction `numerator / denominator` times a power of a base, as a fraction. -/
def scale (base : Nat) (power : Int) (fraction : Nat × Nat) : Nat × Nat :=
  if 0 ≤ power then (fraction.1 * base.pow power.toNat, fraction.2)
  else (fraction.1, fraction.2 * base.pow (-power).toNat)

/-- The nearest whole number, a tie to the even one. -/
def nearestEven (fraction : Nat × Nat) : Nat :=
  let quotient := fraction.1 / fraction.2
  let rest := fraction.1 % fraction.2
  if 2 * rest > fraction.2 ∨ (2 * rest = fraction.2 ∧ quotient % 2 = 1) then quotient + 1
  else quotient

/-- The exponent at which a positive fraction has a mantissa of 53 bits, or the least exponent. -/
def exponentOf (fraction : Nat × Nat) : Int :=
  let guess := (fraction.1.log2 : Int) - fraction.2.log2 - 52
  let scaled := scale 2 (-guess) fraction
  max (-1074) (if scaled.1 < Nat.pow 2 52 * scaled.2 then guess - 1 else guess)

/-- The number nearest to a positive fraction. -/
def ofFraction (negative : Bool) (fraction : Nat × Nat) : Binary64 :=
  let exponent := exponentOf fraction
  let mantissa := nearestEven (scale 2 (-exponent) fraction)
  let (mantissa, exponent) :=
    if mantissa = Nat.pow 2 53 then (Nat.pow 2 52, exponent + 1) else (mantissa, exponent)
  if exponent > 971 then .infinite negative else .finite negative mantissa exponent

/-- The number nearest to a decimal.  One beyond 400 places on either side needs no arithmetic. -/
def ofDecimal (decimal : Decimal) : Binary64 :=
  let places := (Nat.toDigits 10 decimal.digits).length
  if decimal.digits = 0 ∨ places + decimal.power < -400 then .finite decimal.negative 0 (-1074)
  else if places + decimal.power > 400 then .infinite decimal.negative
  else ofFraction decimal.negative (scale 10 decimal.power (decimal.digits, 1))

/-- Reads a decimal, or an infinity or a NaN by name in any letter case. -/
def parse? (text : List Char) : Option Binary64 :=
  match Decimal.parse? text with
  | some decimal => some (ofDecimal decimal)
  | none =>
    let (negative, name) := sign text
    match (name.map Char.toLower) with
    | ['i', 'n', 'f'] => some (.infinite negative)
    | ['i', 'n', 'f', 'i', 'n', 'i', 't', 'y'] => some (.infinite negative)
    | ['n', 'a', 'n'] => some .nan
    | _ => none

/-- The distance of two fractions over a common denominator. -/
def distance (a b : Nat × Nat) : Nat :=
  (a.1 * b.2 - b.1 * a.2) + (b.1 * a.2 - a.1 * b.2)

/-- A decimal of at most `count` digits that reads back as the positive number `mantissa · 2 ^
exponent`: the nearer of the two on either side of it. -/
def withDigits? (mantissa : Nat) (exponent : Int) (places : Int) (count : Nat) : Option Decimal :=
  let value := scale 2 exponent (mantissa, 1)
  let power := places - count
  let scaled := scale 10 (-power) value
  let low := scaled.1 / scaled.2
  let readsBack (digits : Nat) : Bool :=
    ofDecimal ⟨false, digits, power⟩ == .finite false mantissa exponent
  let ordered :=
    if distance scaled (low, 1) < distance scaled (low + 1, 1) then [low, low + 1]
    else [low + 1, low]
  (ordered.find? readsBack).map fun digits => ⟨false, digits, power⟩

/-- The number of digits before the point of a positive fraction; it is zero or less where the
fraction starts with zeros. -/
def placesOf (fraction : Nat × Nat) : Int :=
  let whole := fraction.1 / fraction.2
  if whole ≠ 0 then (Nat.toDigits 10 whole).length
  else
    let places : Int := (Nat.toDigits 10 (fraction.2 / fraction.1)).length
    if fraction.2 % fraction.1 = 0 && fraction.2 / fraction.1 = Nat.pow 10 (places - 1).toNat then
      2 - places
    else 1 - places

/-- The shortest decimal that reads back; seventeen digits always do. -/
def shortest (mantissa : Nat) (exponent : Int) : Decimal :=
  let places := placesOf (scale 2 exponent (mantissa, 1))
  ((List.range 17).findSome? fun n => withDigits? mantissa exponent places (n + 1)).getD
    ⟨false, mantissa, 0⟩

/-- The digits of a decimal with all its places and no power of ten. -/
def layOut (decimal : Decimal) : List Char :=
  let digits := Nat.toDigits 10 decimal.digits
  if 0 ≤ decimal.power then digits ++ List.replicate decimal.power.toNat '0'
  else
    let after := (-decimal.power).toNat
    let digits := List.replicate (after + 1 - digits.length) '0' ++ digits
    let part := trimEnd (digits.drop (digits.length - after))
    digits.take (digits.length - after) ++ if part.isEmpty then [] else '.' :: part
where
  /-- Zeros at the end of the part after the point say nothing. -/
  trimEnd (digits : List Char) : List Char := (digits.reverse.dropWhile (· == '0')).reverse

/-- The number with the fewest digits that read back, without a power of ten and with no point
where it is whole. -/
def render : Binary64 → String
  | .nan => "NaN"
  | .infinite negative => if negative then "-inf" else "inf"
  | .finite negative mantissa exponent =>
    let text := if mantissa = 0 then ['0'] else layOut (shortest mantissa exponent)
    String.ofList (if negative then '-' :: text else text)

/-- The nearest whole number, a tie away from zero; below zero and beyond 64 bits the bound, and
zero for NaN. -/
def toUInt64 : Binary64 → Nat
  | .nan => 0
  | .infinite negative => if negative then 0 else UInt64.size - 1
  | .finite true _ _ => 0
  | .finite false mantissa exponent =>
    let scaled := scale 2 exponent (mantissa, 1)
    min (UInt64.size - 1) ((2 * scaled.1 + scaled.2) / (2 * scaled.2))

end Binary64

end OAuthEndpoint.Number
