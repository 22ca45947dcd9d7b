import OAuthEndpoint.Text.Ascii

/-! Decimal numerals of integers and fractions, as settings spell them. -/

namespace OAuthEndpoint.Number

open Text

/-- The number of one or more decimal digits. -/
def natural? (digits : List Char) : Option Nat :=
  if digits.isEmpty || !digits.all Char.isDigit then none else some (numeral 10 digits)

/-- Whether a minus sign stands first, and the text after a sign. -/
def sign : List Char → Bool × List Char
  | '-' :: rest => (true, rest)
  | '+' :: rest => (false, rest)
  | text => (false, text)

/-- A whole number, with or without a sign. -/
def integer? (text : List Char) : Option Int :=
  let (negative, digits) := sign text
  (natural? digits).map fun n => if negative then -(n : Int) else n

/-- The whole numbers of 64 bits with a sign. -/
def isInt64 (n : Int) : Bool := decide (Int64.minValue.toInt ≤ n ∧ n ≤ Int64.maxValue.toInt)

/-- A whole number that fits 64 bits with a sign. -/
def int64? (text : List Char) : Option Int := (integer? text).filter isInt64

/-- A number of at most 64 bits without a sign; a plus may stand first. -/
def uint64? (text : List Char) : Option Nat :=
  let digits := match text with
    | '+' :: rest => rest
    | _ => text
  (natural? digits).filter (· < UInt64.size)

/-- A decimal fraction: `digits · 10 ^ power`. -/
structure Decimal where
  negative : Bool
  digits : Nat
  power : Int
deriving DecidableEq, Repr

/-- The power after `e` or `E`, or none at all. -/
def power? : List Char → Option Int
  | [] => some 0
  | mark :: rest => if mark == 'e' || mark == 'E' then integer? rest else none

/-- A fraction: digits with a point before, among or after them, and then a power of ten. -/
def Decimal.parse? (text : List Char) : Option Decimal :=
  let (negative, text) := sign text
  let whole := text.takeWhile Char.isDigit
  let (part, rest) := match text.dropWhile Char.isDigit with
    | '.' :: rest => (rest.takeWhile Char.isDigit, rest.dropWhile Char.isDigit)
    | rest => ([], rest)
  match power? rest with
  | none => none
  | some power =>
    if whole.isEmpty && part.isEmpty then none
    else some ⟨negative, numeral 10 (whole ++ part), power - part.length⟩

end OAuthEndpoint.Number
