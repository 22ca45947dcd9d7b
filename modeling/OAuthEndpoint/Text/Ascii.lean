/-! ASCII text: hexadecimal digits, letter case and blanks.  Every class here is ASCII alone: the
formats that use them give no other character a meaning. -/

namespace OAuthEndpoint.Text

/-- The value of a hexadecimal digit of either case. -/
def hexValue? (c : Char) : Option Nat :=
  if '0' ≤ c ∧ c ≤ '9' then some (c.toNat - '0'.toNat)
  else if 'a' ≤ c ∧ c ≤ 'f' then some (c.toNat - 'a'.toNat + 10)
  else if 'A' ≤ c ∧ c ≤ 'F' then some (c.toNat - 'A'.toNat + 10)
  else none

/-- The upper case hexadecimal digit of a value below 16. -/
def hexDigit (n : Nat) : Char :=
  if n < 10 then Char.ofNat ('0'.toNat + n) else Char.ofNat ('A'.toNat + (n - 10))

/-- A digit of a radix up to 16. -/
def isDigitOf (radix : Nat) (c : Char) : Bool :=
  match hexValue? c with
  | some d => d < radix
  | none => false

/-- The number that digits spell in a radix up to 16, most significant digit first. -/
def numeral (radix : Nat) (digits : List Char) : Nat :=
  digits.foldl (fun n c => n * radix + (hexValue? c).getD 0) 0

/-- The digits of a number in lower case hexadecimal, without leading zeros. -/
def hexNumeral (n : Nat) : String := String.ofList (Nat.toDigits 16 n)

/-- Letters A to Z become lower case and all else stays. -/
def lower (text : String) : String := String.ofList (text.toList.map Char.toLower)

/-- Equality up to the case of the letters A to Z. -/
def sameLetters (a b : String) : Bool := lower a == lower b

/-- Removes the characters of a class from both ends. -/
def trim (drop : Char → Bool) (text : List Char) : List Char :=
  ((text.dropWhile drop).reverse.dropWhile drop).reverse

end OAuthEndpoint.Text
