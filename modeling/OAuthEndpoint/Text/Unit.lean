import OAuthEndpoint.Text.Ascii

/-! UTF-16 units in hexadecimal, as escapes write them.  A character above U+FFFF takes a pair of
units, and no half of a pair is a character. -/

namespace OAuthEndpoint.Text

/-- The number of four hexadecimal digits. -/
def unit? (digits : List Char) : Option Nat :=
  if digits.all (isDigitOf 16) then some (numeral 16 digits) else none

/-- The character of one unit that is no half of a pair. -/
def charOfUnit? (digits : List Char) : Option Char :=
  (unit? digits).bind fun n => if n < 0xD800 || 0xE000 ≤ n then some (Char.ofNat n) else none

/-- The character of a pair of units. -/
def charOfUnits? (high low : List Char) : Option Char :=
  match unit? high, unit? low with
  | some high, some low =>
    if 0xD800 ≤ high && high < 0xDC00 && 0xDC00 ≤ low && low < 0xE000 then
      some (Char.ofNat (0x10000 + (high - 0xD800) * 0x400 + (low - 0xDC00)))
    else none
  | _, _ => none

end OAuthEndpoint.Text
