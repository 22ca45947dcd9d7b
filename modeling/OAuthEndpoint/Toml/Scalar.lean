import OAuthEndpoint.Data.Basic
import OAuthEndpoint.Text.Pieces

/-! TOML values that are written without quotes: flags, numbers, dates and times.  A date or a time
is data only as text, in its canonical form. -/

namespace OAuthEndpoint.Toml

open Text Number

/-- Digits of a radix; single underscores may stand between them and are dropped. -/
def digits? (radix : Nat) (text : List Char) : Option (List Char) :=
  let pieces := split (· == '_') text
  if pieces.all fun piece => !piece.isEmpty && piece.all (isDigitOf radix) then some pieces.flatten
  else none

/-- Decimal digits that do not start with a zero, or zero itself. -/
def wholeDigits? (text : List Char) : Option (List Char) :=
  if text.head? = some '0' && text.length > 1 then none else digits? 10 text

/-- A whole number of 64 bits: decimal with or without a sign, or of another radix without. -/
def integer? (text : List Char) : Option Int :=
  let ofRadix (radix : Nat) (digits : List Char) : Option Int :=
    (digits? radix digits).map fun digits => (numeral radix digits : Int)
  let number := match text with
    | '0' :: 'x' :: digits => ofRadix 16 digits
    | '0' :: 'o' :: digits => ofRadix 8 digits
    | '0' :: 'b' :: digits => ofRadix 2 digits
    | _ =>
      let (negative, digits) := sign text
      (wholeDigits? digits).map fun digits =>
        if negative then -(numeral 10 digits : Int) else numeral 10 digits
  number.filter isInt64

/-- The decimal of a number with a point, a power of ten or both. -/
def decimal? (negative : Bool) (text : List Char) : Option Decimal :=
  let (mantissa, power) := cut (fun c => c == 'e' || c == 'E') text
  let (whole, part) := cut (· == '.') mantissa
  if part.isNone && power.isNone then none
  else do
    let whole ← wholeDigits? whole
    let part ← match part with
      | none => some []
      | some part => digits? 10 part
    let power ← match power with
      | none => some 0
      | some power =>
        let (below, digits) := sign power
        (digits? 10 digits).map fun digits =>
          if below then -(numeral 10 digits : Int) else numeral 10 digits
    return ⟨negative, numeral 10 (whole ++ part), power - part.length⟩

/-- A fraction; one too large for 64 bits is refused. -/
def float? (text : List Char) : Option Binary64 :=
  let (negative, text) := sign text
  if text = ['i', 'n', 'f'] then some (.infinite negative)
  else if text = ['n', 'a', 'n'] then some .nan
  else (decimal? negative text).bind fun decimal =>
    match Binary64.ofDecimal decimal with
    | .infinite _ => none
    | number => some number

/-- The number of exactly so many digits. -/
def exactly? (count : Nat) (text : List Char) : Option Nat :=
  if text.length = count then natural? text else none

def daysOf (year month : Nat) : Nat :=
  if month = 2 then if year % 4 = 0 && (year % 100 ≠ 0 || year % 400 = 0) then 29 else 28
  else if month ∈ [4, 6, 9, 11] then 30 else 31

def isDate (text : List Char) : Bool :=
  match (split (· == '-') text) with
  | [year, month, day] =>
    match exactly? 4 year, exactly? 2 month, exactly? 2 day with
    | some year, some month, some day =>
      1 ≤ month && month ≤ 12 && 1 ≤ day && day ≤ daysOf year month
    | _, _, _ => false
  | _ => false

/-- Two digits that make a number up to a bound. -/
def isClock (bound : Nat) (text : List Char) : Bool :=
  match exactly? 2 text with
  | some n => n ≤ bound
  | none => false

/-- A fraction of a second: nine digits count, and zeros at their end do not, but for the first
digit. -/
def fraction (digits : List Char) : List Char :=
  let digits := ((digits.take 9).reverse.dropWhile (· == '0')).reverse
  if digits.isEmpty then ['0'] else digits

/-- Seconds with or without a fraction. -/
def seconds? (text : List Char) : Option (List Char) :=
  match cut (· == '.') text with
  | (whole, none) => if isClock 60 whole then some whole else none
  | (whole, some part) =>
    if isClock 60 whole && (natural? part).isSome then some (whole ++ '.' :: fraction part)
    else none

/-- A time of day, the seconds of which may be left out. -/
def time? (text : List Char) : Option (List Char) :=
  match split (· == ':') text with
  | [hour, minute] =>
    if isClock 23 hour && isClock 59 minute then some (hour ++ ':' :: minute) else none
  | [hour, minute, second] =>
    if isClock 23 hour && isClock 59 minute then
      (seconds? second).map fun second => hour ++ ':' :: minute ++ ':' :: second
    else none
  | _ => none

/-- A distance from universal time after its sign; none at all is written with a plus. -/
def offset? (mark : Char) (text : List Char) : Option (List Char) :=
  match split (· == ':') text with
  | [hour, minute] =>
    if isClock 23 hour && isClock 59 minute then
      some ((if (hour ++ minute).all (· == '0') then '+' else mark) :: text)
    else none
  | _ => none

/-- A time of day, which may say how far it is from universal time. -/
def offsetTime? (text : List Char) : Option (List Char) :=
  match cut (fun c => c == 'Z' || c == 'z') text with
  | (time, some []) => (time? time).map (· ++ ['Z'])
  | (_, some _) => none
  | (_, none) =>
    let time := text.takeWhile fun c => !(c == '+' || c == '-')
    match text.dropWhile fun c => !(c == '+' || c == '-') with
    | [] => time? time
    | mark :: offset => do return (← time? time) ++ (← offset? mark offset)

/-- A date, a time, or both with a `T` between them, in canonical form. -/
def moment? (text : List Char) : Option (List Char) :=
  let date := text.take 10
  match text.drop 10 with
  | [] => if isDate date then some date else time? text
  | mark :: time =>
    if isDate date && (mark == 'T' || mark == 't' || mark == ' ') then
      (offsetTime? time).map fun time => date ++ 'T' :: time
    else time? text

/-- The characters of values without quotes. -/
def isScalarChar (c : Char) : Bool :=
  c.isAlphanum || c == '+' || c == '-' || c == '.' || c == '_' || c == ':'

/-- The text of a value without quotes and what follows it.  One blank may stand between a date and
a time. -/
def scalarText (text : List Char) : List Char × List Char :=
  let first := text.takeWhile isScalarChar
  match text.dropWhile isScalarChar with
  | ' ' :: rest =>
    if isDate first && (rest.head?.map Char.isDigit).getD false then
      (first ++ ' ' :: rest.takeWhile isScalarChar, rest.dropWhile isScalarChar)
    else (first, ' ' :: rest)
  | rest => (first, rest)

/-- The value that a text without quotes stands for. -/
def scalar? (text : List Char) : Option Data :=
  if text = ['t', 'r', 'u', 'e'] then some (.flag true)
  else if text = ['f', 'a', 'l', 's', 'e'] then some (.flag false)
  else match integer? text with
    | some n => some (.integer n)
    | none =>
      match float? text with
      | some x => some (.float x)
      | none => (moment? text).map fun moment => .text (String.ofList moment)

end OAuthEndpoint.Toml
