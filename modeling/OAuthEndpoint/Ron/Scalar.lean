import OAuthEndpoint.Data.Basic
import OAuthEndpoint.Text.Pieces

/-! Numbers, characters and texts in RON. -/

namespace OAuthEndpoint.Ron

open Text Number

/-- The character of an escape with one letter. -/
def escaped? (c : Char) : Option Char :=
  match c with
  | 'n' => some '\n'
  | 'r' => some '\r'
  | 't' => some '\t'
  | '0' => some '\x00'
  | '"' | '\'' | '\\' => some c
  | _ => none

/-- The character of one to six hexadecimal digits. -/
def charOf? (digits : List Char) : Option Char :=
  let n := numeral 16 digits
  if !digits.isEmpty && digits.length ≤ 6 && digits.all (isDigitOf 16) &&
      (n < 0xD800 || (0xE000 ≤ n && n < 0x110000)) then
    some (Char.ofNat n)
  else none

/-- Undoes escapes.  The digits of a character stand in braces; `digits` holds those of the one that
has begun. -/
def unescape? : Option (List Char) → List Char → Option (List Char)
  | none, [] => some []
  | some _, [] => none
  | some digits, c :: rest =>
    if c == '\x7d' then do return (← charOf? digits) :: (← unescape? none rest)
    else unescape? (some (digits ++ [c])) rest
  | none, c :: rest =>
    if c == '\\' then
      match rest with
      | 'x' :: a :: b :: rest => do return (← charOf? [a, b]) :: (← unescape? none rest)
      | 'u' :: '\x7b' :: rest => unescape? (some []) rest
      | mark :: rest => do return (← escaped? mark) :: (← unescape? none rest)
      | [] => none
    else (unescape? none rest).map (c :: ·)

/-- The text up to the quote that ends it, still escaped, and what follows. -/
def upToQuote? (quote : Char) : List Char → Option (List Char × List Char)
  | [] => none
  | c :: rest =>
    if c == quote then some ([], rest)
    else if c == '\\' then
      match rest with
      | [] => none
      | mark :: rest => (upToQuote? quote rest).map fun (text, rest) => (c :: mark :: text, rest)
    else (upToQuote? quote rest).map fun (text, rest) => (c :: text, rest)

/-- The text up to an end, and what follows that. -/
def upTo? (stop : List Char) : List Char → Option (List Char × List Char)
  | [] => none
  | c :: rest =>
    match after? stop (c :: rest) with
    | some rest => some ([], rest)
    | none => (upTo? stop rest).map fun (text, rest) => (c :: text, rest)

/-- A text in double quotes, a raw text or a character, and what follows it. -/
def text? : List Char → Option (String × List Char)
  | '"' :: rest => do
    let (inside, rest) ← upToQuote? '"' rest
    return (String.ofList (← unescape? none inside), rest)
  | 'r' :: rest =>
    let hashes := rest.takeWhile (· == '#')
    match rest.dropWhile (· == '#') with
    | '"' :: rest => (upTo? ('"' :: hashes) rest).map fun (text, rest) => (String.ofList text, rest)
    | _ => none
  | '\'' :: '\\' :: rest => do
    let (inside, rest) ← upToQuote? '\'' ('\\' :: rest)
    match ← unescape? none inside with
    | [c] => return (String.singleton c, rest)
    | _ => none
  | '\'' :: c :: '\'' :: rest => some (String.singleton c, rest)
  | _ => none

/-- The digits of a radix; underscores may stand anywhere but before them all. -/
def digits? (radix : Nat) (text : List Char) : Option Nat :=
  let digits := text.filter (· != '_')
  if text.head? = some '_' || digits.isEmpty || !digits.all (isDigitOf radix) then none
  else some (numeral radix digits)

/-- The kinds of whole numbers: whether they have a sign, and their bits. -/
def kinds : List (List Char × Bool × Nat) :=
  [8, 16, 32, 64].flatMap fun bits =>
    [('i' :: Nat.toDigits 10 bits, true, bits), ('u' :: Nat.toDigits 10 bits, false, bits)]

/-- Whether a number is of a kind. -/
def isOfKind (signed : Bool) (bits : Nat) (n : Int) : Bool :=
  if signed then -(Nat.pow 2 (bits - 1) : Int) ≤ n && n < Nat.pow 2 (bits - 1)
  else 0 ≤ n && n < Nat.pow 2 bits

/-- A whole number of 64 bits: decimal or of another radix, with or without its kind after it. -/
def integer? (word : List Char) : Option Int :=
  let (negative, unsigned) := sign word
  let (radix, digits) := match unsigned with
    | '0' :: 'x' :: digits => (16, digits)
    | '0' :: 'o' :: digits => (8, digits)
    | '0' :: 'b' :: digits => (2, digits)
    | digits => (10, digits)
  let kind := digits.dropWhile fun c => isDigitOf 16 c || c == '_'
  match digits? radix (digits.takeWhile fun c => isDigitOf 16 c || c == '_') with
  | none => none
  | some n =>
    let n := if negative then -(n : Int) else n
    if kind.isEmpty then
      if isOfKind true 64 n || isOfKind false 64 n then some n else none
    else
      (kinds.lookup kind).bind fun (signed, bits) => if isOfKind signed bits n then some n else none

/-- The text without underscores, which may stand after a digit or the mark of a power of ten. -/
def withoutUnderscores? : Bool → List Char → Option (List Char)
  | _, [] => some []
  | allowed, c :: rest =>
    if c == '_' then if allowed then withoutUnderscores? true rest else none
    else
      let allowed := if c == '.' then false else allowed || c.isDigit || c == 'e' || c == 'E'
      (withoutUnderscores? allowed rest).map (c :: ·)

/-- The word without the kind of fraction after it. -/
def withoutKind (word : List Char) : List Char :=
  let start := word.take (word.length - 3)
  if word.drop (word.length - 3) ∈ [['f', '3', '2'], ['f', '6', '4']] then start else word

def float? (word : List Char) : Option Binary64 :=
  let word := withoutKind word
  match sign word with
  | (negative, ['i', 'n', 'f']) => some (.infinite negative)
  | (_, ['N', 'a', 'N']) => some .nan
  | _ =>
    ((withoutUnderscores? false word).bind Decimal.parse?).map Binary64.ofDecimal

/-- The number that a word spells; one too large to be whole is a fraction. -/
def number? (word : List Char) : Option Data :=
  match integer? word with
  | some n => some (.integer n)
  | none => (float? word).map .float

end OAuthEndpoint.Ron
