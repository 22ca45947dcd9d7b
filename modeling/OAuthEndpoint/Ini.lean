import OAuthEndpoint.Data.Basic
import OAuthEndpoint.Text.Blank
import OAuthEndpoint.Text.Pieces

/-! INI documents: keys with values, under the names of sections.  Every value is text.  A section
that comes again replaces the one before, and of keys with one name the last counts. -/

namespace OAuthEndpoint.Ini

open Text

/-- The character of an escape with one letter; a character that needs none stands for itself. -/
def escaped (c : Char) : Char :=
  match c with
  | '0' => '\x00'
  | 'a' => '\x07'
  | 'b' => '\x08'
  | 't' => '\t'
  | 'r' => '\r'
  | 'n' => '\n'
  | c => c

/-- The character of four hexadecimal digits, of which the first may be a plus. -/
def charOf? (digits : List Char) : Option Char :=
  let digits := (after? ['+'] digits).getD digits
  let n := numeral 16 digits
  if digits.all (isDigitOf 16) && (n < 0xD800 || 0xE000 ≤ n) then some (Char.ofNat n) else none

/-- The text up to a character that ends it, with escapes undone, and what follows from that
character on.  A backslash takes away the line end after it, and at the end of the document it
stands for itself. -/
def upTo? (isEnd : Char → Bool) (mayEnd : Bool) : List Char → Option (List Char × List Char)
  | [] => if mayEnd then some ([], []) else none
  | c :: rest =>
    if isEnd c then some ([], c :: rest)
    else if c == '\\' then
      match rest with
      | [] => if mayEnd then some (['\\'], []) else none
      | '\n' :: rest => upTo? isEnd mayEnd rest
      | 'x' :: a :: b :: c :: d :: rest => do
        let char ← charOf? [a, b, c, d]
        let (text, rest) ← upTo? isEnd mayEnd rest
        return (char :: text, rest)
      | 'x' :: _ => none
      | mark :: rest =>
        (upTo? isEnd mayEnd rest).map fun (text, rest) => (escaped mark :: text, rest)
    else (upTo? isEnd mayEnd rest).map fun (text, rest) => (c :: text, rest)

def isLineEnd (c : Char) : Bool := c == '\n' || c == '\r'

/-- The text without blanks at its end. -/
def trimEnd (text : List Char) : List Char := (text.reverse.dropWhile isWhiteSpace).reverse

/-- A value on its line and what follows it: parts in quotes, and then text up to the end of the
line, without blanks at its end or, if it is all of the value, at either end.  `fuel` bounds the
number of parts. -/
def parts? : Nat → Bool → List Char → Option (List Char × List Char)
  | 0, _, _ => none
  | _, _, [] => some ([], [])
  | fuel + 1, isFirst, c :: rest =>
    if c == '"' || c == '\'' then do
      let (quoted, rest) ← upTo? (· == c) false rest
      let (more, rest) ← parts? fuel false (rest.drop 1)
      return (quoted ++ more, rest)
    else do
      let (text, rest) ← upTo? isLineEnd true (c :: rest)
      return (if isFirst then trim isWhiteSpace text else trimEnd text, rest)

/-- A value after its mark and what follows it. -/
def value? (text : List Char) : Option (String × List Char) :=
  let text := text.dropWhile fun c => isWhiteSpace c && !isLineEnd c
  (parts? (text.length + 1) true text).map fun (value, rest) => (String.ofList value, rest)

/-- The text without blanks at either end. -/
def name (text : List Char) : String := String.ofList (trim isWhiteSpace text)

inductive Statement where
  | section (name : String)
  | entry (key value : String)
deriving DecidableEq, Repr

def isMark (c : Char) : Bool := c == '=' || c == ':'

/-- The statements of a document.  A comment starts at the start of a line; `atStart` says that the
text does.  `fuel` bounds the steps of the reading. -/
def statements? : Nat → Bool → List Char → Option (List Statement)
  | 0, _, _ => none
  | _, _, [] => some []
  | fuel + 1, atStart, c :: rest =>
    if isWhiteSpace c then statements? fuel (c == '\n') rest
    else if c == ';' || c == '#' then
      if atStart then statements? fuel true ((rest.dropWhile (· != '\n')).drop 1) else none
    else if c == '[' then do
      let (title, rest) ← upTo? (· == ']') false rest
      return .section (name title) :: (← statements? fuel false (rest.drop 1))
    else do
      let (key, rest) ← upTo? isMark false (c :: rest)
      if (name key).isEmpty then none
      else
        let (value, rest) ← value? (rest.drop 1)
        return .entry (name key) value :: (← statements? fuel false rest)

/-- The tables that statements describe; keys before the first section stand beside the sections. -/
structure State where
  general : List (String × Data)
  sections : List (String × List (String × Data))
  current : Option String

def State.step (state : State) : Statement → State
  | .section name =>
    { state with sections := Data.put name [] state.sections, current := some name }
  | .entry key value =>
    match state.current with
    | none => { state with general := Data.put key (.text value) state.general }
    | some name =>
      { state with
        sections := Data.put name
          (Data.put key (.text value) ((state.sections.lookup name).getD [])) state.sections }

/-- The entries of a document.  A section replaces a key of its name. -/
def ofStatements (statements : List Statement) : List (String × Data) :=
  let state := statements.foldl State.step ⟨[], [], none⟩
  state.sections.foldl (fun entries (name, inner) => Data.put name (.table inner) entries)
    state.general

/-- Reads a document. -/
def parse? (text : String) : Option Data :=
  (statements? (text.length + 1) true text.toList).map fun statements =>
    .table (ofStatements statements)

end OAuthEndpoint.Ini
