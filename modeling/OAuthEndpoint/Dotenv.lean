import OAuthEndpoint.Settings.Environment
import OAuthEndpoint.Text.Alphanumeric
import OAuthEndpoint.Text.Blank

/-! Variables in a `.env` file.  Each line is `NAME=value`, with quotes, escapes, comments and
substitutions as in a shell.  A variable that is set already keeps its value.  A line that is wrong
ends the reading but takes back nothing; a value that cannot be set ends the process. -/

namespace OAuthEndpoint.Dotenv

open Text

/-- Where the search for the end of a logical line stands. -/
inductive Scan where
  | plain
  | blank
  | escape
  | inQuote (quote : Char)
  | inQuoteEscape (quote : Char)
deriving DecidableEq, Repr

/-- The state after a character outside quotes; `blanks` says whether a blank is one here. -/
def Scan.outside (blanks : Bool) (c : Char) : Scan :=
  if blanks && isWhiteSpace c && c != '\n' && c != '\r' then .blank
  else if c == '\\' then .escape
  else if c == '"' || c == '\'' then .inQuote c
  else .plain

def Scan.next (scan : Scan) (c : Char) : Scan :=
  match scan with
  | .plain => .outside true c
  | .blank => .outside false c
  | .escape => .plain
  | .inQuote quote =>
    if c == '\\' then .inQuoteEscape quote else if c == quote then .plain else .inQuote quote
  | .inQuoteEscape quote => .inQuote quote

/-- How a physical line ends. -/
inductive LineEnd where
  | comment
  | scan (scan : Scan)
deriving DecidableEq, Repr

/-- Scans a line.  A `#` after a blank starts a comment; what stands before it is kept. -/
def scanLine (scan : Scan) : List Char → List Char × LineEnd
  | [] => ([], .scan scan)
  | c :: rest =>
    if scan = .blank && c == '#' then ([], .comment)
    else
      let (kept, lineEnd) := scanLine (scan.next c) rest
      (c :: kept, lineEnd)

/-- The lines of a text, each with its line end. -/
def physicalLines (text : List Char) : List (List Char) :=
  let pieces := split (· == '\n') text
  (pieces.dropLast.map (· ++ ['\n'])) ++ (pieces.getLast?.toList.filter (!·.isEmpty))

/-- The line without a line feed and a carriage return before it. -/
def dropLineEnd (line : List Char) : List Char :=
  match line.reverse with
  | '\n' :: '\r' :: rest => rest.reverse
  | '\n' :: rest => rest.reverse
  | _ => line

/-- A line whose first character other than blanks is `#`. -/
def isComment (line : List Char) : Bool := (line.dropWhile isWhiteSpace).head? == some '#'

/-- The logical lines of a text: quotes and escapes may hold line ends.  `none` stands for a line
that the text does not finish, after which there is nothing. -/
def logicalLines (start : List Char) (scan : Scan) :
    List (List Char) → List (Option (List Char))
  | [] => if scan = .plain then [] else [none]
  | line :: lines =>
    if isComment (start ++ line) then some [] :: logicalLines [] .plain lines
    else match scanLine scan line with
      | (kept, .comment) => some (start ++ kept) :: logicalLines [] .plain lines
      | (_, .scan .plain) => some (dropLineEnd (start ++ line)) :: logicalLines [] .plain lines
      | (_, .scan scan) => logicalLines (start ++ line) scan lines

/-- A name and what follows it. -/
def name? (text : List Char) : Option (String × List Char) :=
  if (text.head?.map fun c => c.isAlpha || c == '_').getD false then
    let isNameChar (c : Char) := c.isAlphanum || c == '_' || c == '.'
    some (String.ofList (text.takeWhile isNameChar), text.dropWhile isNameChar)
  else none

/-- Where the reading of a value stands. -/
inductive Mode where
  | plain
  | weak
  | strong
  /-- After the value only blanks and a comment may stand. -/
  | after
deriving DecidableEq, Repr

/-- A substitution that is being read: its name so far in reverse, and whether it is in braces. -/
structure Substitution where
  braced : Bool
  name : List Char
deriving DecidableEq, Repr

structure ValueState where
  mode : Mode
  escaped : Bool
  substitution : Option Substitution
  /-- The value so far, in reverse. -/
  value : List Char

/-- Appends the value of a variable, or nothing where it has none. -/
def ValueState.substitute (environment : Environment) (name : List Char) (state : ValueState) :
    ValueState :=
  let text := (environment.get? (String.ofList name.reverse)).getD ""
  { state with substitution := none, value := text.toList.reverse ++ state.value }

def ValueState.push (c : Char) (state : ValueState) : ValueState :=
  { state with value := c :: state.value }

/-- A character inside a substitution. -/
def ValueState.inSubstitution (environment : Environment) (c : Char) (started : Substitution)
    (state : ValueState) : ValueState :=
  let longer := { state with substitution := some { started with name := c :: started.name } }
  if isAlphanumeric c then longer
  else if started.braced then
    if c == '\x7d' then state.substitute environment started.name else longer
  else if c == '\x7b' && started.name.isEmpty then
    { state with substitution := some ⟨true, []⟩ }
  else
    let state := state.substitute environment started.name
    if c == '$' then { state with substitution := some ⟨false, []⟩ } else state.push c

/-- The character that an escape stands for. -/
def escaped? (c : Char) : Option Char :=
  if c == 'n' then some '\n'
  else if c == '\\' || c == '\'' || c == '"' || c == '$' || c == ' ' then some c
  else none

/-- A character outside escapes, substitutions and single quotes. -/
def ValueState.ordinary (c : Char) (state : ValueState) : ValueState :=
  if c == '$' then { state with substitution := some ⟨false, []⟩ }
  else if c == '\\' then { state with escaped := true }
  else if state.mode = .weak then
    if c == '"' then { state with mode := .plain } else state.push c
  else if c == '\'' then { state with mode := .strong }
  else if c == '"' then { state with mode := .weak }
  else if c == ' ' || c == '\t' then { state with mode := .after }
  else state.push c

/-- The value where the reading ends; a quote or a brace that is open there makes it wrong. -/
def ValueState.finish? (environment : Environment) (state : ValueState) : Option String :=
  let unfinished := (state.substitution.map Substitution.braced).getD false
  if unfinished || state.mode = .strong || state.mode = .weak then none
  else
    let name := (state.substitution.map Substitution.name).getD []
    some (String.ofList (state.substitute environment name).value.reverse)

/-- Reads a value from where the reading stands. -/
def readValue (environment : Environment) (state : ValueState) : List Char → Option String
  | [] => state.finish? environment
  | c :: rest =>
    if state.mode = .after then
      if c == ' ' || c == '\t' then readValue environment state rest
      else if c == '#' then state.finish? environment
      else none
    else if state.escaped then
      match escaped? c with
      | some c => readValue environment { state.push c with escaped := false } rest
      | none => none
    else if state.mode = .strong then
      readValue environment (if c == '\'' then { state with mode := .plain } else state.push c) rest
    else match state.substitution with
      | some started => readValue environment (state.inSubstitution environment c started) rest
      | none => readValue environment (state.ordinary c) rest

/-- The value at the end of a line. -/
def value? (environment : Environment) (text : List Char) : Option String :=
  if text.isEmpty || text.head? = some '#' then some ""
  else readValue environment ⟨.plain, false, none, []⟩ text

/-- What follows an equals sign and the blanks after it. -/
def afterEquals? : List Char → Option (List Char)
  | '=' :: rest => some (rest.dropWhile isWhiteSpace)
  | _ => none

/-- The variable that a line sets, if it sets one; `none` where the line is wrong.  The word
`export` may stand before the name. -/
def line? (environment : Environment) (line : List Char) : Option (Option (String × String)) :=
  let line := trim isWhiteSpace line
  if line.isEmpty || line.head? = some '#' then some none
  else do
    let (name, rest) ← name? line
    let rest := rest.dropWhile isWhiteSpace
    match name, afterEquals? rest with
    | name, some rest => return some (name, ← value? environment rest)
    | "export", none =>
      let (name, rest) ← name? rest
      let rest ← afterEquals? (rest.dropWhile isWhiteSpace)
      return some (name, ← value? environment rest)
    | _, none => none

/-- Sets the variables of lines; the flag says whether a line was wrong.  There is no result where a
value cannot be set. -/
def applyLines (environment : Environment) :
    List (Option (List Char)) → Option (Environment × Bool)
  | [] => some (environment, false)
  | none :: _ => some (environment, true)
  | some text :: lines =>
    match line? environment text with
    | none => some (environment, true)
    | some none => applyLines environment lines
    | some (some (name, value)) =>
      match environment.setDefault? name value with
      | none => none
      | some environment => applyLines environment lines

/-- The logical lines of a file, which a byte order mark may stand before. -/
def lines (text : String) : List (Option (List Char)) :=
  let text := (after? ['\uFEFF'] text.toList).getD text.toList
  logicalLines [] .plain (physicalLines text)

/-- The environment with the variables of a `.env` file, and whether the file has a wrong line. -/
def apply (environment : Environment) (text : String) : Option (Environment × Bool) :=
  applyLines environment (lines text)

end OAuthEndpoint.Dotenv
