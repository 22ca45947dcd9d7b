import OAuthEndpoint.Text.Pieces
import OAuthEndpoint.Yaml.Text

/-! The tokens of a YAML text.  Indentation opens and closes blocks, and a key is known as one only
by the colon after it: the place before it is kept until then. -/

namespace OAuthEndpoint.Yaml

open Text

/-- What a tag says of a text. -/
structure Tag where
  handle : String
  kind : String
deriving DecidableEq, Repr

inductive Token where
  | version
  | tagHandle (handle start : String)
  /-- A directive that is not known, which does not count. -/
  | reserved
  | documentStart
  | documentEnd
  | blockList
  | blockTable
  | blockEnd
  | flowList
  | flowListEnd
  | flowTable
  | flowTableEnd
  | blockItem
  | flowItem
  | key
  | value
  | alias (name : String)
  | anchor (name : String)
  | tag (tag : Tag)
  | text (isPlain : Bool) (text : String)
deriving DecidableEq, Repr

/-- A place where a key may have started: the number of the token that would be its first. -/
structure KeyStart where
  token : Nat
  line : Nat
  column : Nat
  index : Nat
  /-- Nothing but a key can stand there. -/
  isRequired : Bool
deriving DecidableEq, Repr

/-- An indentation that is open: the one around it, and whether it is that of a block. -/
structure Level where
  outer : Int
  isBlock : Bool
deriving DecidableEq, Repr

/-- What brackets hold. -/
inductive Flow where
  | list
  | table
deriving DecidableEq, Repr

/-- Where a reading of tokens stands. -/
structure Lexer where
  cursor : Cursor
  tokens : Array Token := #[]
  /-- For each bracket that is open, innermost first, and at the end outside them all. -/
  keyStarts : List (Option KeyStart) := [none]
  mayStartKey : Bool := true
  indent : Int := -1
  levels : List Level := []
  flows : List Flow := []
  /-- Where the colon of a value may stand right before the value. -/
  valueIndex : Nat := 0

namespace Lexer

def inFlow (lexer : Lexer) : Bool := !lexer.flows.isEmpty

def emit (token : Token) (lexer : Lexer) : Lexer :=
  { lexer with tokens := lexer.tokens.push token }

def insert (position : Nat) (token : Token) (lexer : Lexer) : Lexer :=
  { lexer with tokens := lexer.tokens.insertIdxIfInBounds position token }

/-- The innermost level is one of a block. -/
def isBlockLevel (lexer : Lexer) : Bool := (lexer.levels.head?.map Level.isBlock).getD false

/-- Notes that a key may start here. -/
def noteKeyStart (lexer : Lexer) : Lexer :=
  if !lexer.mayStartKey then lexer
  else
    let cursor := lexer.cursor
    { lexer with
      keyStarts := some {
        token := lexer.tokens.size, line := cursor.line, column := cursor.column
        index := cursor.index
        isRequired := !lexer.inFlow && lexer.indent == cursor.column && lexer.isBlockLevel
      } :: lexer.keyStarts.tail }

/-- Gives up the place where a key may have started. -/
def dropKeyStart? (lexer : Lexer) : Option Lexer :=
  match lexer.keyStarts with
  | some start :: rest =>
    if start.isRequired then none else some { lexer with keyStarts := none :: rest }
  | _ => some lexer

/-- How far the colon of a key may be from its start. -/
def keyLength : Nat := 1024

/-- Gives up the place where a key outside brackets may have started once it is too far, or on
another line. -/
def dropStaleKeyStart? (lexer : Lexer) : Option Lexer :=
  match lexer.keyStarts with
  | some start :: _ =>
    if !lexer.inFlow && (start.line < lexer.cursor.line ||
        start.index + keyLength < lexer.cursor.index) then
      lexer.dropKeyStart?
    else some lexer
  | _ => some lexer

/-- Closes the levels right of a column. -/
def closeLevels (column : Int) : List Level → Lexer → Lexer
  | [], lexer => lexer
  | level :: levels, lexer =>
    if lexer.inFlow || lexer.indent ≤ column then lexer
    else
      let lexer := { lexer with indent := level.outer, levels }
      closeLevels column levels (if level.isBlock then lexer.emit .blockEnd else lexer)

/-- Closes the levels right of a column. -/
def closeTo (column : Int) (lexer : Lexer) : Lexer := lexer.closeLevels column lexer.levels

/-- Closes the levels that are of no block. -/
def closeLoose : List Level → Lexer → Lexer
  | [], lexer => lexer
  | level :: levels, lexer =>
    if level.isBlock then lexer
    else closeLoose levels { lexer with indent := level.outer, levels }

/-- Opens a block at a column unless one is open there; its token goes to a position or to the
end. -/
def openBlock (column : Nat) (position : Option Nat) (token : Token) (lexer : Lexer) : Lexer :=
  if lexer.inFlow then lexer
  else
    let lexer :=
      match lexer.levels with
      | level :: levels =>
        if lexer.indent ≤ (column : Int) && !level.isBlock then
          { lexer with indent := level.outer, levels }
        else lexer
      | [] => lexer
    if lexer.indent < (column : Int) then
      let lexer :=
        { lexer with indent := column, levels := ⟨lexer.indent, true⟩ :: lexer.levels }
      match position with
      | some position => lexer.insert position token
      | none => lexer.emit token
    else lexer

/-- Asks what follows to stand one column right of the block. -/
def openLoose (lexer : Lexer) : Lexer :=
  if !lexer.inFlow && lexer.isBlockLevel then
    { lexer with indent := lexer.indent + 1, levels := ⟨lexer.indent, false⟩ :: lexer.levels }
  else lexer

/-- Passes blanks, line ends and comments.  A tab may not stand in the indentation of a block.
`fuel` bounds the steps. -/
def passGap? : Nat → Lexer → Option Lexer
  | 0, lexer => some lexer
  | fuel + 1, lexer =>
    let cursor := lexer.cursor
    let c := cursor.peek
    if c == '\t' && !lexer.levels.isEmpty && cursor.isIndent && cursor.isLeftOf lexer.indent then do
      let cursor ← cursor.passBlanks?
      if isLineEnd cursor.peek then passGap? fuel { lexer with cursor } else none
    else if isBlank c then passGap? fuel { lexer with cursor := cursor.next }
    else if isBreak c then
      passGap? fuel
        { lexer with cursor := cursor.next, mayStartKey := lexer.mayStartKey || !lexer.inFlow }
    else if c == '#' then passGap? fuel { lexer with cursor := cursor.pass fun _ => true }
    else some lexer

/-- The border of a document: all levels close. -/
def border? (token : Token) (lexer : Lexer) : Option Lexer := do
  let lexer ← (lexer.closeTo (-1)).dropKeyStart?
  return { lexer with mayStartKey := false, cursor := lexer.cursor.forward 3 }.emit token

/-- The end of a document, after which only blanks and a comment may stand in the line. -/
def documentEnd? (lexer : Lexer) : Option Lexer := do
  let lexer ← lexer.border? .documentEnd
  let cursor ← lexer.cursor.passBlanks?
  if isLineEnd cursor.peek then some { lexer with cursor } else none

/-- Whether a word is two numbers with a point between. -/
def isVersion (word : List Char) : Bool :=
  match split (· == '.') word with
  | [major, minor] => [major, minor].all fun digits => !digits.isEmpty && digits.all Char.isDigit
  | _ => false

/-- The directive with a name and the words after it. -/
def directiveOf? (name : List Char) (words : List (List Char)) : Option Token :=
  if name = ['Y', 'A', 'M', 'L'] then
    match words with
    | [version] => if isVersion version then some .version else none
    | _ => none
  else if name = ['T', 'A', 'G'] then
    match words with
    | [handle, start] =>
      if handle.head? = some '!' && handle.getLast? = some '!' then
        some (.tagHandle (String.ofList handle) (String.ofList start))
      else none
    | _ => none
  else if name.isEmpty then none
  else some .reserved

/-- The words before a comment. -/
def wordsOf (line : List Char) : List (List Char) :=
  ((split isBlank line).filter fun word => !word.isEmpty).takeWhile fun word =>
    word.head? ≠ some '#'

/-- A line that starts with a percent sign. -/
def directive? (lexer : Lexer) : Option Lexer := do
  let lexer ← (lexer.closeTo (-1)).dropKeyStart?
  let line := lexer.cursor.run fun _ => true
  match split isBlank line.tail with
  | name :: _ =>
    let token ← directiveOf? name (wordsOf (line.drop (name.length + 1)))
    let cursor := lexer.cursor.forward line.length
    return { lexer with mayStartKey := false, cursor := cursor.next }.emit token
  | [] => none

def openFlow? (flow : Flow) (token : Token) (lexer : Lexer) : Option Lexer := do
  let lexer := lexer.noteKeyStart.openLoose
  if 255 ≤ lexer.flows.length then none
  let cursor ← lexer.cursor.next.passBlanks?
  return { lexer with
    cursor, flows := flow :: lexer.flows, keyStarts := none :: lexer.keyStarts
    mayStartKey := true }.emit token

def closeFlow? (token : Token) (lexer : Lexer) : Option Lexer := do
  let lexer ← lexer.dropKeyStart?
  let cursor ← lexer.cursor.next.passBlanks?
  let keyStarts := if lexer.inFlow then lexer.keyStarts.tail else lexer.keyStarts
  let flows := lexer.flows.tail
  return { lexer with
    cursor, flows, keyStarts, mayStartKey := false
    valueIndex := if flows.isEmpty then lexer.valueIndex else cursor.index }.emit token

def flowItem? (lexer : Lexer) : Option Lexer := do
  let lexer ← lexer.dropKeyStart?
  let cursor ← lexer.cursor.next.passBlanks?
  return { lexer with cursor, mayStartKey := true }.emit .flowItem

/-- An item of a list in a block, after its hyphen. -/
def blockItem? (lexer : Lexer) : Option Lexer := do
  if lexer.inFlow || !lexer.mayStartKey then none
  let start := lexer.cursor
  let blanks := start.next.run isBlank
  let cursor ← start.next.passBlanks?
  if '\t' ∈ blanks && cursor.peek == '-' && isGap cursor.peekNext then none
  let lexer := { lexer with cursor }.openBlock start.column none .blockList
  let lexer := if isBreak cursor.peek || isFlowMark cursor.peek then lexer.openLoose else lexer
  let lexer ← lexer.dropKeyStart?
  return { lexer with mayStartKey := true }.emit .blockItem

/-- A key after a question mark. -/
def key? (lexer : Lexer) : Option Lexer := do
  if !lexer.inFlow && !lexer.mayStartKey then none
  let cursor := lexer.cursor.next
  if cursor.peek == '\t' || (cursor.pass (· == ' ')).peek == '\t' then none
  let lexer ← (lexer.openBlock lexer.cursor.column none .blockTable).dropKeyStart?
  return { lexer with cursor, mayStartKey := !lexer.inFlow }.emit .key

/-- A value after a colon.  If a key may have started before it, one has. -/
def value? (lexer : Lexer) : Option Lexer := do
  let start := lexer.cursor
  let blanks := start.next.run isBlank
  let cursor ← if start.next.peek == '\t' then start.next.passBlanks? else some start.next
  if start.next.peek == '\t' && ' ' ∉ blanks && (cursor.peek == '-' || cursor.peek.isAlphanum) then
    none
  match lexer.keyStarts with
  | some key :: keyStarts =>
    if lexer.flows.head? = some .list && key.line < start.line then none
    let lexer := (lexer.insert key.token .key).openBlock key.column (some key.token) .blockTable
    return { lexer.openLoose with
      cursor, keyStarts := none :: keyStarts, mayStartKey := false }.emit .value
  | _ =>
    if !lexer.inFlow && !lexer.mayStartKey then none
    let lexer := (lexer.openBlock start.column none .blockTable).openLoose
    return { lexer with cursor, mayStartKey := !lexer.inFlow }.emit .value

def isAnchorChar (c : Char) : Bool := !isGap c && !isFlowMark c && c != '\uFEFF'

/-- An anchor or an alias after its mark. -/
def name? (token : String → Token) (lexer : Lexer) : Option Lexer :=
  let lexer := lexer.noteKeyStart
  let name := lexer.cursor.next.run isAnchorChar
  if name.isEmpty then none
  else some ({ lexer with
    mayStartKey := false, cursor := lexer.cursor.next.pass isAnchorChar }.emit
      (token (String.ofList name)))

/-- The tag that a word spells: a kind after a handle, or a kind alone. -/
def tagOf (word : List Char) : Tag :=
  match cut (· == '!') word.tail with
  | (handle, some kind) => ⟨String.ofList ('!' :: handle ++ ['!']), String.ofList kind⟩
  | (kind, none) => ⟨"!", String.ofList kind⟩

/-- A tag: in angle brackets in full, or with a handle. -/
def tag? (lexer : Lexer) : Option Lexer :=
  let lexer := lexer.noteKeyStart
  let isFull := lexer.cursor.peekNext == '<'
  let isTagChar (c : Char) : Bool := !isGap c && (isFull || !isFlowMark c)
  let word := lexer.cursor.run isTagChar
  let cursor := lexer.cursor.pass isTagChar
  if isFull && (word.getLast? ≠ some '>' || word.length < 4) then none
  else if !isGap cursor.peek && !lexer.inFlow then none
  else
    let tag := if isFull then ⟨"", String.ofList word⟩ else tagOf word
    some ({ lexer with mayStartKey := false, cursor }.emit (.tag tag))

def blockText? (folds : Bool) (lexer : Lexer) : Option Lexer := do
  let lexer := lexer.noteKeyStart
  let lexer := lexer.closeLoose lexer.levels
  let (text, cursor) ← block? folds lexer.indent lexer.cursor.next
  return { lexer with mayStartKey := true, cursor }.emit (.text false text)

/-- A text in quotes.  After it in its line stands nothing, a colon or, in brackets, their marks. -/
def quotedText? (lexer : Lexer) : Option Lexer := do
  let start := lexer.cursor
  let lexer := lexer.noteKeyStart
  let (text, cursor) ← quoted? lexer.indent start
  let cursor ← cursor.passBlanks?
  let c := cursor.peek
  if isLineEnd c || (lexer.inFlow && (c == ',' || c == '\x7d' || c == ']' || c == ':')) ||
      (c == ':' && cursor.line = start.line) then
    let lexer ← { lexer with mayStartKey := false, cursor }.passGap? (cursor.rest.length + 1)
    return { lexer with valueIndex := lexer.cursor.index }.emit (.text false text)
  else none

def plainText? (lexer : Lexer) : Option Lexer := do
  let lexer := { lexer.noteKeyStart with mayStartKey := false }
  let lexer := lexer.closeLoose lexer.levels
  let (text, cursor) ← plain? lexer.inFlow (lexer.indent + 1) lexer.cursor
  return { lexer with cursor, mayStartKey := cursor.isIndent }.emit (.text true text)

/-- Whether a colon here has a value after it. -/
def isValueMark (lexer : Lexer) : Bool :=
  let following := lexer.cursor.peekNext
  isGap following ||
    (lexer.inFlow && (isFlowMark following || lexer.cursor.index == lexer.valueIndex))

/-- Reads the token that starts here. -/
def token? (lexer : Lexer) : Option Lexer :=
  let c := lexer.cursor.peek
  let following := lexer.cursor.peekNext
  if c == '[' then lexer.openFlow? .list .flowList
  else if c == '\x7b' then lexer.openFlow? .table .flowTable
  else if c == ']' then lexer.closeFlow? .flowListEnd
  else if c == '\x7d' then lexer.closeFlow? .flowTableEnd
  else if c == ',' then lexer.flowItem?
  else if c == '-' && isGap following then lexer.blockItem?
  else if c == '?' && isGap following then lexer.key?
  else if c == ':' && lexer.isValueMark then lexer.value?
  else if c == '*' then lexer.name? .alias
  else if c == '&' then lexer.name? .anchor
  else if c == '!' then lexer.tag?
  else if c == '|' && !lexer.inFlow then lexer.blockText? false
  else if c == '>' && !lexer.inFlow then lexer.blockText? true
  else if c == '\'' || c == '"' then lexer.quotedText?
  else if c == '%' || c == '@' || c == '\x60' then none
  else lexer.plainText?

/-- Ends the text: all levels close. -/
def finish? (lexer : Lexer) : Option (List Token) :=
  if lexer.keyStarts.any fun start => (start.map KeyStart.isRequired).getD false then none
  else some (lexer.closeTo (-1)).tokens.toList

/-- Reads all tokens that are left.  `fuel` bounds their number. -/
def tokens? : Nat → Lexer → Option (List Token)
  | 0, _ => none
  | fuel + 1, lexer => do
    let lexer ← lexer.passGap? (lexer.cursor.rest.length + 1)
    let lexer ← lexer.dropStaleKeyStart?
    let cursor := lexer.cursor
    let lexer := lexer.closeTo cursor.column
    if isEnd cursor.peek then lexer.finish?
    else if cursor.column = 0 && cursor.peek == '%' then (← lexer.directive?).tokens? fuel
    else if cursor.isAtDocumentMark '-' then (← lexer.border? .documentStart).tokens? fuel
    else if cursor.isAtDocumentMark '.' then (← lexer.documentEnd?).tokens? fuel
    else if cursor.isLeftOf lexer.indent && cursor.peek != ']' && cursor.peek != '\x7d' then none
    else (← lexer.token?).tokens? fuel

end Lexer

/-- The tokens of a text. -/
def tokens? (text : List Char) : Option (List Token) :=
  Lexer.tokens? (text.length + 1) { cursor := { rest := text } }

end OAuthEndpoint.Yaml
