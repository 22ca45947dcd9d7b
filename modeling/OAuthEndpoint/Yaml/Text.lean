import OAuthEndpoint.Yaml.Cursor

/-! Texts in YAML: plain, in quotes, and in blocks.  Each reading gives the text and the cursor
after it.  Lines fold: a line end within a text reads as a blank, and of more line ends in a row the first
does not count. -/

namespace OAuthEndpoint.Yaml

open Text

/-- What stands between two words of a text. -/
inductive Between where
  | blanks (text : List Char)
  /-- A line end and so many more. -/
  | lineEnds (more : Nat)
  /-- A line end that does not count and so many more. -/
  | joined (more : Nat)
deriving DecidableEq, Repr

namespace Between

def nothing : Between := .blanks []

def text : Between → List Char
  | .blanks text => text
  | .lineEnds 0 => [' ']
  | .lineEnds more => List.replicate more '\n'
  | .joined more => List.replicate more '\n'

/-- Blanks around line ends do not count. -/
def addBlank (c : Char) : Between → Between
  | .blanks text => .blanks (text ++ [c])
  | between => between

def addLineEnd : Between → Between
  | .blanks _ => .lineEnds 0
  | .lineEnds more => .lineEnds (more + 1)
  | .joined more => .joined (more + 1)

def hasLineEnd : Between → Bool
  | .blanks _ => false
  | _ => true

end Between

/-- Whether a column is left of where a block stands. -/
def Cursor.isLeftOf (cursor : Cursor) (indent : Int) : Bool := (cursor.column : Int) < indent

/-- The character of an escape with one letter. -/
def escaped? (c : Char) : Option Char :=
  match c with
  | '0' => some '\x00'
  | 'a' => some '\x07'
  | 'b' => some '\x08'
  | 't' | '\t' => some '\t'
  | 'n' => some '\n'
  | 'v' => some '\x0b'
  | 'f' => some '\x0c'
  | 'r' => some '\r'
  | 'e' => some '\x1b'
  | ' ' | '"' | '/' | '\\' => some c
  | 'N' => some '\u0085'
  | '_' => some '\u00A0'
  | 'L' => some '\u2028'
  | 'P' => some '\u2029'
  | _ => none

/-- How many hexadecimal digits follow the letter of an escape. -/
def digitsAfter : Char → Nat
  | 'x' => 2
  | 'u' => 4
  | 'U' => 8
  | _ => 0

/-- The character of an escape after its backslash, and the cursor after it. -/
def escape? (cursor : Cursor) : Option (Char × Cursor) :=
  let count := digitsAfter cursor.peek
  if count = 0 then (escaped? cursor.peek).map fun c => (c, cursor.next)
  else
    let digits := cursor.rest.tail.take count
    let n := numeral 16 digits
    if digits.length = count && digits.all (isDigitOf 16) &&
        (n < 0xD800 || (0xE000 ≤ n && n < 0x110000)) then
      some (Char.ofNat n, cursor.forward (count + 1))
    else none

/-- A text in quotes after what is read of it, in reverse.  A quote written twice in single quotes
is one, and in double quotes a backslash takes away the line end after it.  Lines go on to the right of
the block that holds the text.  `fuel` bounds the number of characters. -/
def quotedAfter? (quote : Char) (indent : Int) :
    Nat → List Char → Between → Cursor → Option (String × Cursor)
  | 0, _, _, _ => none
  | fuel + 1, before, between, cursor =>
    let c := cursor.peek
    if isBlank c then
      if between.hasLineEnd && c == '\t' && cursor.isLeftOf indent then none
      else quotedAfter? quote indent fuel before (between.addBlank c) cursor.next
    else if isBreak c then
      quotedAfter? quote indent fuel before between.addLineEnd cursor.next
    else if isEnd c || cursor.isLeftOf indent || cursor.isAtDocumentBorder then none
    else
      let before := between.text.reverse ++ before
      if c == quote then
        if quote == '\'' && cursor.peekNext == quote then
          quotedAfter? quote indent fuel (c :: before) .nothing cursor.next.next
        else some (String.ofList before.reverse, cursor.next)
      else if c == '\\' && quote == '"' then
        if isBreak cursor.peekNext then
          quotedAfter? quote indent fuel before (.joined 0) cursor.next.next
        else do
          let (char, cursor) ← escape? cursor.next
          quotedAfter? quote indent fuel (char :: before) .nothing cursor
      else quotedAfter? quote indent fuel (c :: before) .nothing cursor.next

/-- A text in quotes, from its opening one on. -/
def quoted? (indent : Int) (cursor : Cursor) : Option (String × Cursor) :=
  quotedAfter? cursor.peek indent (cursor.rest.length + 1) [] .nothing cursor.next

/-- Whether a plain text may go on with the next character. -/
def Cursor.isPlain (inFlow : Bool) (cursor : Cursor) : Bool :=
  if cursor.peek == ':' then
    !isGap cursor.peekNext && !(inFlow && isFlowMark cursor.peekNext)
  else !(inFlow && isFlowMark cursor.peek)

/-- A plain text after what is read of it, in reverse, and the cursor after it and the blanks and
line ends that follow.  Outside brackets each line of it stands right of a column. -/
def plainAfter? (inFlow : Bool) (column : Int) :
    Nat → List Char → Between → Cursor → Option (String × Cursor)
  | 0, _, _, _ => none
  | fuel + 1, before, between, cursor =>
    let c := cursor.peek
    let found := some (String.ofList before.reverse, cursor)
    if isBlank c then
      if between.hasLineEnd && c == '\t' && cursor.isLeftOf column then do
        let cursor ← cursor.passBlanks?
        if isLineEnd cursor.peek then plainAfter? inFlow column fuel before between cursor else none
      else plainAfter? inFlow column fuel before (between.addBlank c) cursor.next
    else if isBreak c then
      plainAfter? inFlow column fuel before between.addLineEnd cursor.next
    else if isEnd c then found
    else
      let isInWord := between == .nothing && !before.isEmpty
      if !isInWord && !before.isEmpty && !inFlow && cursor.isLeftOf column then found
      else if !isInWord && (c == '#' || cursor.isAtDocumentBorder) then found
      else if !isInWord && inFlow && c == '-' && isFlowMark cursor.peekNext then none
      else if cursor.isPlain inFlow then
        plainAfter? inFlow column fuel (c :: (between.text.reverse ++ before)) .nothing cursor.next
      else found

/-- A plain text, which is not empty. -/
def plain? (inFlow : Bool) (column : Int) (cursor : Cursor) : Option (String × Cursor) :=
  if inFlow && cursor.isLeftOf column then none
  else
    (plainAfter? inFlow column (cursor.rest.length + 1) [] .nothing cursor).filter fun found =>
      found.1 ≠ ""

/-- What becomes of the line ends at the end of a block. -/
inductive Chomping where
  | clip
  | strip
  | keep
deriving DecidableEq, Repr

/-- The marks after the one that starts a block: what becomes of line ends, and by how much its
lines are indented, if that is said. -/
structure BlockHeader where
  chomping : Chomping
  increment : Option Nat
deriving DecidableEq, Repr

def chompingOf? (c : Char) : Option Chomping :=
  if c == '+' then some .keep else if c == '-' then some .strip else none

def incrementOf? (c : Char) : Option Nat := if c.isDigit then some (numeral 10 [c]) else none

/-- The marks in either order and the cursor after them. -/
def BlockHeader.read (cursor : Cursor) : BlockHeader × Cursor :=
  match chompingOf? cursor.peek, incrementOf? cursor.peek with
  | some chomping, _ =>
    match incrementOf? cursor.peekNext with
    | some increment => (⟨chomping, some increment⟩, cursor.next.next)
    | none => (⟨chomping, none⟩, cursor.next)
  | none, some increment =>
    match chompingOf? cursor.peekNext with
    | some chomping => (⟨chomping, some increment⟩, cursor.next.next)
    | none => (⟨.clip, some increment⟩, cursor.next)
  | none, none => (⟨.clip, none⟩, cursor)

/-- The cursor after empty lines and the indent of the line that follows, up to a column if there is
one; with it the number of line ends and the widest indent.  `fuel` bounds the number of lines. -/
def passEmptyLines (limit : Option Nat) : Nat → Nat → Nat → Cursor → Cursor × Nat × Nat
  | 0, lineEnds, widest, cursor => (cursor, lineEnds, widest)
  | fuel + 1, lineEnds, widest, cursor =>
    let blanks := (cursor.run (· == ' ')).length
    let after := cursor.forward (min blanks (limit.getD blanks))
    let widest := max widest after.column
    if isBreak after.peek then passEmptyLines limit fuel (lineEnds + 1) widest after.next
    else (after, lineEnds, widest)

/-- The lines of a block so far, in reverse, and what follows the last of them. -/
structure BlockState where
  text : List Char
  endsLine : Bool := false
  emptyLines : Nat
  startsBlank : Bool := false
  cursor : Cursor

/-- Reads the lines of a block that stand at a column.  Where lines fold, those that start with a
blank do not.  `fuel` bounds the number of lines. -/
def blockLines (folds : Bool) (column : Nat) : Nat → BlockState → BlockState
  | 0, state => state
  | fuel + 1, state =>
    let cursor := state.cursor
    if cursor.column ≠ column || isEnd cursor.peek ||
        (column = 0 && cursor.isAtDocumentBorder) then state
    else
      let lineEnds := (if state.endsLine then 1 else 0) + state.emptyLines
      let between :=
        if folds && state.endsLine && !state.startsBlank && !isBlank cursor.peek then
          if state.emptyLines = 0 then [' '] else List.replicate state.emptyLines '\n'
        else List.replicate lineEnds '\n'
      let line := cursor.run fun _ => true
      let text := line.reverse ++ (between ++ state.text)
      let after := cursor.forward line.length
      if isEnd after.peek then { text, emptyLines := 0, cursor := after }
      else
        let (below, emptyLines, _) := passEmptyLines (some column) after.rest.length 0 0 after.next
        blockLines folds column fuel
          { text, endsLine := true, emptyLines, startsBlank := isBlank cursor.peek
            cursor := below }

/-- The text of a block that has lines, once all are read. -/
def BlockState.finish (column : Nat) (chomping : Chomping) (state : BlockState) : String :=
  let last :=
    if chomping = .strip then 0
    else (if state.endsLine then 1 else 0) +
      if isEnd state.cursor.peek && max column 1 ≤ state.cursor.column then 1 else 0
  let more := if chomping = .keep then state.emptyLines else 0
  String.ofList (state.text.reverse ++ List.replicate (last + more) '\n')

/-- A text in a block, after the mark that says whether lines fold; `indent` is that of the block
around it. -/
def block? (folds : Bool) (indent : Int) (cursor : Cursor) : Option (String × Cursor) := do
  let (header, afterHeader) := BlockHeader.read cursor
  let lineEnd ← afterHeader.passBlanks?
  if !isLineEnd lineEnd.peek || header.increment = some 0 then none
  let start := lineEnd.next
  if start.peek == '\t' then none
  let column? := header.increment.map fun increment => (max indent 0).toNat + increment
  let (first, emptyLines, widest) := passEmptyLines column? (start.rest.length + 1) 0 0 start
  let column := column?.getD (max widest (indent + 1).toNat)
  if isEnd first.peek then
    let lineEnds :=
      if header.chomping = .strip || first.line = cursor.line then 0
      else if header.chomping = .keep then max emptyLines 1
      else 1
    return (String.ofList (List.replicate lineEnds '\n'), first)
  else if first.column < column && indent < first.column then none
  else
    let state := blockLines folds column (first.rest.length + 1)
      { text := [], emptyLines, cursor := first }
    return (state.finish column header.chomping, state.cursor)

end OAuthEndpoint.Yaml
