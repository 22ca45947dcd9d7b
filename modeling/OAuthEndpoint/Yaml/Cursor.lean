import OAuthEndpoint.Text.Ascii

/-! A place in a YAML text: what follows, and where in its line it stands.  YAML gives the column a
meaning, so a reading carries it along. -/

namespace OAuthEndpoint.Yaml

/-- The end of a text reads as this character. -/
def endMark : Char := '\x00'

def isEnd (c : Char) : Bool := c == endMark

def isBlank (c : Char) : Bool := c == ' ' || c == '\t'

def isBreak (c : Char) : Bool := c == '\n' || c == '\r'

/-- A line may end here. -/
def isLineEnd (c : Char) : Bool := isBreak c || isEnd c

/-- A word may end here. -/
def isGap (c : Char) : Bool := isBlank c || isLineEnd c

/-- The characters that have a meaning within brackets. -/
def isFlowMark (c : Char) : Bool := c == ',' || c == '[' || c == ']' || c == '\x7b' || c == '\x7d'

structure Cursor where
  rest : List Char
  line : Nat := 0
  column : Nat := 0
  index : Nat := 0
  /-- Nothing but blanks stands before it in its line. -/
  isIndent : Bool := true
deriving DecidableEq, Repr

namespace Cursor

def peek (cursor : Cursor) : Char := cursor.rest.headD endMark

/-- The character after the one that follows. -/
def peekNext (cursor : Cursor) : Char := cursor.rest.tail.headD endMark

/-- The cursor after one character; a carriage return and a line feed are one line end. -/
def next (cursor : Cursor) : Cursor :=
  match cursor.rest with
  | [] => cursor
  | '\r' :: '\n' :: rest => ⟨rest, cursor.line + 1, 0, cursor.index + 2, true⟩
  | c :: rest =>
    if isBreak c then ⟨rest, cursor.line + 1, 0, cursor.index + 1, true⟩
    else ⟨rest, cursor.line, cursor.column + 1, cursor.index + 1, cursor.isIndent && isBlank c⟩

/-- The cursor after so many characters of its line. -/
def forward (count : Nat) (cursor : Cursor) : Cursor :=
  match count with
  | 0 => cursor
  | count + 1 => forward count cursor.next

/-- The characters of a class that follow in the line. -/
def run (isIn : Char → Bool) (cursor : Cursor) : List Char :=
  cursor.rest.takeWhile fun c => isIn c && !isLineEnd c

/-- The cursor after the characters of a class. -/
def pass (isIn : Char → Bool) (cursor : Cursor) : Cursor :=
  cursor.forward (cursor.run isIn).length

/-- The cursor at the end of the line, if only blanks and a comment stand before it, or else at the
first other character.  A comment has a blank before it. -/
def passBlanks? (cursor : Cursor) : Option Cursor :=
  let after := cursor.pass isBlank
  if after.peek == '#' then
    if after.index = cursor.index then none else some (after.pass fun _ => true)
  else some after

/-- Whether the mark that starts or ends a document follows at the start of the line. -/
def isAtDocumentMark (c : Char) (cursor : Cursor) : Bool :=
  cursor.column == 0 && cursor.rest.take 3 == [c, c, c] &&
    isGap ((cursor.rest.drop 3).headD endMark)

/-- Whether a document starts or ends here. -/
def isAtDocumentBorder (cursor : Cursor) : Bool :=
  cursor.isAtDocumentMark '-' || cursor.isAtDocumentMark '.'

end Cursor

end OAuthEndpoint.Yaml
