import OAuthEndpoint.Yaml.Node

/-! YAML documents.  A text holds any number of them, and settings are read from at most one. -/

namespace OAuthEndpoint.Yaml

namespace Reading

def isDirective : Token → Bool
  | .version => true
  | .tagHandle _ _ => true
  | .reserved => true
  | _ => false

/-- The handle of a tag that a directive declares. -/
def handleOf? : Token → Option (String × String)
  | .tagHandle handle start => some (handle, start)
  | _ => none

/-- The reading after directives, which give the version and each handle at most once. -/
def afterDirectives? (reading : Reading) : Option Reading :=
  let directives := reading.tokens.takeWhile isDirective
  let handles := directives.filterMap handleOf?
  if directives.count .version ≤ 1 && (handles.map Prod.fst).eraseDups.length = handles.length then
    some { reading with tokens := reading.tokens.dropWhile isDirective, handles }
  else none

/-- The root of a document; one that holds nothing has nothing as its root. -/
def root? (reading : Reading) : Option (Node × Reading) :=
  match reading.tokens with
  | [] => some (.null, reading)
  | token :: _ =>
    if isDirective token || token = .documentStart || token = .documentEnd then
      some (.null, reading)
    else node? true false (4 * reading.tokens.length + 4) reading

/-- The roots of the documents that follow.  The first, and one after the mark of an end, needs no
mark at its start.  `fuel` bounds their number. -/
def roots? : Nat → Bool → Reading → Option (List Node)
  | 0, _, _ => none
  | fuel + 1, mayStartBare, reading => do
    let reading := { reading with tokens := reading.tokens.dropWhile (· = Token.documentEnd) }
    if reading.tokens.isEmpty then return []
    let hasDirectives := (reading.tokens.head?.map isDirective).getD false
    let reading ← reading.afterDirectives?
    let isMarked := reading.isAt [.documentStart]
    if !isMarked && (hasDirectives || !mayStartBare) then none
    let (root, reading) ← (if isMarked then reading.drop 1 else reading).root?
    let isEnded := reading.isAt [.documentEnd]
    if !isEnded && (reading.tokens.head?.map isDirective).getD false then none
    return root :: (← roots? fuel isEnded { reading with anchors := [] })

end Reading

/-- The roots of the documents in a text, which ends before a null character. -/
def roots? (text : String) : Option (List Node) := do
  let tokens ← tokens? (text.toList.takeWhile fun c => !isEnd c)
  Reading.roots? (tokens.length + 1) true { tokens }

/-- Reads a text that holds one document, or none, which reads as an empty table. -/
def parse? (text : String) : Option Data := do
  match ← roots? text with
  | [] => return .table []
  | [root] => root.data?
  | _ => none

end OAuthEndpoint.Yaml
