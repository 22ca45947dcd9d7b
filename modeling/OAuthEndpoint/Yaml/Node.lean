import OAuthEndpoint.Data.Basic
import OAuthEndpoint.Yaml.Token

/-! The values of YAML.  A plain text may be a flag, a number or nothing; a text in quotes or in a
block is text.  Any of them but nothing may be a key, and no key may come twice in a table. -/

namespace OAuthEndpoint.Yaml

open Text Number

inductive Scalar where
  | null
  | flag (value : Bool)
  | integer (value : Int)
  /-- A fraction as it is written. -/
  | fraction (spelling : String)
  | text (value : String)
deriving DecidableEq, Repr

namespace Scalar

/-- A whole number of 64 bits in another radix, with or without a sign. -/
def ofRadix? (radix : Nat) (text : List Char) : Option Int :=
  let (negative, digits) := sign text
  if digits.isEmpty || !digits.all (isDigitOf radix) then none
  else
    let n : Int := numeral radix digits
    some (if negative then -n else n) |>.filter isInt64

/-- The whole number that a plain text is. -/
def integer? (text : List Char) : Option Int :=
  match text with
  | '0' :: 'x' :: digits => ofRadix? 16 digits
  | '0' :: 'o' :: digits => ofRadix? 8 digits
  | '+' :: rest => int64? rest
  | text => int64? text

/-- The names of the numbers that have no digits. -/
def numberNames : List String :=
  [".inf", ".Inf", ".INF", "+.inf", "+.Inf", "+.INF", "-.inf", "-.Inf", "-.INF", ".nan", ".NaN",
    ".NAN"]

def isFraction (text : String) : Bool :=
  text ∈ numberNames ||
    (text.toList.any Char.isDigit && (Binary64.parse? text.toList).isSome)

/-- What a plain text stands for. -/
def ofPlain (text : String) : Scalar :=
  match integer? text.toList with
  | some n => .integer n
  | none =>
    if text ∈ ["", "~", "null"] then .null
    else if text = "true" then .flag true
    else if text = "false" then .flag false
    else if isFraction text then .fraction text
    else .text text

/-- The start of the tags that name kinds of this library. -/
def coreHandle : String := "tag:yaml.org,2002:"

/-- What a plain text with a tag stands for.  One that is not of the kind that the tag names stands
for nothing, and any other tag makes text of it. -/
def ofTagged (tag : Tag) (text : String) : Scalar :=
  if tag.handle ≠ coreHandle then .text text
  else match tag.kind with
    | "bool" => if text = "true" then .flag true else if text = "false" then .flag false else .null
    | "int" => ((int64? text.toList).map Scalar.integer).getD .null
    | "float" => if isFraction text then .fraction text else .null
    | "null" => .null
    | _ => .text text

/-- The key that a scalar is. -/
def key? : Scalar → Option String
  | .null => none
  | .flag value => some (if value then "true" else "false")
  | .integer value => some (toString value)
  | .fraction spelling => some spelling
  | .text value => some value

/-- A scalar as data; only a fraction that has digits is. -/
def data? : Scalar → Option Data
  | .null => some .null
  | .flag value => some (.flag value)
  | .integer value => some (.integer value)
  | .fraction spelling => (Binary64.parse? spelling.toList).map .float
  | .text value => some (.text value)

end Scalar

inductive Node where
  | scalar (value : Scalar)
  | collection (data : Data)

namespace Node

def null : Node := .scalar .null

def data? : Node → Option Data
  | .scalar value => value.data?
  | .collection data => some data

/-- Adds an entry to a table that does not have its key. -/
def addEntry? (entries : List (Scalar × Data)) (key value : Node) :
    Option (List (Scalar × Data)) :=
  match key with
  | .collection _ => none
  | .scalar key =>
    if key.key?.isNone || (entries.lookup key).isSome then none
    else value.data?.map fun value => entries ++ [(key, value)]

/-- A table of entries; of keys that read the same the last counts. -/
def ofEntries (entries : List (Scalar × Data)) : Node :=
  .collection (.table (entries.foldl (fun table (key, value) =>
    Data.put (key.key?.getD "") value table) []))

end Node

/-- The tokens that are left, the nodes that anchors name, latest first, and the handles of tags. -/
structure Reading where
  tokens : List Token
  anchors : List (String × Node) := []
  handles : List (String × String) := []

namespace Reading

def drop (count : Nat) (reading : Reading) : Reading :=
  { reading with tokens := reading.tokens.drop count }

/-- The tag with its handle written out. -/
def tag? (reading : Reading) (tag : Tag) : Option Tag :=
  match reading.handles.lookup tag.handle with
  | some start => some { tag with handle := start }
  | none =>
    if tag.handle = "!!" then some { tag with handle := Scalar.coreHandle }
    else if tag.handle = "!" || tag.handle = "" then some tag
    else none

/-- The anchor and the tag of the node that follows, in either order. -/
def properties? (reading : Reading) : Option (Option String × Option Tag × Reading) :=
  match reading.tokens with
  | .anchor name :: .tag tag :: _ => do
    return (some name, some (← reading.tag? tag), reading.drop 2)
  | .tag tag :: .anchor name :: _ => do
    return (some name, some (← reading.tag? tag), reading.drop 2)
  | .anchor name :: _ => some (some name, none, reading.drop 1)
  | .tag tag :: _ => do return (none, some (← reading.tag? tag), reading.drop 1)
  | _ => some (none, none, reading)

/-- Lets an anchor name a node. -/
def anchored (anchor : Option String) (node : Node) (reading : Reading) : Reading :=
  match anchor with
  | some name => { reading with anchors := (name, node) :: reading.anchors }
  | none => reading

/-- Whether one of some tokens follows. -/
def isAt (tokens : List Token) (reading : Reading) : Bool :=
  (reading.tokens.head?.map (tokens.contains ·)).getD false

/-- A node that has an anchor or a tag and nothing else. -/
def empty? (hasAnchor : Bool) (tag : Option Tag) (reading : Reading) : Option (Node × Reading) :=
  match tag with
  | some tag => some (.scalar (.ofTagged tag ""), reading)
  | none => if hasAnchor then some (.null, reading) else none

mutual

/-- A node.  In a block it may be a block, and after a key a list whose items stand under the key.
`fuel` bounds the steps of the reading. -/
def node? (inBlock afterKey : Bool) : Nat → Reading → Option (Node × Reading)
  | 0, _ => none
  | fuel + 1, reading =>
    match reading.tokens with
    | .alias name :: _ => (reading.anchors.lookup name).map fun node => (node, reading.drop 1)
    | _ => do
      let (anchor, tag, reading) ← reading.properties?
      let (node, reading) ←
        content? inBlock afterKey anchor.isSome tag fuel (reading.anchored anchor .null)
      return (node, reading.anchored anchor node)

/-- A node after its anchor and its tag; with either it may be empty. -/
def content? (inBlock afterKey hasAnchor : Bool) (tag : Option Tag) :
    Nat → Reading → Option (Node × Reading)
  | 0, _ => none
  | fuel + 1, reading =>
    match reading.tokens with
    | .text isPlain text :: _ =>
      let scalar :=
        if !isPlain then .text text
        else match tag with
          | some tag => .ofTagged tag text
          | none => .ofPlain text
      some (.scalar scalar, reading.drop 1)
    | .flowList :: _ => flowItems? fuel [] (reading.drop 1)
    | .flowTable :: _ => flowEntries? fuel [] (reading.drop 1)
    | token :: _ =>
      if token = .blockItem && afterKey then looseItems? fuel [] reading
      else if token = .blockList && inBlock then blockItems? fuel [] (reading.drop 1)
      else if token = .blockTable && inBlock then blockEntries? fuel [] (reading.drop 1)
      else empty? hasAnchor tag reading
    | [] => empty? hasAnchor tag reading

/-- The items of a list in a block. -/
def blockItems? : Nat → List Data → Reading → Option (Node × Reading)
  | 0, _, _ => none
  | fuel + 1, items, reading =>
    match reading.tokens with
    | .blockEnd :: _ => some (.collection (.list items), reading.drop 1)
    | .blockItem :: _ => do
      let (item, reading) ←
        nodeUnless? [.blockItem, .blockEnd] true false fuel (reading.drop 1)
      blockItems? fuel (items ++ [← item.data?]) reading
    | _ => none

/-- The items of a list that stand under a key. -/
def looseItems? : Nat → List Data → Reading → Option (Node × Reading)
  | 0, _, _ => none
  | fuel + 1, items, reading =>
    match reading.tokens with
    | .blockItem :: _ => do
      let (item, reading) ←
        nodeUnless? [.blockItem, .key, .value, .blockEnd] true false fuel (reading.drop 1)
      looseItems? fuel (items ++ [← item.data?]) reading
    | _ => some (.collection (.list items), reading)

/-- The entries of a table in a block. -/
def blockEntries? : Nat → List (Scalar × Data) → Reading → Option (Node × Reading)
  | 0, _, _ => none
  | fuel + 1, entries, reading =>
    if reading.isAt [.blockEnd] then some (.ofEntries entries, reading.drop 1)
    else if reading.isAt [.key, .value] then do
      let (key, reading) ←
        if reading.isAt [.key] then
          nodeUnless? [.key, .value, .blockEnd] true true fuel (reading.drop 1)
        else some (.null, reading)
      let (value, reading) ←
        if reading.isAt [.value] then
          nodeUnless? [.key, .value, .blockEnd] true true fuel (reading.drop 1)
        else some (.null, reading)
      blockEntries? fuel (← Node.addEntry? entries key value) reading
    else none

/-- The items of a list in brackets; one with a key is a table. -/
def flowItems? : Nat → List Data → Reading → Option (Node × Reading)
  | 0, _, _ => none
  | fuel + 1, items, reading =>
    if reading.isAt [.flowListEnd] then some (.collection (.list items), reading.drop 1)
    else do
      let (item, reading) ←
        if reading.isAt [.key, .value] then do
          let (key, value, reading) ← flowEntry? .flowListEnd fuel reading
          pure (Node.ofEntries (← Node.addEntry? [] key value), reading)
        else node? false false fuel reading
      let items := items ++ [← item.data?]
      if reading.isAt [.flowItem] then flowItems? fuel items (reading.drop 1)
      else if reading.isAt [.flowListEnd] then some (.collection (.list items), reading.drop 1)
      else none

/-- The entries of a table in braces; one without value has nothing. -/
def flowEntries? : Nat → List (Scalar × Data) → Reading → Option (Node × Reading)
  | 0, _, _ => none
  | fuel + 1, entries, reading =>
    if reading.isAt [.flowTableEnd] then some (.ofEntries entries, reading.drop 1)
    else do
      let (key, value, reading) ← flowEntry? .flowTableEnd fuel reading
      let entries ← Node.addEntry? entries key value
      if reading.isAt [.flowItem] then flowEntries? fuel entries (reading.drop 1)
      else if reading.isAt [.flowTableEnd] then some (.ofEntries entries, reading.drop 1)
      else none

/-- An entry in brackets or braces: a key and a value, either of which may be missing. -/
def flowEntry? (close : Token) : Nat → Reading → Option (Node × Node × Reading)
  | 0, _ => none
  | fuel + 1, reading => do
    let (key, reading) ←
      if reading.isAt [.key] then
        nodeUnless? [.value, .flowItem, close] false false fuel (reading.drop 1)
      else if reading.isAt [.value] then some (.null, reading)
      else node? false false fuel reading
    let (value, reading) ←
      if reading.isAt [.value] then
        nodeUnless? [.flowItem, close] false false fuel (reading.drop 1)
      else some (.null, reading)
    return (key, value, reading)

/-- A node, or nothing where one of some tokens follows. -/
def nodeUnless? (stops : List Token) (inBlock afterKey : Bool) :
    Nat → Reading → Option (Node × Reading)
  | 0, _ => none
  | fuel + 1, reading =>
    if reading.isAt stops then some (.null, reading) else node? inBlock afterKey fuel reading

end

end Reading

end OAuthEndpoint.Yaml
