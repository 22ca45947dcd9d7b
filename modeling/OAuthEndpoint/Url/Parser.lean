import OAuthEndpoint.Url.Host

/-! Reading absolute URLs.  Blanks and control characters around the text do not count, and tabs and
line ends inside it, which break the text, count in file paths alone.  The first `#` starts the
fragment, the first `?` before it the query, and the first `:` before that ends the scheme; what
remains is an authority and a path, read by the rules of the scheme. -/

namespace OAuthEndpoint.Url

open Text

/-- Schemes differ in how the text after them is read. -/
inductive SchemeKind where
  /-- A scheme of the web, which always has a host. -/
  | special
  | file
  | other
deriving DecidableEq, Repr

def SchemeKind.ofName (name : String) : SchemeKind :=
  if name ∈ ["http", "https", "ws", "wss", "ftp"] then .special
  else if name = "file" then .file
  else .other

/-- The port that a scheme has where none is written. -/
def defaultPort? (scheme : String) : Option UInt16 :=
  match scheme with
  | "http" | "ws" => some 80
  | "https" | "wss" => some 443
  | "ftp" => some 21
  | _ => none

/-- A backslash counts as a slash except in other schemes. -/
def isSlash (kind : SchemeKind) (c : Char) : Bool := c == '/' || (c == '\\' && kind != .other)

/-- The characters that break a text. -/
def isBreak (c : Char) : Bool := c == '\t' || c == '\n' || c == '\r'

/-- A text as one piece. -/
def unbroken (text : List Char) : List Char := text.filter fun c => !isBreak c

def isSchemeChar (c : Char) : Bool := c.isAlphanum || c == '+' || c == '-' || c == '.'

/-- The scheme in lower case and what follows its colon. -/
def scheme? (text : List Char) : Option (String × List Char) :=
  match cut (· == ':') text with
  | (name, some rest) =>
    let name := unbroken name
    if (name.head?.map Char.isAlpha).getD false && name.all isSchemeChar then
      some (lower (String.ofList name), rest)
    else none
  | (_, none) => none

/-- A letter with a colon or a bar after it names a drive. -/
def isDrive : List Char → Bool
  | [letter, mark] => letter.isAlpha && (mark == ':' || mark == '|')
  | _ => false

def isDot (segment : List Char) : Bool :=
  lower (String.ofList segment) ∈ [".", "%2e"]

def isDoubleDot (segment : List Char) : Bool :=
  lower (String.ofList segment) ∈ ["..", ".%2e", "%2e.", "%2e%2e"]

/-- Drops the last of the segments, which stand in reverse.  A drive is never dropped, nor is a
segment that has a backslash after one. -/
def parent : List String → List String
  | [] => []
  | segment :: rest =>
    if isDrive (segment.toList.takeWhile (· != '\\')) then segment :: rest else rest

/-- A drive that a break parts from more text, and that text. -/
def brokenDrive? (segment : List Char) : Option (List Char × List Char) :=
  match segment.dropWhile isBreak with
  | [] => none
  | letter :: rest =>
    match rest.dropWhile isBreak with
    | ':' :: mark :: rest =>
      if letter.isAlpha && isBreak mark && !(unbroken rest).isEmpty then
        some ([letter, ':'], unbroken rest)
      else none
    | _ => none

/-- A segment as it is written. -/
def segmentName (segment : List Char) : String :=
  String.ofList (Percent.encode Percent.keepsInPath segment)

/-- A walk along the segments of a path: the names of those that it went down by, in reverse, and
whether the first is a drive that keeps hosts away. -/
structure Walk where
  names : List String
  onDrive : Bool
deriving DecidableEq, Repr

namespace Walk

def start : Walk := ⟨[], false⟩

/-- Goes down by a segment.  At the start of a file path a drive is written with a colon, and a drive
that a break parts from more text is a segment of its own. -/
def down (kind : SchemeKind) (walk : Walk) (segment : List Char) : Walk :=
  let name := unbroken segment
  if kind = .file && walk.names.isEmpty then
    if isDrive name then ⟨[String.ofList (name.take 1 ++ [':'])], true⟩
    else match brokenDrive? segment with
      | some (drive, rest) => ⟨[segmentName rest, String.ofList drive], false⟩
      | none => ⟨[segmentName name], false⟩
  else { walk with names := segmentName name :: walk.names }

/-- A segment with a slash after it: `.` stays where it is and `..` goes up. -/
def step (kind : SchemeKind) (walk : Walk) (segment : List Char) : Walk :=
  let name := unbroken segment
  if isDoubleDot name then { walk with names := parent walk.names }
  else if isDot name then walk
  else walk.down kind segment

/-- The last segment: `.` and `..` leave an empty one. -/
def finish (kind : SchemeKind) (walk : Walk) (segment : List Char) : Walk :=
  let name := unbroken segment
  if isDoubleDot name then { walk with names := "" :: parent walk.names }
  else if isDot name then { walk with names := "" :: walk.names }
  else walk.down kind segment

/-- The walk along the text after a path's first slash. -/
def along (kind : SchemeKind) (text : List Char) : Walk :=
  let pieces := split (isSlash kind) text
  (pieces.dropLast.foldl (step kind) start).finish kind (pieces.getLast?.getD [])

end Walk

/-- The segments of the text after a path's first slash. -/
def segments (kind : SchemeKind) (text : List Char) : List String :=
  (Walk.along kind text).names.reverse

/-- What follows a slash, if the text starts with one. -/
def afterSlash? (kind : SchemeKind) (text : List Char) : Option (List Char) :=
  match text.dropWhile isBreak with
  | [] => none
  | c :: rest => if isSlash kind c then some rest else none

/-- The text without a slash at its start. -/
def dropSlash (kind : SchemeKind) (text : List Char) : List Char :=
  (afterSlash? kind text).getD text

/-- What stands before and after the last `@`. -/
def atLastAt? (text : List Char) : Option (List Char × List Char) :=
  match cut (· == '@') text.reverse with
  | (_, none) => none
  | (after, some before) => some (before.reverse, after.reverse)

/-- The user name, the password and what follows the user info.  User info that is empty needs a
host after it, unless the whole URL ends there (`ends`). -/
def userinfo (kind : SchemeKind) (ends : Bool) (text : List Char) :
    Except Fault (String × String × List Char) :=
  let path := text.dropWhile (fun c => !isSlash kind c)
  match atLastAt? (text.takeWhile (fun c => !isSlash kind c)) with
  | none => .ok ("", "", text)
  | some ([], host) =>
    if host.isEmpty && !(ends && path.isEmpty) then .error .emptyHost
    else .ok ("", "", host ++ path)
  | some (info, host) =>
    let encode (text : List Char) := String.ofList (Percent.encode Percent.keepsInUserinfo text)
    let (username, password) := cut (· == ':') info
    .ok (encode username, encode (password.getD []), host ++ path)

/-- The text of the host and what follows it; a colon inside brackets ends no host. -/
def hostText (kind : SchemeKind) (inBrackets : Bool) : List Char → List Char × List Char
  | [] => ([], [])
  | c :: rest =>
    if (c == ':' && !inBrackets) || isSlash kind c then ([], c :: rest)
    else
      let (host, rest) := hostText kind (c == '[' || (inBrackets && c != ']')) rest
      (c :: host, rest)

/-- The port after a host, absent where it is empty or the scheme's own, and what follows it. -/
def port (scheme : String) : List Char → Except Fault (Option UInt16 × List Char)
  | ':' :: text =>
    let digits := text.takeWhile Char.isDigit
    let rest := text.dropWhile Char.isDigit
    let number := numeral 10 digits
    if number > 65535 then .error .invalidPort
    else if rest.isEmpty || rest.head? = some '/' || rest.head? = some '\\' then
      let port := UInt16.ofNat number
      .ok (if digits.isEmpty || some port = defaultPort? scheme then none else some port, rest)
    else .error .invalidPort
  | text => .ok (none, text)

/-- Reads a host.  Only a scheme that is not special may do without one, and then without a port and
user info too. -/
def host (kind : SchemeKind) (text rest : List Char) : Except Fault (Option Host) :=
  match kind with
  | .other => do
    let host ← Host.parsePlain text
    if host.isNone && rest.head? = some ':' then .error .emptyHost else .ok host
  | _ => if text.isEmpty then .error .emptyHost else (Host.parse text).map some

/-- The path after an authority: a special URL always has one, and another URL may have none. -/
def pathAfterAuthority (kind : SchemeKind) (text : List Char) : Path :=
  if kind = .other && text.isEmpty then .rooted []
  else .rooted (segments kind (dropSlash kind text))

/-- Reads what stands after `//`. -/
def authorityAndPath (scheme : String) (kind : SchemeKind) (ends : Bool) (text : List Char) :
    Except Fault (Option Authority × Path) := do
  let (username, password, text) ← userinfo kind ends text
  let (name, rest) := hostText kind false text
  let host ← host kind name rest
  let (port, rest) ← port scheme rest
  if host.isNone && !(username.isEmpty && password.isEmpty) then .error .emptyHost
  else .ok (some { username, password, host, port }, pathAfterAuthority kind rest)

/-- The host of a file URL with two slashes and the text of its path.  A drive is no host, and
`localhost` is the same as none; where no host is, the slash that ended it counts as the path's
second one. -/
def fileHost (text : List Char) : Except Fault (Option Host × List Char) := do
  let name := unbroken (text.takeWhile (fun c => !isSlash .file c))
  let rest := text.dropWhile (fun c => !isSlash .file c)
  if isDrive name then .ok (none, text)
  else if name.isEmpty then .ok (none, rest)
  else
    match ← Host.parse name with
    | .domain "localhost" => .ok (none, rest)
    | host => .ok (some host, dropSlash .file rest)

/-- The authority and path of a file URL, from the text after the path's first slash.  A drive at the
start keeps hosts away, and empty segments at the start are dropped unless they are all there is. -/
def filePath (host : Option Host) (text : List Char) : Option Authority × Path :=
  let walk := Walk.along .file text
  let host := if walk.onDrive then none else host
  let segments :=
    match walk.names.reverse.dropWhile String.isEmpty with
    | [] => [""]
    | kept => kept
  (some { username := "", password := "", host, port := none }, .rooted segments)

/-- Reads what stands after the colon of a file URL. -/
def fileAuthorityAndPath (text : List Char) : Except Fault (Option Authority × Path) :=
  match afterSlash? .file text with
  | none => .ok (filePath none text)
  | some afterOne =>
    match afterSlash? .file afterOne with
    | none => .ok (filePath none afterOne)
    | some afterTwo => do
      let (host, rest) ← fileHost afterTwo
      return filePath host rest

/-- Reads what stands after the scheme's colon. -/
def hierarchy (scheme : String) (ends : Bool) (text : List Char) :
    Except Fault (Option Authority × Path) :=
  match SchemeKind.ofName scheme with
  | .special =>
    authorityAndPath scheme .special ends ((unbroken text).dropWhile (isSlash .special))
  | .file => fileAuthorityAndPath text
  | .other =>
    match unbroken text with
    | '/' :: '/' :: text => authorityAndPath scheme .other ends text
    | '/' :: text => .ok (none, .rooted (segments .other text))
    | text => .ok (none, .rootless (String.ofList (Percent.encode Percent.keepsPrintable text)))

def encodeQuery (kind : SchemeKind) (text : List Char) : String :=
  String.ofList (Percent.encode
    (if kind = .other then Percent.keepsInQuery else Percent.keepsInSpecialQuery) (unbroken text))

def encodeFragment (text : List Char) : String :=
  String.ofList (Percent.encode Percent.keepsInFragment (unbroken text))

/-- Reads an absolute URL. -/
def parse (text : String) : Except Fault Url := do
  let (beforeFragment, fragment) := cut (· == '#') (trim (· ≤ ' ') text.toList)
  let (beforeQuery, query) := cut (· == '?') beforeFragment
  match scheme? beforeQuery with
  | none => .error .relativeWithoutBase
  | some (scheme, rest) =>
    let (authority, path) ← hierarchy scheme (query.isNone && fragment.isNone) rest
    return {
      scheme, authority, path
      query := query.map (encodeQuery (SchemeKind.ofName scheme))
      fragment := fragment.map encodeFragment }

end OAuthEndpoint.Url
