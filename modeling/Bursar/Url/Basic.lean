import Bursar.Url.Host

/-!
# URLs

A URL in its parts. The path of a URL with a host is a list of segments, which
are percent-encoded; the path of a URL such as `mailto:a@b` is opaque, and nothing
can be appended to it.

`pushSegment` appends a segment that is given as plain text. It is encoded so that
it stays one segment, except for what a URL cannot hold: tabs and line ends are
dropped, and a segment that means "here" or "one up" is not one that can be named.

A drive such as `C:` is not left by going up. The path of a file may start with one,
but not with an empty segment.
-/

namespace Bursar

namespace Url

/-- The path of a URL. -/
inductive Path where
  | opaquePath (text : String)
  /-- The segments, each after a slash. -/
  | slashed (segments : List (List Char))
deriving DecidableEq, Repr, Inhabited

end Url

/-- A URL in its parts. -/
structure Url where
  scheme : String
  username : String
  password : Option String
  host : Option String
  port : Option Nat
  /-- Whether `/.` is in front of the path: without it, two slashes there would be taken for those
  of a host. -/
  isGuarded : Bool
  path : Url.Path
  query : Option String
  fragment : Option String
deriving DecidableEq, Repr, Inhabited

namespace Url

/-! ## Encoding -/

/-- Whether a character is a control or outside ASCII. -/
def isControl (c : Char) : Bool := c.toNat ≤ 0x1F || 0x7E < c.toNat

/-- Whether a character of a fragment is encoded. -/
def escapesInFragment (c : Char) : Bool := isControl c || [' ', '\x22', '<', '>', '\x60'].contains c

/-- Whether a character of a path is encoded. -/
def escapesInPath (c : Char) : Bool := escapesInFragment c || ['#', '?', '\x7b', '\x7d'].contains c

/-- Whether a character of a segment that is given as plain text is encoded. -/
def escapesInSegment (isSpecial : Bool) (c : Char) : Bool :=
  escapesInPath c || c = '/' || c = '%' || (isSpecial && c = '\x5c')

/-- Whether a character of a user's name or password is encoded. -/
def escapesInUser (c : Char) : Bool :=
  escapesInPath c || ['/', ':', ';', '=', '@', '[', '\x5c', ']', '^', '|'].contains c

/-- Whether a character of a query is encoded. -/
def escapesInQuery (isSpecial : Bool) (c : Char) : Bool :=
  isControl c || [' ', '\x22', '#', '<', '>'].contains c || (isSpecial && c = '\'')

/-- Characters with some of them percent-encoded. -/
def escapeWith (escapes : Char → Bool) (cs : List Char) : List Char :=
  cs.flatMap fun c => if escapes c then Http.percentChar c else [c]

/-- Whether a character is a tab or ends a line. No URL holds one. -/
def isLineMark (c : Char) : Bool := c = '\t' || c = '\n' || c = '\r'

/-! ## Schemes -/

/-- The schemes with hosts that have names, and their standard ports. -/
def standardPorts : List (String × Option Nat) :=
  [("http", some 80), ("https", some 443), ("ws", some 80), ("wss", some 443), ("ftp", some 21),
   ("file", none)]

/-- How the URLs of a scheme are read. -/
inductive SchemeKind where
  /-- Hosts have names, and a path starts with a slash. -/
  | special
  /-- The same, but a host may be left out, and a path may start with a drive. -/
  | file
  /-- A host is any text. -/
  | other
deriving DecidableEq, Repr

/-- The kind of a scheme. -/
def kindOf (scheme : String) : SchemeKind :=
  if scheme = "file" then .file
  else if (standardPorts.lookup scheme).isSome then .special
  else .other

/-- Whether backslashes count as slashes, and hosts have names. -/
def SchemeKind.isSpecial : SchemeKind → Bool
  | .special | .file => true
  | .other => false

/-- The port of a URL that names none. -/
def standardPort? (scheme : String) : Option Nat := (standardPorts.lookup scheme).join

/-! ## Segments -/

/-- Whether an encoded segment means the place itself. -/
def isHere (segment : List Char) : Bool :=
  ["." , "%2e"].contains (Text.lowerAscii (String.ofList segment))

/-- Whether an encoded segment means one place up. -/
def isUp (segment : List Char) : Bool :=
  ["..", "%2e.", ".%2e", "%2e%2e"].contains (Text.lowerAscii (String.ofList segment))

/-- The segments in front of one that is about to be appended: the path `/` has none. -/
def openSegments (segments : List (List Char)) : List (List Char) :=
  if segments = [[]] then [] else segments

/-- Whether a segment names a drive, the whole or what is in front of a backslash. -/
def namesDrive : List Char → Bool
  | letter :: mark :: rest =>
    letter.isAlpha && (mark = ':' || mark = '|') && (rest.isEmpty || rest.head? = some '\x5c')
  | _ => false

/-- Whether a segment is a drive. -/
def isDrive (segment : List Char) : Bool := namesDrive segment && segment.length = 2

/-- The segments one place up: nothing is above a drive. -/
def dropUp (front : List (List Char)) : List (List Char) :=
  if front.getLast?.any namesDrive then front else front.dropLast

/-- Segments with an encoded one put behind that is neither "here" nor "one up". -/
def putPlain (kind : SchemeKind) (front : List (List Char)) (segment : List Char) : List (List Char) :=
  if kind = .file ∧ front = [] ∧ isDrive segment then [segment.take 1 ++ [':']] else front ++ [segment]

/-- Segments with an encoded one put behind, as the last. -/
def putSegment (kind : SchemeKind) (front : List (List Char)) (segment : List Char) : List (List Char) :=
  if isUp segment then dropUp front ++ [[]]
  else if isHere segment then front ++ [[]]
  else putPlain kind front segment

/-- The path of a file does not start with empty segments, unless it has no other. -/
def settle (kind : SchemeKind) (segments : List (List Char)) : List (List Char) :=
  if kind = .file then
    match segments.dropWhile List.isEmpty with
    | [] => [[]]
    | rest => rest
  else segments

/-- A segment given as plain text, as it stands in a path. -/
def encodeSegment (kind : SchemeKind) (text : String) : List Char :=
  escapeWith (escapesInSegment kind.isSpecial) (text.toList.filter fun c => !isLineMark c)

/-- Segments with one behind that is given as plain text; `.` and `..` are passed over. -/
def pushSegment (kind : SchemeKind) (segments : List (List Char)) (text : String) : List (List Char) :=
  if text = "." ∨ text = ".." then segments
  else settle kind (putSegment kind (openSegments segments) (encodeSegment kind text))

/-- Segments without an empty last one, which is all that the path `/` has. -/
def dropEmptyLast (segments : List (List Char)) : List (List Char) :=
  if 1 < segments.length ∧ segments.getLast? = some [] then segments.dropLast else segments

/-- The segments of a path below a base, with a slash at the end. -/
def appendSegments (kind : SchemeKind) (base : List (List Char)) (texts : List String) :
    List (List Char) :=
  (texts ++ [""]).foldl (pushSegment kind) (dropEmptyLast base)

/-- Segments without the empty ones at the end. -/
def trimSegments (segments : List (List Char)) : List (List Char) :=
  (segments.reverse.dropWhile List.isEmpty).reverse

/-! ## Writing -/

/-- A path as it is written. -/
def Path.toString : Path → String
  | .opaquePath text => text
  | .slashed segments => String.ofList (segments.flatMap fun segment => '/' :: segment)

/-- The user's name and password in front of the host. -/
def userText (u : Url) : String :=
  match u.password with
  | some password => u.username ++ ":" ++ password ++ "@"
  | none => if u.username.isEmpty then "" else u.username ++ "@"

/-- Host and port. -/
def hostText (u : Url) : String :=
  u.host.getD "" ++ (match u.port with | some port => ":" ++ Text.ofNat port | none => "")

/-- What stands between the scheme and the path. -/
def authorityText (u : Url) : String :=
  match u.host with
  | some _ => "//" ++ u.userText ++ u.hostText
  | none => if u.isGuarded then "/." else ""

/-- The path and the query, as they are sent. -/
def target (u : Url) : String :=
  u.path.toString ++ (match u.query with | some query => "?" ++ query | none => "")

/-- The written form. -/
def toString (u : Url) : String :=
  u.scheme ++ ":" ++ u.authorityText ++ u.target ++
    (match u.fragment with | some fragment => "#" ++ fragment | none => "")

/-! ## Users -/

/-- A text with its percent-encoding undone, if that gives characters. -/
def decodeText? (s : String) : Option String :=
  (Text.decodeChars? (Http.percentDecode s.toList)).map String.ofList

/-- The user's name and password, if the URL has either and they can be read; an unreadable password
does not count. -/
def login? (u : Url) : Option (String × Option String) :=
  (decodeText? u.username).bind fun name =>
    let password := u.password.bind decodeText?
    if name.isEmpty ∧ password.isNone then none else some (name, password)

/-- The URL without user and password. -/
def withoutUser (u : Url) : Url := { u with username := "", password := none }

/-! ## Below a base -/

/-- The URL below a base that segments name, with a slash at the end; none if nothing can be appended. -/
def below? (base : Url) (texts : List String) : Option Url :=
  match base.path with
  | .opaquePath _ => none
  | .slashed segments =>
    some { base with path := .slashed (appendSegments (kindOf base.scheme) segments texts) }

/-- The URL without slashes at the end of its path. -/
def withoutTrailingSlash (u : Url) : Url :=
  match u.path with
  | .opaquePath _ => u
  | .slashed segments => { u with path := .slashed (trimSegments segments) }

/-- The URL with more names and values in its query. -/
def withPairs (u : Url) (written : String) : Url :=
  if written.isEmpty then u
  else
    match u.query with
    | some query => { u with query := some (if query.isEmpty then written else query ++ "&" ++ written) }
    | none => { u with query := some written }

end Url
end Bursar
