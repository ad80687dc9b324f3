import Bursar.Url.Basic

/-!
# Reading URLs

`Url.parse` reads an absolute URL. Blanks and controls around it do not count, nor
do tabs and line ends in it. Only a special scheme takes backslashes for slashes,
and, but for files, any number of slashes before the host.
-/

namespace Bursar.Url

/-- Whether a character does not count at either end. -/
def isOuter (c : Char) : Bool := c.toNat ≤ 0x20

/-- A text without what does not count at its ends. -/
def trimmed (s : String) : List Char := ((s.toList.dropWhile isOuter).reverse.dropWhile isOuter).reverse

/-- Characters without tabs and line ends. -/
def withoutLineMarks (cs : List Char) : List Char := cs.filter fun c => !isLineMark c

/-- Whether a character may stand in a scheme. -/
def isSchemeChar (c : Char) : Bool := c.isAlphanum || c = '+' || c = '-' || c = '.'

/-- The scheme, in lower case, and what follows its colon. -/
def scheme? (cs : List Char) : Option (String × List Char) :=
  match cs with
  | [] => none
  | first :: _ =>
    let name := cs.takeWhile isSchemeChar
    match cs.drop name.length with
    | ':' :: rest =>
      if first.isAlpha then some (String.ofList (name.map Char.toLower), rest) else none
    | _ => none

/-- Whether a character ends the part of a URL that names the host. -/
def endsHost (isSpecial : Bool) (c : Char) : Bool :=
  c = '/' || c = '?' || c = '#' || (isSpecial && c = '\x5c')

/-- The part before the last `@`, and the part after it; none without one. -/
def splitUser (cs : List Char) : Option (List Char) × List Char :=
  match Text.splitFirst '@' cs.reverse with
  | some (host, user) => (some user.reverse, host.reverse)
  | none => (none, cs)

/-- A user's name and password. -/
def readUser (cs : List Char) : String × Option String :=
  let encoded (cs : List Char) : String := String.ofList (escapeWith escapesInUser cs)
  match Text.splitFirst ':' cs with
  | some (name, password) => (encoded name, if password.isEmpty then none else some (encoded password))
  | none => (encoded cs, none)

/-- The host and what follows it: colons in brackets belong to the host. -/
def splitPort (inBrackets : Bool) : List Char → List Char × Option (List Char)
  | [] => ([], none)
  | c :: cs =>
    if c = ':' ∧ !inBrackets then ([], some cs)
    else
      let inside := if c = '[' then true else if c = ']' then false else inBrackets
      let (host, port) := splitPort inside cs
      (c :: host, port)

/-- Reads a port; the standard one of the scheme is left out. -/
def readPort (scheme : String) (cs : List Char) : Except ParseError (Option Nat) :=
  if cs.isEmpty then .ok none
  else
    match (Text.natural? cs).bind (Text.atMost 65535) with
    | none => .error .invalidPort
    | some port => .ok (if standardPort? scheme = some port then none else some port)

/-- The segments between slashes, with those that mean "here" and "one up" carried out. -/
def readSegments (kind : SchemeKind) (front : List (List Char)) : List (List Char) → List (List Char)
  | [] => front
  | [last] => putSegment kind front last
  | segment :: rest =>
    if isUp segment then readSegments kind (dropUp front) rest
    else if isHere segment then readSegments kind front rest
    else readSegments kind (putPlain kind front segment) rest

/-- The segments of a path after a host, up to the query. -/
def readPath (kind : SchemeKind) (cs : List Char) : List (List Char) :=
  let cs := if kind.isSpecial then cs.map fun c => if c = '\x5c' then '/' else c else cs
  let segments (cs : List Char) : List (List Char) :=
    readSegments kind [] ((Text.splitAll '/' cs).map (escapeWith escapesInPath))
  match cs with
  | [] => if kind.isSpecial then [[]] else []
  | '/' :: rest => segments rest
  | rest => segments rest

/-- What comes before a query, the query and the fragment. -/
def splitTail (cs : List Char) : List Char × Option (List Char) × Option (List Char) :=
  let (before, fragment) :=
    match Text.splitFirst '#' cs with
    | some (before, fragment) => (before, some fragment)
    | none => (cs, none)
  match Text.splitFirst '?' before with
  | some (path, query) => (path, some query, fragment)
  | none => (before, none, fragment)

/-- A URL with the query and the fragment given as plain text. -/
def withTail (u : Url) (query fragment : Option (List Char)) : Url :=
  let isSpecial := (kindOf u.scheme).isSpecial
  { u with
    query := query.map fun cs => String.ofList (escapeWith (escapesInQuery isSpecial) cs)
    fragment := fragment.map fun cs => String.ofList (escapeWith escapesInFragment cs) }

/-- A URL of a scheme and a path only. A path that would be taken for a host is guarded. -/
def ofPath (scheme : String) (path : Path) : Url where
  scheme := scheme
  username := ""
  password := none
  host := none
  port := none
  isGuarded := match path with | .slashed ([] :: _ :: _) => true | _ => false
  path := path
  query := none
  fragment := none

/-- Reads what follows the slashes before a host: a user, the host, a port, and then the path. -/
def readAuthority (scheme : String) (cs : List Char) : Except ParseError Url := do
  let kind := kindOf scheme
  let authority := cs.takeWhile fun c => !endsHost kind.isSpecial c
  let behind := cs.drop authority.length
  let (user, hostAndPort) := splitUser authority
  if user = some [] ∧ hostAndPort.isEmpty ∧ !behind.isEmpty then .error .emptyHost
  let (hostChars, portChars) := splitPort false hostAndPort
  let (username, password) := (user.map readUser).getD ("", none)
  let mayBeEmpty := !kind.isSpecial && username.isEmpty && password.isNone && portChars.isNone
  let host ←
    if hostChars.isEmpty ∧ !mayBeEmpty then .error .emptyHost
    else if kind.isSpecial then readHost hostChars
    else readOpaqueHost hostChars
  let digits := (portChars.getD []).takeWhile (· ≠ '\x5c')
  let port ← readPort scheme digits
  let (path, query, fragment) := splitTail ((portChars.getD []).drop digits.length ++ behind)
  return withTail
    { ofPath scheme (.slashed (readPath kind path)) with
      username, password, host := some host, port, isGuarded := false }
    query fragment

/-! ## Files

Tabs and line ends are still in what is read here: they tell a drive from what
follows it in the same segment.
-/

/-- The host of a file and its path, given what follows the colon; a drive is no host. -/
def splitFileHost (cs : List Char) : List Char × List Char :=
  let isSlash (c : Char) : Bool := c = '/' || c = '\x5c'
  match cs.dropWhile isLineMark with
  | [] => ([], [])
  | first :: behind =>
    match behind.dropWhile isLineMark with
    | [] => ([], cs)
    | second :: rest =>
      if isSlash first && isSlash second then
        let host := rest.takeWhile fun c => !isSlash c
        if isDrive (withoutLineMarks host) then ([], rest)
        else (withoutLineMarks host, rest.drop host.length)
      else ([], cs)

/-- The drive at the front of a segment and what follows it, if tabs or line ends stand between them. -/
def partedDrive? (segment : List Char) : Option (List Char × List Char) :=
  match segment.dropWhile isLineMark with
  | [] => none
  | letter :: behind =>
    match behind.dropWhile isLineMark with
    | ':' :: rest =>
      if letter.isAlpha ∧ rest.head?.any isLineMark ∧ !(withoutLineMarks rest).isEmpty then
        some ([letter, ':'], withoutLineMarks rest)
      else none
    | _ => none

/-- How far the path of a file has been read. -/
structure FilePath where
  segments : List (List Char)
  /-- Whether a segment was a drive, so that the path is one of this machine. -/
  isLocal : Bool

/-- The path with one more segment. -/
def FilePath.add (p : FilePath) (segment : List Char) : FilePath :=
  match if p.segments.isEmpty then partedDrive? segment else none with
  | some (drive, rest) => { p with segments := [drive, escapeWith escapesInPath rest] }
  | none =>
    let encoded := escapeWith escapesInPath (withoutLineMarks segment)
    { segments := putPlain .file p.segments encoded
      isLocal := p.isLocal || (p.segments.isEmpty && isDrive encoded) }

/-- The path behind some segments, given those between the slashes that follow. -/
def FilePath.read (p : FilePath) : List (List Char) → FilePath
  | [] => p
  | segment :: rest =>
    let encoded := withoutLineMarks segment
    let place := if rest.isEmpty then [[]] else []
    if isUp encoded then FilePath.read { p with segments := dropUp p.segments ++ place } rest
    else if isHere encoded then FilePath.read { p with segments := p.segments ++ place } rest
    else FilePath.read (p.add segment) rest

/-- Reads the path of a file. -/
def readFilePath (cs : List Char) : FilePath :=
  let cs := (cs.dropWhile isLineMark).map fun c => if c = '\x5c' then '/' else c
  FilePath.read ⟨[], false⟩ (Text.splitAll '/' (if cs.head? = some '/' then cs.drop 1 else cs))

/-- Reads what follows the colon of the URL of a file. -/
def readFile (cs : List Char) : Except ParseError Url := do
  let (before, query, fragment) := splitTail cs
  let (hostChars, pathChars) := splitFileHost before
  let host ← if hostChars.isEmpty then .ok "" else readHost hostChars
  let path := readFilePath pathChars
  return withTail
    { ofPath "file" (.slashed (settle .file path.segments)) with
      host := some (if path.isLocal || host = "localhost" then "" else host), isGuarded := false }
    (query.map withoutLineMarks) (fragment.map withoutLineMarks)

/-! ## Any URL -/

/-- Reads what follows the colon of a URL without a host. -/
def readHostless (scheme : String) (cs : List Char) : Url :=
  let (path, query, fragment) := splitTail cs
  let path :=
    match path with
    | '/' :: _ => .slashed (readPath .other path)
    | _ => .opaquePath (String.ofList (escapeWith isControl path))
  withTail (ofPath scheme path) query fragment

/-- Reads an absolute URL. -/
def parse (s : String) : Except ParseError Url :=
  let cs := trimmed s
  match scheme? (withoutLineMarks cs) with
  | none => .error .noBase
  | some (scheme, rest) =>
    match kindOf scheme with
    | .file => readFile ((cs.dropWhile (· ≠ ':')).drop 1)
    | .special => readAuthority scheme (rest.dropWhile fun c => c = '/' || c = '\x5c')
    | .other =>
      match rest with
      | '/' :: '/' :: authority => readAuthority scheme authority
      | _ => .ok (readHostless scheme rest)

end Bursar.Url
