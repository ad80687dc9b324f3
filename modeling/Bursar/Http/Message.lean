import Bursar.Json.Basic
import Bursar.Text.Split

/-!
# HTTP messages

A request and an answer. Names of headers are compared in any letter case; a
header's value counts as text only if all its characters are visible ASCII,
blanks or tabs.

The target of a request is a path and perhaps a query. The scheme and the host
may stand before the path, which then is `/` if there is none; a host alone has
the empty path.
-/

namespace Bursar.Http

/-- A request. -/
structure Request where
  method : String
  path : String
  query : Option String
  headers : List (String × String)
  body : String
deriving DecidableEq, Repr, Inhabited

/-- An answer. A body has a content type, and may be left out while its type stays. -/
structure Response where
  status : Nat
  contentType : Option String
  headers : List (String × String)
  body : String
deriving DecidableEq, Repr, Inhabited

/-- Whether a character may stand in a header's text. -/
def isHeaderText (c : Char) : Bool := (32 ≤ c.toNat && c.toNat < 127) || c = '\t'

namespace Request

/-- The value of the first header of a name. -/
def header? (r : Request) (name : String) : Option String :=
  (r.headers.find? fun h => Text.lowerAscii h.1 = name).map (·.2)

/-- The value of the first header of a name, if it is text. -/
def headerText? (r : Request) (name : String) : Option String :=
  (r.header? name).filter fun value => value.toList.all isHeaderText

/-- Whether a character may stand in a scheme. -/
def isSchemeChar (c : Char) : Bool := c.isAlphanum || c = '+' || c = '-' || c = '.'

/-- What follows the scheme and its `://`, if a scheme is there. -/
def afterScheme? (target : List Char) : Option (List Char) :=
  match target.dropWhile isSchemeChar with
  | ':' :: '/' :: '/' :: rest => if (target.takeWhile isSchemeChar).isEmpty then none else some rest
  | _ => none

/-- The path and what follows it, out of a target. -/
def fromPath (target : List Char) : List Char :=
  match target with
  | '/' :: _ => target
  | ['*'] => target
  | _ =>
    match afterScheme? target with
    | none => []
    | some rest =>
      match rest.dropWhile fun c => c ≠ '/' && c ≠ '?' with
      | '/' :: path => '/' :: path
      | query => '/' :: query

/-- The path and the query of a target; what follows a `#` is not part of it. -/
def splitTarget (target : String) : String × Option String :=
  let sent := fromPath (target.toList.takeWhile (· ≠ '#'))
  match Text.splitFirst '?' sent with
  | some (path, query) => (String.ofList path, some (String.ofList query))
  | none => (String.ofList sent, none)

/-- The path and the query as they are sent. -/
def target (r : Request) : String :=
  match r.query with
  | some query => r.path ++ "?" ++ query
  | none => r.path

end Request

namespace Response

/-- The content type of JSON. -/
def jsonType : String := "application/json"

/-- The content type of plain text. -/
def textType : String := "text/plain; charset=utf-8"

/-- An answer without a body. -/
def bare (status : Nat) : Response := { status, contentType := none, headers := [], body := "" }

/-- An answer that is a JSON value. -/
def ofJson (status : Nat) (value : Json) : Response :=
  { status, contentType := some jsonType, headers := [], body := value.compact }

/-- An answer that is plain text. -/
def ofText (status : Nat) (text : String) : Response :=
  { status, contentType := some textType, headers := [], body := text }

/-- The answer without its body. -/
def withoutBody (r : Response) : Response := { r with body := "" }

/-- The answer with one more header. -/
def withHeader (r : Response) (name value : String) : Response :=
  { r with headers := r.headers ++ [(name, value)] }

/-- The headers that go with an answer, its content type first. -/
def allHeaders (r : Response) : List (String × String) :=
  (r.contentType.map fun type => ("content-type", type)).toList ++ r.headers

end Response
end Bursar.Http
