import Bursar.Access.Credentials
import Bursar.Http.Form
import Bursar.Http.MediaType
import Bursar.Http.Message
import Bursar.Service.Listing
import Bursar.Service.Request

/-!
# What comes in with a request

Who calls, what the body says, and what the query asks for. Who calls is settled
first, before it is even known whether the path names anything.
-/

namespace Bursar

namespace Credentials

/-- What a caller is told who shows no token. -/
def missingToken : ServiceError :=
  .unauthorized "Authentication credentials were not provided."

/-- What a caller is told who shows a token that nobody has. -/
def unknownToken : ServiceError := .unauthorized "Invalid token."

/-- The principal of a request with a token. -/
def identify (c : Credentials) (r : Http.Request) : Except ServiceError Principal :=
  match (r.headerText? "authorization").bind bearerToken? with
  | none => .error missingToken
  | some token =>
    match c.principal? token with
    | none => .error unknownToken
    | some p => .ok p

/-- The caller of a request: none on a public path, anyone where nobody has to say who they are. -/
def callerOf (c : Credentials) (r : Http.Request) : Except ServiceError (Option Principal) :=
  if !c.enabled then .ok (some .unrestricted)
  else if c.isPublic r.path then .ok none
  else (c.identify r).map some

end Credentials

/-! ## Bodies -/

/-- The wording of a JSON fault. -/
def faultText : Json.Fault → String
  | .ended => "the text ends too early"
  | .malformed => "the text breaks the grammar"
  | .shape => "a value of another shape is wanted"

/-- The wording of a body that is not the wanted value. -/
def bodyFaultText : Json.Fault → String
  | .shape => "Failed to deserialize the JSON body into the target type: " ++ faultText .shape
  | fault => "Failed to parse the request body as JSON: " ++ faultText fault

/-- Whether the body of a request is said to be JSON. -/
def saysJson (r : Http.Request) : Bool :=
  match r.headerText? "content-type" with
  | some value => Http.MediaType.isJson value
  | none => false

/-- The request to spend in the body of a request. Its content type is looked at first, then its size,
and what follows the first JSON value is ignored. -/
def SpendRequest.ofBody (limit : Nat) (r : Http.Request) : Except ServiceError SpendRequest :=
  if !saysJson r then
    .error (.validation "Expected request with \x60Content-Type: application/json\x60")
  else if limit < r.body.utf8ByteSize then
    .error (.validation "Failed to buffer the request body: length limit exceeded")
  else
    match Json.decodeLead SpendRequest.record.decoder r.body with
    | .ok request => .ok request
    | .error fault => .error (.validation (bodyFaultText fault))

/-! ## Queries -/

/-- The names and values in the query of a request. -/
def queryPairs (r : Http.Request) : List (String × String) := Http.Form.decode (r.query.getD "")

end Bursar
