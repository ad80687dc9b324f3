import Bursar.Console.Error
import Bursar.Http.Form
import Bursar.Remote.Call
import Bursar.Service.Listing
import Bursar.Service.Request
import Bursar.Url.Reading

/-!
# Talking to the service

How a command is put to a running service, and what its answer means. Every URL
is below `/api/v1` of the base and ends in a slash, except that of the health
report.
-/

namespace Bursar.Console

/-- A running service and how it is reached. -/
structure Client where
  base : Url
  token : Option String

namespace Client

/-- The service at a URL. -/
def connect (apiUrl : String) (token : Option String) : Except ConsoleError Client :=
  match Url.parse apiUrl with
  | .ok base => .ok { base, token }
  | .error e => .error (.configuration ("Invalid API url " ++ apiUrl ++ ": " ++ e.message))

/-- The URL that segments name. -/
def url (c : Client) (segments : List String) : Except ConsoleError Url :=
  match c.base.below? (["api", "v1"] ++ segments) with
  | some url => .ok url
  | none => .error (.configuration (c.base.toString ++ " cannot be used as a base url"))

/-! ## Calls -/

/-- A call for what segments and a query name. -/
def get (c : Client) (segments : List String) (pairs : List (String × String)) :
    Except ConsoleError Call :=
  (c.url segments).map fun url =>
    .ofUrl "GET" (url.withPairs (Http.Form.encode pairs)) c.token none

/-- A call that has something done. -/
def post (c : Client) (segments : List String) (body : Option Json) : Except ConsoleError Call :=
  (c.url segments).map fun url => .ofUrl "POST" url c.token body

/-- The call for the health report. -/
def healthCall (c : Client) : Except ConsoleError Call :=
  (c.url ["health"]).map fun url => .ofUrl "GET" url.withoutTrailingSlash c.token none

/-- A name with a value, if there is one. -/
def pairOf (name : String) (value : Option String) : List (String × String) :=
  match value with
  | some value => [(name, value)]
  | none => []

/-- The page that is asked for, in a query. -/
def pagePairs (q : PageQuery) : List (String × String) :=
  [("page", Text.ofNat q.page), ("page_size", Text.ofNat q.pageSize)]

/-- A listing of subsidies, in a query. -/
def subsidyPairs (enterprise : Option String) (page : PageQuery) : List (String × String) :=
  pagePairs page ++ pairOf "enterprise_customer_uuid" enterprise

/-- A listing of transactions, in a query. -/
def transactionPairs (subsidy : Option String) (learner : Option Int) (contentKey : Option String)
    (page : PageQuery) : List (String × String) :=
  pagePairs page ++ pairOf "subsidy_uuid" subsidy ++ pairOf "lms_user_id" (learner.map Text.ofInt) ++
    pairOf "content_key" contentKey

/-- The request to spend that a command makes. -/
def spendRequest (subsidy : String) (learner : Int) (contentKey policy : String) (key : Option String) :
    SpendRequest where
  subsidy := some subsidy
  learner := some (.int learner)
  contentKey := some contentKey
  policy := some policy
  key := key

/-! ## Answers -/

/-- What is for people in the body of a refusal. -/
def refusalText (body : String) : String :=
  match Json.parse body with
  | .ok (.string s) => s
  | .ok (.object members) =>
    match (members.lookup "detail").or (members.lookup "Error") with
    | some (.string s) => s
    | _ => (Json.object members).compact
  | _ => body

/-- The value in an answer. -/
def readAnswer {α : Type} (d : Json.Decoder α) : Except CallFailure Http.Response → Except ConsoleError α
  | .error failure => .error (.transport failure.message)
  | .ok answer =>
    if Http.isSuccess answer.status then
      match Call.readBody d answer with
      | .ok a => .ok a
      | .error failure => .error (.transport failure.message)
    else .error (.refused answer.status (refusalText answer.body))

end Client
end Bursar.Console
