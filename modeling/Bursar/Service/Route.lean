import Bursar.Http.Message
import Bursar.Http.Form

/-!
# Routes

What a path names, and what a method does there. The segment of a path that
names a resource is percent-encoded, and may be empty. A path that ends in `/`
is another path than the one without it.
-/

namespace Bursar

/-- What a path names. -/
inductive Route where
  | banner
  | health
  | transactions
  | transaction (id : String)
  | reversal (id : String)
  | metadata (id : String)
  | subsidies
  | subsidy (id : String)
deriving DecidableEq, Repr

/-- What the service can be asked to do. -/
inductive Endpoint where
  | showBanner
  | showHealth
  | createTransaction
  | listTransactions
  | showTransaction (id : String)
  | reverseTransaction (id : String)
  | showMetadata (id : String)
  | listSubsidies
  | showSubsidy (id : String)
deriving DecidableEq, Repr

namespace Route

/-- What a path below `/api/v1` names, given its segments. -/
def ofSegments? : List String → Option Route
  | ["health"] => some .health
  | ["transactions", ""] => some .transactions
  | ["transactions", id, ""] => some (.transaction id)
  | ["transactions", id, "reverse", ""] => some (.reversal id)
  | ["content-metadata", id, ""] => some (.metadata id)
  | ["subsidies", ""] => some .subsidies
  | ["subsidies", id, ""] => some (.subsidy id)
  | _ => none

/-- What a path names. -/
def ofPath? (path : String) : Option Route :=
  match Text.splitAllString '/' path with
  | ["", ""] => some .banner
  | ["", "health"] => some .health
  | ["", "healthz"] => some .health
  | "" :: "api" :: "v1" :: segments => ofSegments? segments
  | _ => none

/-- What a method does, if it does something. What answers `GET` also answers `HEAD`. -/
def endpoint? (r : Route) (method : String) : Option Endpoint :=
  if method = "GET" ∨ method = "HEAD" then
    match r with
    | .banner => some .showBanner
    | .health => some .showHealth
    | .transactions => some .listTransactions
    | .transaction id => some (.showTransaction id)
    | .reversal _ => none
    | .metadata id => some (.showMetadata id)
    | .subsidies => some .listSubsidies
    | .subsidy id => some (.showSubsidy id)
  else if method = "POST" then
    match r with
    | .transactions => some .createTransaction
    | .reversal id => some (.reverseTransaction id)
    | _ => none
  else none

/-- The methods that do something. -/
def allowedMethods : Route → String
  | .transactions => "POST,GET,HEAD"
  | .reversal _ => "POST"
  | _ => "GET,HEAD"

/-- The identifier in a segment, without its percent-encoding. -/
def decodeSegment? (segment : String) : Option String :=
  Text.decode? (Http.percentDecode segment.toList)

end Route
end Bursar
