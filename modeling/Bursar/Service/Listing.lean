import Bursar.Http.Form
import Bursar.Service.Page

/-!
# Queries of listings

What the query of a request asks for. A field may stand once and is read as a
value of its type; unknown fields are ignored.
-/

namespace Bursar

/-- Why a query cannot be read. -/
inductive QueryFault where
  /-- A field stands more than once. -/
  | repeated (field : String)
  /-- A field's value cannot be read. -/
  | unreadable (field : String)
deriving DecidableEq, Repr

/-- The wording of a query that cannot be read. -/
def QueryFault.message : QueryFault → String
  | .repeated field => "Failed to deserialize query string: duplicate field " ++ field
  | .unreadable field => "Failed to deserialize query string: invalid value of " ++ field

/-- The values of a field. -/
def valuesOf (field : String) (pairs : List (String × String)) : List String :=
  (pairs.filter fun pair => pair.1 = field).map (·.2)

/-- The value of a field that may stand once. -/
def fieldOf {α : Type} (field : String) (read : String → Option α) (pairs : List (String × String)) :
    Except QueryFault (Option α) :=
  match valuesOf field pairs with
  | [] => .ok none
  | [value] =>
    match read value with
    | some a => .ok (some a)
    | none => .error (.unreadable field)
  | _ => .error (.repeated field)

/-- The page that a query asks for. -/
def PageQuery.ofPairs (pairs : List (String × String)) : Except QueryFault PageQuery := do
  let page ← fieldOf "page" Text.unsigned64? pairs
  let pageSize ← fieldOf "page_size" Text.unsigned64? pairs
  return { page := page.getD 0, pageSize := pageSize.getD standardSize }

/-- A listing of transactions, narrowed down and cut into pages. -/
structure TransactionListing where
  subsidy : Option Uuid
  learner : Option Int
  contentKey : Option String
  page : PageQuery
deriving DecidableEq

namespace TransactionListing

/-- The listing that a query asks for. -/
def ofPairs (pairs : List (String × String)) : Except QueryFault TransactionListing := do
  let subsidy ← fieldOf "subsidy_uuid" Uuid.parse? pairs
  let learner ← fieldOf "lms_user_id" Text.signed64? pairs
  let contentKey ← fieldOf "content_key" some pairs
  let page ← PageQuery.ofPairs pairs
  return { subsidy, learner, contentKey, page }

end TransactionListing

/-- A listing of subsidies, perhaps of one enterprise, cut into pages. -/
structure SubsidyListing where
  enterprise : Option Uuid
  page : PageQuery
deriving DecidableEq

namespace SubsidyListing

/-- The listing that a query asks for. -/
def ofPairs (pairs : List (String × String)) : Except QueryFault SubsidyListing := do
  let enterprise ← fieldOf "enterprise_customer_uuid" Uuid.parse? pairs
  let page ← PageQuery.ofPairs pairs
  return { enterprise, page }

end SubsidyListing

/-- The enterprise for which metadata is asked, a text that names it or not. -/
structure MetadataQuery where
  enterprise : Option String
deriving DecidableEq

namespace MetadataQuery

/-- What a query asks for. -/
def ofPairs (pairs : List (String × String)) : Except QueryFault MetadataQuery :=
  (fieldOf "enterprise_customer_uuid" some pairs).map MetadataQuery.mk

/-- The enterprise, if the text names one. -/
def enterprise? (q : MetadataQuery) : Option Uuid := q.enterprise.bind fun s => Uuid.parse? (Text.trim s)

open Json Json.Decoder Json.Record in
/-- The fields of the query as an object. -/
def record : Json.Record MetadataQuery := MetadataQuery.mk <$> nullable "enterprise_customer_uuid" string

end MetadataQuery
end Bursar
