import Bursar.Access.Principal
import Bursar.Catalog.Error
import Bursar.Http.Status
import Bursar.Json.Basic
import Bursar.Spend.Command

/-!
# Refused requests

Why the service refuses a request, and what its answer says: a status
(`ServiceError.status`), a body (`ServiceError.body`) and, for the counters, a code
(`ServiceError.code`). The wording (`ServiceError.message`) goes to the log.

The body is an object with the member `detail`, with exceptions: a malformed
request has the member `Error`, missing fields have a member each, and a failure
of the catalog is a mere string.
-/

namespace Bursar

/-- Why the service refuses a request. -/
inductive ServiceError where
  /-- The body or an identifier in it cannot be read. -/
  | validation (reason : String)
  /-- Fields of the body are missing or wrong, with the complaints about each, sorted by field. -/
  | fields (complaints : List (String × List String))
  /-- There is no such resource. -/
  | notFound (resource id : String)
  /-- It is not known who calls. -/
  | unauthorized (reason : String)
  /-- The caller may not do this. -/
  | forbidden (reason : String)
  | internal (reason : String)
  | ledger (error : LedgerError)
  | spend (error : SpendError)
  | metadata (error : MetadataError)
deriving DecidableEq, Repr

namespace ServiceError

/-! ## Making errors -/

/-- The complaint about a field that is not there. -/
def fieldRequired : String := "This field is required."

/-- Puts a field's complaints where they belong in sorted ones. -/
def putField (field : String) (complaints : List String) :
    List (String × List String) → List (String × List String)
  | [] => [(field, complaints)]
  | (f, cs) :: rest =>
    if field < f then (field, complaints) :: (f, cs) :: rest
    else if field = f then (field, complaints) :: rest
    else (f, cs) :: putField field complaints rest

/-- The refusal of a body that lacks fields. -/
def missingFields (names : List String) : ServiceError :=
  .fields (names.foldl (fun known name => putField name [fieldRequired] known) [])

/-- The refusal of a body with one wrong field. -/
def wrongField (name complaint : String) : ServiceError := .fields [(name, [complaint])]

/-- The refusal of a caller who lacks a capability. -/
def missingCapability (c : Capability) : ServiceError := .forbidden (Decision.missingText c)

/-- Refuses a caller who was denied. -/
def require : Decision → Except ServiceError Unit
  | .allowed => .ok ()
  | .denied missing => .error (missingCapability missing)

/-! ## What the answer says -/

/-- The names of fields with commas between them. -/
def fieldNames (complaints : List (String × List String)) : String :=
  ", ".intercalate (complaints.map (·.1))

/-- The wording of a refusal. -/
def message : ServiceError → String
  | .validation reason => reason
  | .fields complaints => "Invalid fields: " ++ fieldNames complaints
  | .notFound resource id => "Resource not found: " ++ resource ++ " with id " ++ id
  | .unauthorized reason => reason
  | .forbidden reason => reason
  | .internal reason => "Internal error: " ++ reason
  | .ledger e => e.message
  | .spend e => e.message
  | .metadata e => e.message

/-- The status for a refusal of the ledger. -/
def ledgerStatus : LedgerError → Nat
  | .notFound _ => 404
  | .insufficientBalance _ _ => 422
  | .alreadyExists _ => 409
  | .duplicateKey _ => 409
  | .invalidTransition _ _ => 409
  | .validation _ => 400
  | .unitMismatch _ _ => 400
  | .storage _ => 500

/-- The status of the catalog's answer, if it can be passed on, and that of a bad gateway otherwise. -/
def relayedStatus (e : CatalogError) : Nat :=
  match e.status? with
  | some status => if Http.isStatus status then status else 502
  | none => 502

/-- The status of the answer. -/
def status : ServiceError → Nat
  | .validation _ => 400
  | .fields _ => 400
  | .notFound _ _ => 404
  | .unauthorized _ => 401
  | .forbidden _ => 403
  | .internal _ => 500
  | .ledger e => ledgerStatus e
  | .spend (.ledger e) => ledgerStatus e
  | .spend (.pricing e) => if e.isClientError then relayedStatus e else 502
  | .spend (.enrollment _) => 500
  | .spend (.aborted _) => 500
  | .metadata .contentNotFound => 404
  | .metadata (.catalog e) => relayedStatus e
  | .metadata (.missingPrice _) => 422

/-- The code under which the refusal is counted. -/
def code : ServiceError → String
  | .validation _ => "VALIDATION_ERROR"
  | .fields _ => "FIELD_ERROR"
  | .notFound _ _ => "NOT_FOUND"
  | .unauthorized _ => "UNAUTHORIZED"
  | .forbidden _ => "FORBIDDEN"
  | .internal _ => "INTERNAL_ERROR"
  | .ledger _ => "LEDGER_ERROR"
  | .spend (.ledger _) => "LEDGER_ERROR"
  | .spend (.pricing _) => "PRICING_ERROR"
  | .spend (.enrollment _) => "ENROLLMENT_ERROR"
  | .spend (.aborted _) => "WORKFLOW_ABORTED"
  | .metadata _ => "METADATA_ERROR"

/-- What a caller is told about a resource that is not there. -/
def notFoundDetail : String := "Not found."

/-- A body with the member `detail`. -/
def detailBody (text : String) : Json := .object [("detail", .string text)]

/-- The complaints about fields in JSON. -/
def fieldsBody (complaints : List (String × List String)) : Json :=
  .object (complaints.map fun (name, texts) => (name, .array (texts.map .string)))

/-- The body of the answer. -/
def body : ServiceError → Json
  | .validation reason => .object [("Error", .string reason)]
  | .fields complaints => fieldsBody complaints
  | .notFound _ _ => detailBody notFoundDetail
  | .ledger (.notFound _) => detailBody notFoundDetail
  | .spend (.ledger (.notFound _)) => detailBody notFoundDetail
  | .metadata e => .string e.message
  | .spend (.pricing e) => .string (SpendError.pricing e).message
  | other => detailBody other.message

end ServiceError
end Bursar
