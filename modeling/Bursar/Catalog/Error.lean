import Bursar.Text.Numeral

/-!
# Failures of the catalog

How a request to the catalog service fails, and how a metadata lookup fails.
-/

namespace Bursar

/-- Why the catalog gave no document. -/
inductive CatalogError where
  /-- The service answered with a status that is not a success. -/
  | http (status : Nat) (reason url : String)
  /-- There was no answer. -/
  | transport (text : String)
  /-- The answer cannot be read. -/
  | decode (text : String)
deriving DecidableEq, Repr

namespace CatalogError

/-- The wording: an HTTP failure names status, side, reason and address. -/
def message : CatalogError → String
  | .http status reason url =>
    Text.ofNat status ++ (if 500 ≤ status then " Server" else " Client") ++ " Error: " ++ reason ++
      " for url: " ++ url
  | .transport text => text
  | .decode text => "Invalid catalog response: " ++ text

/-- The status of the answer, if there was one. -/
def status? : CatalogError → Option Nat
  | .http status _ _ => some status
  | _ => none

/-- Whether the service laid the failure on the request. -/
def isClientError (e : CatalogError) : Bool :=
  match e.status? with
  | some s => 400 ≤ s && s < 500
  | none => false

/-- The wording inside an answer that passes a catalog failure on. -/
def relayed (e : CatalogError) : String :=
  "Failed to fetch data from catalog service with exc: " ++ e.message

end CatalogError

/-- Why there is no metadata for a content item. -/
inductive MetadataError where
  | contentNotFound
  | catalog (error : CatalogError)
  | missingPrice (contentKey : String)
deriving DecidableEq, Repr

namespace MetadataError

/-- The wording of a failed lookup. -/
def message : MetadataError → String
  | .contentNotFound => "Content not found"
  | .catalog e => e.relayed
  | .missingPrice contentKey => "No price found for content " ++ contentKey

/-- What a catalog failure means for a lookup: status 404 says that there is no such content. -/
def ofCatalog (e : CatalogError) : MetadataError :=
  if e.status? = some 404 then .contentNotFound else .catalog e

end MetadataError
end Bursar
