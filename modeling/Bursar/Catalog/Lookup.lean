import Bursar.Catalog.Cache

/-!
# Looking up metadata

A lookup asks the cache first, and the catalog only if the cache has nothing
that serves. Metadata that comes from the catalog is put into the cache; a lookup
that fails leaves the cache as it is.

`LookupRun.step` is one undivided step of a lookup. Between two steps of one
lookup others may use the cache.
-/

namespace Bursar

/-- Metadata that was found, and whether the cache served it. -/
structure Lookup where
  metadata : ContentMetadata
  isHit : Bool
deriving DecidableEq

/-- What a step of a lookup gets from outside. -/
inductive LookupInput where
  /-- Nothing but the time. -/
  | proceed (now : Nat)
  /-- The catalog's answer. -/
  | answered (answer : Except CatalogError CatalogContent)

/-- Where a lookup stands: what it does next. -/
inductive LookupRun where
  /-- Ask the cache. -/
  | arrived (key : CacheKey)
  /-- Hear the catalog. -/
  | asking (key : CacheKey)
  /-- Put the metadata into the cache. -/
  | storing (key : CacheKey) (m : ContentMetadata)
  | finished (result : Except MetadataError Lookup)

namespace LookupRun

/-- What a lookup came to, if it is over. -/
def result? : LookupRun → Option (Except MetadataError Lookup)
  | .finished result => some result
  | _ => none

/-- The metadata that the catalog's answer gives. -/
def ofAnswer : Except CatalogError CatalogContent → Except MetadataError ContentMetadata
  | .error e => .error (.ofCatalog e)
  | .ok content => ContentMetadata.ofCatalog content

/-- One step of a lookup; `none` if the input is not what it waits for. -/
def step (c : MetadataCache) : LookupRun → LookupInput → Option (MetadataCache × LookupRun)
  | .arrived key, .proceed now =>
    match c.get now key with
    | (some m, c) => some (c, .finished (.ok { metadata := m, isHit := true }))
    | (none, c) => some (c, .asking key)
  | .asking key, .answered answer =>
    match ofAnswer answer with
    | .error e => some (c, .finished (.error e))
    | .ok m => some (c, .storing key m)
  | .storing key m, .proceed now =>
    some (c.insert now key m, .finished (.ok { metadata := m, isHit := false }))
  | _, _ => none

end LookupRun
end Bursar
