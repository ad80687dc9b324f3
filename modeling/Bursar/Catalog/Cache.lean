import Bursar.Catalog.Metadata
import Bursar.Table

/-!
# The metadata cache

Metadata that was found is kept for a while under the identifier it was asked
for and the enterprise that asked. An entry serves until its time is over; it is
taken out when it is asked for after that, or when something else is put in.

Time is a count of milliseconds that never goes back.
-/

namespace Bursar

/-- Metadata and the moment from which on it no longer serves. -/
structure CacheEntry where
  metadata : ContentMetadata
  expires : Nat
deriving DecidableEq

/-- Who asked, and for what. -/
abbrev CacheKey := String × Uuid

/-- Metadata by who asked and for what, each entry kept for `lifetime` milliseconds. -/
structure MetadataCache where
  lifetime : Nat
  entries : Table CacheKey CacheEntry

namespace MetadataCache

/-- The cache without entries. -/
def empty (lifetime : Nat) : MetadataCache := ⟨lifetime, .empty⟩

/-- How long metadata serves if nothing else is said, in milliseconds. -/
def standardLifetime : Nat := 300000

/-- The metadata that serves now; an entry whose time is over is taken out. -/
def get (c : MetadataCache) (now : Nat) (key : CacheKey) : Option ContentMetadata × MetadataCache :=
  match c.entries.get? key with
  | none => (none, c)
  | some e =>
    if now < e.expires then (some e.metadata, c) else (none, { c with entries := c.entries.erase key })

/-- Puts metadata in and takes out every entry whose time is over. -/
def insert (c : MetadataCache) (now : Nat) (key : CacheKey) (m : ContentMetadata) : MetadataCache :=
  let kept := c.entries.retain fun _ e => now < e.expires
  { c with entries := kept.insert key { metadata := m, expires := now + c.lifetime } }

/-- Takes everything out. -/
def clear (c : MetadataCache) : MetadataCache := { c with entries := .empty }

/-- The number of entries, those whose time is over included. -/
def size (c : MetadataCache) : Nat := c.entries.size

end MetadataCache
end Bursar
