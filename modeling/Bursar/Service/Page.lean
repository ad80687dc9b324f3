import Bursar.Json.Decode

/-!
# Pages

A long list is answered page by page. Pages are numbered from zero; the asked
size of a page is brought between 1 and `maxPageSize`. Numbers are of 64 bits: a
start that would be larger is past the end anyway.
-/

namespace Bursar

/-- Which page of what size is asked for. -/
structure PageQuery where
  page : Nat
  pageSize : Nat
deriving DecidableEq, Repr

namespace PageQuery

/-- The size of a page if none is asked for. -/
def standardSize : Nat := 20

/-- The first page in the standard size. -/
def first : PageQuery := { page := 0, pageSize := standardSize }

open Json Json.Decoder Json.Record in
/-- The fields of a query for a page. -/
def record : Json.Record PageQuery :=
  PageQuery.mk <$> defaulted "page" 0 nat64 <*> defaulted "page_size" standardSize nat64

end PageQuery

/-- One page of a list, and how it lies in the whole. -/
structure Page (α : Type) where
  items : List α
  total : Nat
  page : Nat
  pageSize : Nat
  hasMore : Bool
deriving DecidableEq, Repr

namespace Page

/-- The greatest size of a page. -/
def maxSize : Nat := 100

/-- An asked size brought into its bounds. -/
def effectiveSize (size : Nat) : Nat := max 1 (min size maxSize)

/-- Where a page starts, at most the greatest number of 64 bits. -/
def start (q : PageQuery) : Nat := min (q.page * effectiveSize q.pageSize) Text.maxNat64

/-- The page of a list that is asked for. -/
def of {α : Type} (all : List α) (q : PageQuery) : Page α :=
  let items := (all.drop (min (start q) all.length)).take (effectiveSize q.pageSize)
  { items := items
    total := all.length
    page := q.page
    pageSize := effectiveSize q.pageSize
    hasMore := start q + items.length < all.length }

/-- The page with other items in their places. -/
def withItems {α β : Type} (p : Page α) (items : List β) : Page β :=
  { items := items, total := p.total, page := p.page, pageSize := p.pageSize, hasMore := p.hasMore }

/-- A page in JSON. -/
def toJson {α : Type} (item : α → Json) (p : Page α) : Json :=
  .object
    [("items", .array (p.items.map item)), ("total", .nat p.total), ("page", .nat p.page),
     ("page_size", .nat p.pageSize), ("has_more", .bool p.hasMore)]

open Json Json.Decoder Json.Record in
/-- The fields of a page. -/
def record {α : Type} (item : Json.Decoder α) : Json.Record (Page α) :=
  Page.mk <$> required "items" (list item) <*> required "total" nat64 <*> required "page" nat64
    <*> required "page_size" nat64 <*> required "has_more" bool

end Page
end Bursar
