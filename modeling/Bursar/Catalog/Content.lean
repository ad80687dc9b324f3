import Bursar.Decimal.Reading
import Bursar.Catalog.Error
import Bursar.Json.Decode

/-!
# Catalog documents

What the catalog says about a content item. Of its entitlements the one whose
mode fits the kind of content sets the price, or else the first one
(`CatalogContent.price`). `CatalogContent.priceText` is that price as it is handed
to whoever spends a subsidy on the content.
-/

namespace Bursar

/-- Something that can be bought for a content item. -/
structure Entitlement where
  mode : Option String
  price : Decimal
  currency : Option String
  sku : Option String
deriving DecidableEq

/-- Where content comes from that is not the platform's own. -/
structure ProductSource where
  name : String
  slug : Option String
  description : Option String
deriving DecidableEq

/-- The catalog's document of a content item. -/
structure CatalogContent where
  key : String
  uuid : Uuid
  contentType : Option String
  entitlements : List Entitlement
  productSource : Option ProductSource
deriving DecidableEq

namespace CatalogContent

/-- The mode of the entitlement that sets the price. -/
def pricingMode (c : CatalogContent) : String :=
  if c.productSource.isSome then "paid-executive-education" else "verified"

/-- The entitlement that sets the price. -/
def pricing (c : CatalogContent) : Option Entitlement :=
  match c.entitlements.find? fun e => e.mode = some c.pricingMode with
  | some e => some e
  | none => c.entitlements.head?

/-- The price of an enrollment. -/
def price (c : CatalogContent) : Option Decimal := c.pricing.map Entitlement.price

/-- The price as text, for content that was asked for by `contentKey`. -/
def priceText (c : CatalogContent) (contentKey : String) : Except CatalogError String :=
  match c.price with
  | some p => .ok p.toString
  | none => .error (.decode ("no entitlement price for " ++ contentKey))

end CatalogContent

/-! ## Writing -/

/-- An entitlement in JSON, its price as text. -/
def Entitlement.toJson (e : Entitlement) : Json :=
  .object
    [("mode", .ofOptionString e.mode), ("price", .string e.price.toString),
     ("currency", .ofOptionString e.currency), ("sku", .ofOptionString e.sku)]

/-- A product source in JSON. -/
def ProductSource.toJson (s : ProductSource) : Json :=
  .object
    [("name", .string s.name), ("slug", .ofOptionString s.slug),
     ("description", .ofOptionString s.description)]

/-- A catalog document in JSON. -/
def CatalogContent.toJson (c : CatalogContent) : Json :=
  .object
    [("key", .string c.key), ("uuid", .string c.uuid.toString),
     ("content_type", .ofOptionString c.contentType),
     ("entitlements", .array (c.entitlements.map Entitlement.toJson)),
     ("product_source", match c.productSource with | some s => s.toJson | none => .null)]

/-! ## Reading -/

/-- The text of a price, which is a number or a string. -/
def priceTextOf : Json → Option String
  | .number n => some (Json.numberText n)
  | .string s => some s
  | _ => none

/-- A decimal from its text in the plain notation, or else in the scientific one. -/
def Decimal.parse? (s : String) : Option Decimal := (Decimal.parse s).toOption

/-- Reads a price, a number or a string. -/
def priceDecoder : Json.Decoder Decimal := fun depth raw => do
  let value ← raw.toJson depth
  match (priceTextOf value).bind Decimal.parse? with
  | some p => .ok p
  | none => .error .shape

open Json Json.Decoder Json.Record in
/-- The fields of an entitlement. -/
def Entitlement.record : Json.Record Entitlement :=
  Entitlement.mk <$> optional "mode" string <*> required "price" priceDecoder
    <*> optional "currency" string <*> optional "sku" string

open Json Json.Decoder Json.Record in
/-- The fields of a product source. -/
def ProductSource.record : Json.Record ProductSource :=
  ProductSource.mk <$> required "name" string <*> optional "slug" string
    <*> optional "description" string

open Json Json.Decoder Json.Record in
/-- The fields of a catalog document. -/
def CatalogContent.record : Json.Record CatalogContent :=
  CatalogContent.mk <$> required "key" string <*> required "uuid" Decoder.uuid
    <*> optional "content_type" string
    <*> defaulted "entitlements" [] (list Entitlement.record.decoder)
    <*> optional "product_source" ProductSource.record.decoder

end Bursar
