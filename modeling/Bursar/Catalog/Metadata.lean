import Bursar.Catalog.Content

/-!
# Content metadata

The part of a catalog document that matters for spending: what the content is,
where it comes from and what it costs. A price that is a whole number of 64 bits
is written as an integer, any other one as a double.
-/

namespace Bursar

/-- What is told about the price of a content item. -/
structure ContentMetadata where
  contentUuid : Uuid
  contentKey : String
  source : String
  price : Decimal
deriving DecidableEq

/-- The source of content that names none. -/
def ContentMetadata.ownSource : String := "edX"

/-- The metadata that a catalog document gives, if it has a price. -/
def ContentMetadata.ofCatalog (c : CatalogContent) : Except MetadataError ContentMetadata :=
  match c.price with
  | none => .error (.missingPrice c.key)
  | some price =>
    .ok
      { contentUuid := c.uuid
        contentKey := c.key
        source := match c.productSource with | some s => s.name | none => ContentMetadata.ownSource
        price := price }

namespace Decimal

/-- The double nearest to a natural number. -/
def doubleOfNat (n : Nat) : Float := Float.ofScientific n false 0

/-- A double near the amount: whole part and fraction are converted on their own, added, and the sum
is rounded to the decimals of the scale. -/
def toDouble (x : Decimal) : Float :=
  let magnitude :=
    if x.scale = 0 then doubleOfNat x.magnitude
    else
      let unit := Nat.pow 10 x.scale
      let whole := doubleOfNat (x.magnitude / unit)
      let fraction := doubleOfNat (x.magnitude % unit) / doubleOfNat unit
      if fraction == 0 then whole
      else Float.round ((whole + fraction) * doubleOfNat unit) / doubleOfNat unit
  if x.hasMinus then -magnitude else magnitude

/-- The number in JSON that shows a price. -/
def toNumber (x : Decimal) : Number :=
  match if x.isWhole then x.toInt64? else none with
  | some n => .int n
  | none => .float x.toDouble

/-- Reads a price as it is shown: an integer, a double by its positional text, or a text. -/
def shownDecoder : Json.Decoder Decimal := fun _ raw =>
  let ofText (s : String) : Except Json.Fault Decimal :=
    match Decimal.parse? s with
    | some x => .ok x
    | none => .error .shape
  match raw with
  | .number (some (.int n)) =>
    match Decimal.of? n 0 with
    | some x => .ok x
    | none => .error .shape
  | .number (some (.float x)) => ofText (Binary64.plainText x)
  | .text (some s) => ofText s
  | _ => .error raw.mismatch

end Decimal

/-- Metadata in JSON. -/
def ContentMetadata.toJson (m : ContentMetadata) : Json :=
  .object
    [("content_uuid", .string m.contentUuid.toString), ("content_key", .string m.contentKey),
     ("source", .string m.source), ("content_price", .number m.price.toNumber)]

open Json Json.Decoder Json.Record in
/-- The fields of shown metadata. -/
def ContentMetadata.record : Json.Record ContentMetadata :=
  ContentMetadata.mk <$> required "content_uuid" Decoder.uuid <*> required "content_key" string
    <*> required "source" string <*> required "content_price" Decimal.shownDecoder

end Bursar
