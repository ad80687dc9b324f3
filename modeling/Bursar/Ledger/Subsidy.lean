import Bursar.Ledger.Transaction

/-!
# Subsidies

A subsidy is an allowance that an enterprise customer spends on enrollments. Its
balance is not part of it: it is the balance of the ledger behind it.
-/

namespace Bursar

/-- An allowance of an enterprise customer and the ledger behind it. -/
structure Subsidy where
  uuid : Uuid
  title : String
  enterprise : Uuid
  active : Timestamp
  expiration : Timestamp
  unit : Denomination
  referenceId : Option String
  referenceType : Option String
  ledgerUuid : Uuid
deriving DecidableEq, Inhabited

/-- A subsidy that is to be provided, with the deposit that opens its ledger. -/
structure NewSubsidy where
  title : String
  enterprise : Uuid
  active : Timestamp
  expiration : Timestamp
  unit : Denomination
  referenceId : Option String
  referenceType : Option String
  startingBalance : Int
  uuid : Option Uuid
deriving DecidableEq, Inhabited

/-- A subsidy in JSON. -/
def Subsidy.toJson (s : Subsidy) : Json :=
  .object
    [("uuid", s.uuid.toJson), ("title", .string s.title),
     ("enterprise_customer_uuid", s.enterprise.toJson),
     ("active_datetime", .string s.active.toString),
     ("expiration_datetime", .string s.expiration.toString), ("unit", .string s.unit.toText),
     ("reference_id", .ofOptionString s.referenceId),
     ("reference_type", .ofOptionString s.referenceType), ("ledger_uuid", s.ledgerUuid.toJson)]

open Json Json.Decoder Json.Record in
/-- The fields of a stored subsidy. -/
def Subsidy.record : Json.Record Subsidy :=
  Subsidy.mk <$> required "uuid" Decoder.uuid <*> required "title" string
    <*> required "enterprise_customer_uuid" Decoder.uuid <*> required "active_datetime" timestamp
    <*> required "expiration_datetime" timestamp <*> required "unit" Denomination.decoder
    <*> nullable "reference_id" string <*> nullable "reference_type" string
    <*> required "ledger_uuid" Decoder.uuid

open Json Json.Decoder Json.Record in
/-- The fields of a subsidy to be provided. It is active from now on and for 365 days, counts cents and
starts empty unless it says otherwise. -/
def NewSubsidy.record (now : Timestamp) : Json.Record NewSubsidy :=
  NewSubsidy.mk <$> required "title" string <*> required "enterprise_customer_uuid" Decoder.uuid
    <*> defaulted "active_datetime" now timestamp
    <*> defaulted "expiration_datetime" (now.addDays 365) timestamp
    <*> defaulted "unit" Denomination.standard Denomination.decoder
    <*> optional "reference_id" string <*> optional "reference_type" string
    <*> defaulted "starting_balance" 0 int64 <*> optional "uuid" Decoder.uuid

end Bursar
