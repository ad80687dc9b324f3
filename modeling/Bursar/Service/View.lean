import Bursar.Ledger.Subsidy

/-!
# Views

What callers are shown of transactions and subsidies. A view is written by the
service and read by its clients; metadata is shown as the text of a JSON object,
and the two ends of a subsidy's time in whole seconds.
-/

namespace Bursar

/-- What is shown of a reversal. -/
structure ReversalView where
  uuid : Uuid
  key : String
  quantity : Int
  state : String
  metadata : String
  created : Timestamp
  modified : Timestamp
deriving DecidableEq, Inhabited

/-- What is shown of a transaction. -/
structure TransactionView where
  uuid : Uuid
  key : String
  ledger : Uuid
  learner : Option Int
  contentKey : Option String
  policy : Option Uuid
  metadata : String
  unit : Denomination
  quantity : Int
  referenceId : Option String
  referenceType : Option String
  reversal : Option ReversalView
  state : String
  created : Timestamp
  modified : Timestamp
deriving DecidableEq, Inhabited

/-- What is shown of a subsidy, with its balance. -/
structure SubsidyView where
  uuid : Uuid
  title : String
  enterprise : Uuid
  active : String
  expiration : String
  unit : Denomination
  referenceId : Option String
  referenceType : Option String
  balance : Int
deriving DecidableEq, Inhabited

/-- The text that shows metadata. -/
def metadataText (metadata : List (String × Json)) : String := (Json.object metadata).compact

/-- The view of a reversal. -/
def ReversalView.of (r : Reversal) : ReversalView where
  uuid := r.uuid
  key := r.key.text
  quantity := r.quantity
  state := r.state.toText
  metadata := metadataText r.metadata
  created := r.created
  modified := r.modified

/-- The view of a transaction. -/
def TransactionView.of (t : Transaction) : TransactionView where
  uuid := t.uuid
  key := t.key.text
  ledger := t.ledgerUuid
  learner := t.learner
  contentKey := t.contentKey
  policy := t.policyUuid
  metadata := metadataText t.metadata
  unit := t.unit
  quantity := t.quantity
  referenceId := t.referenceId
  referenceType := t.referenceType
  reversal := t.reversal.map ReversalView.of
  state := t.state.toText
  created := t.created
  modified := t.modified

/-- The view of a subsidy. -/
def SubsidyView.of (s : Subsidy) (balance : Int) : SubsidyView where
  uuid := s.uuid
  title := s.title
  enterprise := s.enterprise
  active := s.active.toStringSeconds
  expiration := s.expiration.toStringSeconds
  unit := s.unit
  referenceId := s.referenceId
  referenceType := s.referenceType
  balance := balance

/-! ## Writing -/

/-- The view of a reversal in JSON. -/
def ReversalView.toJson (r : ReversalView) : Json :=
  .object
    [("uuid", r.uuid.toJson), ("idempotency_key", .string r.key), ("quantity", .int r.quantity),
     ("state", .string r.state), ("metadata", .string r.metadata),
     ("created", .string r.created.toString), ("modified", .string r.modified.toString)]

/-- The view of a transaction in JSON. -/
def TransactionView.toJson (t : TransactionView) : Json :=
  .object
    [("uuid", t.uuid.toJson), ("idempotency_key", .string t.key), ("ledger", t.ledger.toJson),
     ("lms_user_id", intOptionToJson t.learner), ("content_key", .ofOptionString t.contentKey),
     ("subsidy_access_policy_uuid", Uuid.optionToJson t.policy), ("metadata", .string t.metadata),
     ("unit", .string t.unit.toText), ("quantity", .int t.quantity),
     ("reference_id", .ofOptionString t.referenceId),
     ("reference_type", .ofOptionString t.referenceType),
     ("reversal", match t.reversal with | some r => r.toJson | none => .null),
     ("state", .string t.state), ("created", .string t.created.toString),
     ("modified", .string t.modified.toString)]

/-- The view of a subsidy in JSON. -/
def SubsidyView.toJson (s : SubsidyView) : Json :=
  .object
    [("uuid", s.uuid.toJson), ("title", .string s.title),
     ("enterprise_customer_uuid", s.enterprise.toJson), ("active_datetime", .string s.active),
     ("expiration_datetime", .string s.expiration), ("unit", .string s.unit.toText),
     ("reference_id", .ofOptionString s.referenceId),
     ("reference_type", .ofOptionString s.referenceType), ("current_balance", .int s.balance)]

/-! ## Reading -/

open Json Json.Decoder Json.Record in
/-- The fields of a reversal's view. -/
def ReversalView.record : Json.Record ReversalView :=
  ReversalView.mk <$> required "uuid" Decoder.uuid <*> required "idempotency_key" string
    <*> required "quantity" int64 <*> required "state" string <*> required "metadata" string
    <*> required "created" timestamp <*> required "modified" timestamp

open Json Json.Decoder Json.Record in
/-- The fields of a transaction's view. -/
def TransactionView.record : Json.Record TransactionView :=
  TransactionView.mk <$> required "uuid" Decoder.uuid <*> required "idempotency_key" string
    <*> required "ledger" Decoder.uuid <*> nullable "lms_user_id" int64
    <*> nullable "content_key" string <*> nullable "subsidy_access_policy_uuid" Decoder.uuid
    <*> required "metadata" string <*> required "unit" Denomination.decoder
    <*> required "quantity" int64 <*> nullable "reference_id" string
    <*> nullable "reference_type" string <*> nullable "reversal" ReversalView.record.decoder
    <*> required "state" string <*> required "created" timestamp <*> required "modified" timestamp

open Json Json.Decoder Json.Record in
/-- The fields of a subsidy's view. -/
def SubsidyView.record : Json.Record SubsidyView :=
  SubsidyView.mk <$> required "uuid" Decoder.uuid <*> required "title" string
    <*> required "enterprise_customer_uuid" Decoder.uuid <*> required "active_datetime" string
    <*> required "expiration_datetime" string <*> required "unit" Denomination.decoder
    <*> nullable "reference_id" string <*> nullable "reference_type" string
    <*> required "current_balance" int64

end Bursar
