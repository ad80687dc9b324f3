import Bursar.Ledger.Error
import Bursar.Ledger.Key

/-!
# Transactions

A transaction starts `created` and is then committed or failed, once and for
all. A committed transaction counts with its quantity; a committed reversal
attached to it counts with its own, which is the opposite, so that the two
together come to nothing (`Transaction.effect`).
-/

namespace Bursar

/-- Where a transaction or a reversal is in its life. -/
inductive TransactionState where
  | created
  | committed
  | failed
deriving DecidableEq, Repr, Inhabited

namespace TransactionState

/-- The written name. -/
def toText : TransactionState → String
  | .created => "created"
  | .committed => "committed"
  | .failed => "failed"

/-- All states with their names. -/
def names : List (String × TransactionState) :=
  [("created", .created), ("committed", .committed), ("failed", .failed)]

/-- Whether a step from one state to another is allowed: only a created transaction moves, forward. -/
def canBecome : TransactionState → TransactionState → Bool
  | .created, .committed => true
  | .created, .failed => true
  | _, _ => false

/-- Reads a state. -/
def decoder : Json.Decoder TransactionState := Json.Decoder.name names

end TransactionState

/-- What the surroundings hand to an operation that writes a record: a fresh identifier and the time. -/
structure Stamp where
  uuid : Uuid
  now : Timestamp
deriving DecidableEq, Inhabited

/-- The entry that undoes a committed transaction. -/
structure Reversal where
  uuid : Uuid
  transactionUuid : Uuid
  key : IdempotencyKey
  quantity : Int
  state : TransactionState
  metadata : List (String × Json)
  created : Timestamp
  modified : Timestamp
deriving Inhabited

/-- A change of a ledger's balance. -/
structure Transaction where
  uuid : Uuid
  key : IdempotencyKey
  ledgerUuid : Uuid
  learner : Option Int
  contentKey : Option String
  policyUuid : Option Uuid
  unit : Denomination
  quantity : Int
  state : TransactionState
  referenceId : Option String
  referenceType : Option String
  reversal : Option Reversal
  metadata : List (String × Json)
  created : Timestamp
  modified : Timestamp
deriving Inhabited

/-- The reference type of transactions that pay for an enrollment. -/
def enrollmentReferenceType : String := "enterprise_fulfillment_source_uuid"

namespace Transaction

/-- A transaction in the state `created`, for no learner yet. -/
def pending (stamp : Stamp) (ledger : Uuid) (unit : Denomination) (key : IdempotencyKey)
    (quantity : Int) : Transaction where
  uuid := stamp.uuid
  key := key
  ledgerUuid := ledger
  learner := none
  contentKey := none
  policyUuid := none
  unit := unit
  quantity := quantity
  state := .created
  referenceId := none
  referenceType := none
  reversal := none
  metadata := []
  created := stamp.now
  modified := stamp.now

/-- The same transaction, said to pay for a learner's enrollment under a policy. -/
def forLearner (t : Transaction) (learner : Int) (content : String) (policy : Uuid) : Transaction :=
  { t with learner := some learner, contentKey := some content, policyUuid := some policy }

/-- The transaction moved to another state, if the step is allowed. -/
def moveTo (t : Transaction) (target : TransactionState) (now : Timestamp) :
    Except LedgerError Transaction :=
  if t.state.canBecome target then .ok { t with state := target, modified := now }
  else .error (.invalidTransition t.state.toText target.toText)

/-- The transaction committed, with what caused it outside the ledger. -/
def commit (t : Transaction) (referenceId referenceType : Option String) (now : Timestamp) :
    Except LedgerError Transaction :=
  (t.moveTo .committed now).map fun t =>
    { t with referenceId := referenceId, referenceType := referenceType }

/-- The transaction failed. -/
def fail (t : Transaction) (now : Timestamp) : Except LedgerError Transaction := t.moveTo .failed now

/-- Whether the transaction holds its key. A failed one releases it. -/
def isLive (t : Transaction) : Bool := t.state != .failed

/-- What a reversal adds to the effect of its transaction. -/
def reversedQuantity (r : Option Reversal) : Int :=
  match r with
  | some r => if r.state = .committed then r.quantity else 0
  | none => 0

/-- What the transaction and its reversal add to the balance. -/
def effect (t : Transaction) : Int :=
  if t.state = .committed then t.quantity + reversedQuantity t.reversal else 0

end Transaction

/-- A committed reversal of a transaction: the opposite quantity under a derived key. -/
def Reversal.of (t : Transaction) (stamp : Stamp) : Reversal where
  uuid := stamp.uuid
  transactionUuid := t.uuid
  key := .ofReversal t.key
  quantity := -t.quantity
  state := .committed
  metadata := []
  created := stamp.now
  modified := stamp.now

/-! ## Stored form -/

/-- A UUID in JSON. -/
def Uuid.toJson (u : Uuid) : Json := .string u.toString

/-- An optional UUID in JSON. -/
def Uuid.optionToJson : Option Uuid → Json
  | some u => u.toJson
  | none => .null

/-- An optional integer in JSON. -/
def intOptionToJson : Option Int → Json
  | some n => .int n
  | none => .null

/-- A reversal in JSON. -/
def Reversal.toJson (r : Reversal) : Json :=
  .object
    [("uuid", r.uuid.toJson), ("transaction_uuid", r.transactionUuid.toJson),
     ("idempotency_key", .string r.key.text), ("quantity", .int r.quantity),
     ("state", .string r.state.toText), ("metadata", .object r.metadata),
     ("created", .string r.created.toString), ("modified", .string r.modified.toString)]

/-- A transaction in JSON. -/
def Transaction.toJson (t : Transaction) : Json :=
  .object
    [("uuid", t.uuid.toJson), ("idempotency_key", .string t.key.text),
     ("ledger_uuid", t.ledgerUuid.toJson), ("lms_user_id", intOptionToJson t.learner),
     ("content_key", .ofOptionString t.contentKey),
     ("subsidy_access_policy_uuid", Uuid.optionToJson t.policyUuid),
     ("unit", .string t.unit.toText), ("quantity", .int t.quantity),
     ("state", .string t.state.toText), ("reference_id", .ofOptionString t.referenceId),
     ("reference_type", .ofOptionString t.referenceType),
     ("reversal", match t.reversal with | some r => r.toJson | none => .null),
     ("metadata", .object t.metadata), ("created", .string t.created.toString),
     ("modified", .string t.modified.toString)]

open Json Json.Decoder Json.Record in
/-- The fields of a stored reversal. -/
def Reversal.record : Json.Record Reversal :=
  Reversal.mk <$> required "uuid" Decoder.uuid <*> required "transaction_uuid" Decoder.uuid
    <*> (IdempotencyKey.mk <$> required "idempotency_key" string)
    <*> required "quantity" int64 <*> required "state" TransactionState.decoder
    <*> required "metadata" object <*> required "created" timestamp
    <*> required "modified" timestamp

open Json Json.Decoder Json.Record in
/-- The fields of a stored transaction. -/
def Transaction.record : Json.Record Transaction :=
  Transaction.mk <$> required "uuid" Decoder.uuid
    <*> (IdempotencyKey.mk <$> required "idempotency_key" string)
    <*> required "ledger_uuid" Decoder.uuid <*> nullable "lms_user_id" int64
    <*> nullable "content_key" string <*> nullable "subsidy_access_policy_uuid" Decoder.uuid
    <*> required "unit" Denomination.decoder <*> required "quantity" int64
    <*> required "state" TransactionState.decoder <*> nullable "reference_id" string
    <*> nullable "reference_type" string <*> nullable "reversal" Reversal.record.decoder
    <*> required "metadata" object <*> required "created" timestamp
    <*> required "modified" timestamp

end Bursar
