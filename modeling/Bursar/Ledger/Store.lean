import Bursar.Ledger.Subsidy
import Bursar.Table

/-!
# The ledger store

All subsidies, their ledgers and the transactions on them. Transactions are only
ever appended; the one later change is that a reversal is attached.

A ledger keeps the list of its own transactions, from which its balance is
summed. Two more indexes stand beside the records: the order of all
transactions, and the live idempotency keys of every ledger.

Every operation that writes gives its answer and the store after it. Providing a
subsidy takes two such steps, `register` and `openLedger`: each is one undivided
change of the store, and other writers may come in between.
-/

namespace Bursar

/-- A ledger: what it counts, whether its deposit was made, and its transactions in order. -/
structure Ledger where
  unit : Denomination
  isOpen : Bool
  transactions : List Uuid
deriving DecidableEq, Inhabited

/-- The records and their indexes. -/
structure Store where
  subsidies : Table Uuid Subsidy
  subsidyOrder : List Uuid
  ledgers : Table Uuid Ledger
  transactions : Table Uuid Transaction
  transactionOrder : List Uuid
  liveKeys : Table (Uuid × IdempotencyKey) Uuid
deriving Inhabited

/-- What a listing of transactions is narrowed down to. -/
structure TransactionQuery where
  ledgerUuid : Option Uuid
  learner : Option Int
  contentKey : Option String
deriving DecidableEq, Inhabited

/-- Whether a transaction is what a query asks for. -/
def TransactionQuery.accepts (q : TransactionQuery) (t : Transaction) : Bool :=
  (match q.ledgerUuid with | none => true | some l => t.ledgerUuid = l) &&
  (match q.learner with | none => true | some u => t.learner = some u) &&
  (match q.contentKey with | none => true | some c => t.contentKey = some c)

/-- The identifiers and the time that providing a subsidy uses up. -/
structure ProvisionStamp where
  subsidy : Uuid
  ledger : Uuid
  deposit : Stamp
deriving Inhabited

namespace Store

/-- The store without records. -/
def empty : Store where
  subsidies := .empty
  subsidyOrder := []
  ledgers := .empty
  transactions := .empty
  transactionOrder := []
  liveKeys := .empty

/-! ## Looking up -/

/-- A subsidy by its identifier. -/
def subsidy? (s : Store) (uuid : Uuid) : Option Subsidy := s.subsidies.get? uuid

/-- The subsidy that a ledger stands behind. -/
def subsidyOfLedger? (s : Store) (ledger : Uuid) : Option Subsidy :=
  s.subsidies.values.find? fun x => x.ledgerUuid = ledger

/-- The subsidies in the order in which they came, of one enterprise if one is given. -/
def listSubsidies (s : Store) (enterprise : Option Uuid) : List Subsidy :=
  (s.subsidyOrder.filterMap s.subsidies.get?).filter fun x =>
    match enterprise with
    | none => true
    | some e => x.enterprise = e

/-- A transaction by its identifier. -/
def transaction? (s : Store) (uuid : Uuid) : Option Transaction := s.transactions.get? uuid

/-- The transactions that a query asks for, in the order in which they were appended. -/
def listTransactions (s : Store) (q : TransactionQuery) : List Transaction :=
  (s.transactionOrder.filterMap s.transactions.get?).filter q.accepts

/-- The number of transactions of all ledgers. -/
def transactionCount (s : Store) : Nat := s.transactions.size

/-- The live transaction of a ledger that holds a key. -/
def findByKey (s : Store) (ledger : Uuid) (key : IdempotencyKey) : Option Transaction :=
  (s.liveKeys.get? (ledger, key)).bind s.transactions.get?

/-- The refusal of a ledger that is not there. -/
def noLedger (uuid : Uuid) : LedgerError := .notFound ("Ledger " ++ uuid.toString)

/-- The refusal of a transaction that is not there. -/
def noTransaction (uuid : Uuid) : LedgerError := .notFound ("Transaction " ++ uuid.toString)

/-- The refusal of a subsidy that is not there. -/
def noSubsidy (uuid : Uuid) : LedgerError := .notFound ("Subsidy " ++ uuid.toString)

/-- The sum of the effects of a ledger's transactions. -/
def balance (s : Store) (ledger : Uuid) : Except LedgerError Int :=
  match s.ledgers.get? ledger with
  | none => .error (noLedger ledger)
  | some l =>
    .ok (((l.transactions.filterMap s.transactions.get?).map Transaction.effect).foldr (· + ·) 0)

/-- Refuses a debit that the balance does not cover. -/
def checkSufficient (s : Store) (ledger : Uuid) (quantity : Int) : Except LedgerError Unit := do
  let balance ← s.balance ledger
  if quantity < 0 ∧ balance + quantity < 0 then .error (.insufficientBalance balance quantity)
  else .ok ()

/-! ## Writing -/

/-- Records a transaction under its key, which must not be taken on its ledger. -/
def record (s : Store) (t : Transaction) : Except LedgerError Transaction × Store :=
  if s.liveKeys.contains (t.ledgerUuid, t.key) then (.error (.duplicateKey t.key.text), s)
  else
    match s.ledgers.get? t.ledgerUuid with
    | none => (.error (noLedger t.ledgerUuid), s)
    | some l =>
      (.ok t,
        { s with
          ledgers := s.ledgers.insert t.ledgerUuid { l with transactions := l.transactions ++ [t.uuid] }
          liveKeys := if t.isLive then s.liveKeys.insert (t.ledgerUuid, t.key) t.uuid else s.liveKeys
          transactionOrder := s.transactionOrder ++ [t.uuid]
          transactions := s.transactions.insert t.uuid t })

/-- The refusal of a deposit below zero. -/
def checkStartingBalance (balance : Int) : Except LedgerError Unit :=
  if balance < 0 then
    .error (.validation ("starting_balance must not be negative, got " ++ Text.ofInt balance))
  else .ok ()

/-- The subsidy that a request names, with identifiers of its own where the request has none. -/
def subsidyOf (new : NewSubsidy) (stamp : ProvisionStamp) : Subsidy where
  uuid := new.uuid.getD stamp.subsidy
  title := new.title
  enterprise := new.enterprise
  active := new.active
  expiration := new.expiration
  unit := new.unit
  referenceId := new.referenceId
  referenceType := new.referenceType
  ledgerUuid := stamp.ledger

/-- What is checked of a request for a subsidy before the store is looked at. -/
def checkNew (new : NewSubsidy) : Except LedgerError Unit := do
  checkStartingBalance new.startingBalance
  if new.expiration.isAtMost new.active then
    .error (.validation "expiration_datetime must be after active_datetime")
  else .ok ()

/-- Enters a subsidy and its ledger, which is not open yet. -/
def register (s : Store) (x : Subsidy) : Except LedgerError Unit × Store :=
  if s.subsidies.contains x.uuid then (.error (.alreadyExists ("Subsidy " ++ x.uuid.toString)), s)
  else
    (.ok (),
      { s with
        ledgers := s.ledgers.insert x.ledgerUuid { unit := x.unit, isOpen := false, transactions := [] }
        subsidyOrder := s.subsidyOrder ++ [x.uuid]
        subsidies := s.subsidies.insert x.uuid x })

/-- The committed transaction that opens a ledger. -/
def deposit (x : Subsidy) (balance : Int) (stamp : Stamp) : Except LedgerError Transaction :=
  (Transaction.pending stamp x.ledgerUuid x.unit (.ofDeposit x.ledgerUuid) balance).commit
    none none stamp.now

/-- Opens the ledger of a subsidy with a deposit. -/
def openLedger (s : Store) (subsidy : Uuid) (balance : Int) (stamp : Stamp) :
    Except LedgerError Transaction × Store :=
  match checkStartingBalance balance with
  | .error e => (.error e, s)
  | .ok () =>
    match s.subsidies.get? subsidy with
    | none => (.error (noSubsidy subsidy), s)
    | some x =>
      match s.ledgers.get? x.ledgerUuid with
      | none => (.error (noLedger x.ledgerUuid), s)
      | some l =>
        if l.isOpen then
          (.error (.alreadyExists ("Ledger " ++ x.ledgerUuid.toString ++ " is already initialized")), s)
        else
          let s := { s with ledgers := s.ledgers.insert x.ledgerUuid { l with isOpen := true } }
          match deposit x balance stamp with
          | .error e => (.error e, s)
          | .ok t => s.record t

/-- Provides a subsidy: enters it, then opens its ledger. -/
def createSubsidy (s : Store) (new : NewSubsidy) (stamp : ProvisionStamp) :
    Except LedgerError Subsidy × Store :=
  let x := subsidyOf new stamp
  match checkNew new with
  | .error e => (.error e, s)
  | .ok () =>
    match s.register x with
    | (.error e, s) => (.error e, s)
    | (.ok (), s) =>
      match s.openLedger x.uuid new.startingBalance stamp.deposit with
      | (.error e, s) => (.error e, s)
      | (.ok _, s) => (.ok x, s)

/-- What is checked of a transaction before the store is looked at. -/
def checkAppended (t : Transaction) : Except LedgerError Unit :=
  if t.state ≠ .committed then
    .error (.validation ("Only committed transactions can be appended, got " ++ t.state.toText))
  else if t.key.isEmpty then .error (.validation "idempotency_key must not be empty")
  else .ok ()

/-- Refuses a transaction that its ledger cannot take. -/
def checkFits (s : Store) (t : Transaction) : Except LedgerError Unit :=
  match s.ledgers.get? t.ledgerUuid with
  | none => .error (noLedger t.ledgerUuid)
  | some l =>
    if l.unit ≠ t.unit then .error (.unitMismatch l.unit t.unit)
    else s.checkSufficient t.ledgerUuid t.quantity

/-- Appends a committed transaction to its ledger, if the balance covers it. -/
def append (s : Store) (t : Transaction) : Except LedgerError Transaction × Store :=
  match checkAppended t with
  | .error e => (.error e, s)
  | .ok () =>
    match s.checkFits t with
    | .error e => (.error e, s)
    | .ok () => s.record t

/-- The transaction with a reversal attached. -/
def withReversal (t : Transaction) (stamp : Stamp) : Transaction :=
  { t with reversal := some (.of t stamp), modified := stamp.now }

/-- Reverses a committed transaction that was not reversed before, if the balance covers it. -/
def reverse (s : Store) (uuid : Uuid) (stamp : Stamp) : Except LedgerError Transaction × Store :=
  match s.transactions.get? uuid with
  | none => (.error (noTransaction uuid), s)
  | some t =>
    if t.state ≠ .committed then
      (.error (.validation ("Only committed transactions can be reversed, got " ++ t.state.toText)), s)
    else if t.reversal.isSome then
      (.error (.alreadyExists ("Reversal for transaction " ++ uuid.toString)), s)
    else
      match s.checkSufficient t.ledgerUuid (-t.quantity) with
      | .error e => (.error e, s)
      | .ok () =>
        let reversed := withReversal t stamp
        (.ok reversed, { s with transactions := s.transactions.insert uuid reversed })

end Store
end Bursar
