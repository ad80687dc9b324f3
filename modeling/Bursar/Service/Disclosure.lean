import Bursar.Ledger.Store
import Bursar.Service.Error
import Bursar.Service.Listing
import Bursar.Service.View

/-!
# What callers get to see

Listing and fetching show a caller the same things. A transaction belongs to the
enterprise whose subsidy stands behind its ledger; a caller sees it if some grant
opens it, and a subsidy if some grant allows to read the subsidies of its
enterprise.
-/

namespace Bursar

/-- The identifier in a path. One that cannot be read names nothing that is there. -/
def identifier? (resource raw : String) : Except ServiceError Uuid :=
  match Uuid.parse? (Text.trim raw) with
  | some uuid => .ok uuid
  | none => .error (.notFound resource raw)

/-- What is there, or that it is not there. -/
def orNotFound {α : Type} (resource raw : String) : Option α → Except ServiceError α
  | some a => .ok a
  | none => .error (.notFound resource raw)

/-- A result of the ledger as one of the service. -/
def ofLedger {α : Type} : Except LedgerError α → Except ServiceError α
  | .ok a => .ok a
  | .error e => .error (.ledger e)

namespace Store

/-! ## Transactions -/

/-- The enterprise, of some subsidies, to which a ledger belongs. -/
def ownerOf (subsidies : List Subsidy) (ledger : Uuid) : Option Uuid :=
  (subsidies.find? fun x => x.ledgerUuid = ledger).map Subsidy.enterprise

/-- Whether a caller sees a transaction, of some subsidies. -/
def isVisible (p : Principal) (subsidies : List Subsidy) (t : Transaction) : Bool :=
  match ownerOf subsidies t.ledgerUuid with
  | some enterprise => (p.authorizeTransactionRead enterprise t.learner).isAllowed
  | none => false

/-- The subsidies whose transactions are listed: the one that is named, or all. -/
def listedSubsidies (s : Store) (named : Option Uuid) : Except ServiceError (List Subsidy) :=
  match named with
  | none => .ok (s.listSubsidies none)
  | some uuid => (orNotFound "Subsidy" uuid.toString (s.subsidy? uuid)).map fun x => [x]

/-- What the listed transactions are narrowed down to. -/
def narrowing (l : TransactionListing) (subsidies : List Subsidy) : TransactionQuery where
  ledgerUuid := if l.subsidy.isSome then subsidies.head?.map Subsidy.ledgerUuid else none
  learner := l.learner
  contentKey := l.contentKey

/-- The listed transactions that a caller sees. -/
def visibleTransactions (s : Store) (p : Principal) (l : TransactionListing) :
    Except ServiceError (List Transaction) := do
  let subsidies ← s.listedSubsidies l.subsidy
  return (s.listTransactions (narrowing l subsidies)).filter (isVisible p subsidies)

/-- A page of the listed transactions that a caller sees. -/
def transactionPage (s : Store) (p : Principal) (l : TransactionListing) :
    Except ServiceError (Page TransactionView) :=
  (s.visibleTransactions p l).map fun ts => Page.of (ts.map TransactionView.of) l.page

/-- A transaction and the subsidy behind its ledger. -/
def ownedTransaction (s : Store) (raw : String) : Except ServiceError (Transaction × Option Subsidy) := do
  let uuid ← identifier? "Transaction" raw
  let t ← orNotFound "Transaction" raw (s.transaction? uuid)
  return (t, s.subsidyOfLedger? t.ledgerUuid)

/-- One transaction, if the caller sees it. -/
def transactionFor (s : Store) (p : Principal) (raw : String) : Except ServiceError TransactionView := do
  match ← s.ownedTransaction raw with
  | (t, none) => .error (.internal ("Ledger " ++ t.ledgerUuid.toString ++ " has no subsidy"))
  | (t, some x) =>
    ServiceError.require (p.authorizeTransactionRead x.enterprise t.learner)
    return .of t

/-! ## Subsidies -/

/-- Whether a caller sees a subsidy. -/
def isReadable (p : Principal) (x : Subsidy) : Bool :=
  (p.authorize .readSubsidies (some x.enterprise)).isAllowed

/-- A subsidy with its balance. -/
def subsidyView (s : Store) (x : Subsidy) : Except ServiceError SubsidyView :=
  (ofLedger (s.balance x.ledgerUuid)).map (SubsidyView.of x)

/-- A page of the subsidies that a caller sees. -/
def subsidyPage (s : Store) (p : Principal) (l : SubsidyListing) :
    Except ServiceError (Page SubsidyView) := do
  let page := Page.of ((s.listSubsidies l.enterprise).filter (isReadable p)) l.page
  let views ← page.items.mapM s.subsidyView
  return page.withItems views

/-- One subsidy, if the caller sees it. -/
def subsidyFor (s : Store) (p : Principal) (raw : String) : Except ServiceError SubsidyView := do
  let uuid ← identifier? "Subsidy" raw
  let x ← orNotFound "Subsidy" raw (s.subsidy? uuid)
  ServiceError.require (p.authorize .readSubsidies (some x.enterprise))
  s.subsidyView x

end Store
end Bursar
