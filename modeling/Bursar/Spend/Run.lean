import Bursar.Decimal.Reading
import Bursar.Ledger.Debit
import Bursar.Spend.Command
import Bursar.Spend.Locks
import Bursar.Text.Quoted

/-!
# The course of a spend

A spend goes through stations: it finds the subsidy, gets the subsidy's lock,
looks for a transaction that holds its key, has the content priced, checks that
the balance covers the debit, has the learner enrolled, and records the
transaction. It holds the lock from the third station to the end. A reversal
finds the transaction and its subsidy, gets the same lock and reverses.

`SpendRun.step` is one undivided step of a spend on the shared store and locks,
`ReverseRun.step` one of a reversal. Between two steps anything else may happen;
a step that has to wait for a lock is `none`.
-/

namespace Bursar

/-- What all tasks share. -/
structure Shared where
  store : Store
  locks : Locks
deriving Inhabited

/-- What a step of a run gets from outside. -/
inductive StepInput where
  /-- Nothing but a stamp for a record that the step may write. -/
  | proceed (stamp : Stamp)
  /-- The answer to the question for the price. -/
  | priced (answer : Except CatalogError String)
  /-- The answer to the request for the enrollment, and the time. -/
  | enrolled (answer : Except EnrollmentError String) (now : Timestamp)
  /-- The collaborator that was asked broke down. -/
  | crashed (detail : String)

/-- Where a spend stands: what it does next. -/
inductive SpendRun where
  /-- Find the subsidy. -/
  | arrived (c : SpendCommand)
  /-- Fetch the lock of the subsidy. -/
  | located (c : SpendCommand) (x : Subsidy)
  /-- Take the lock. -/
  | waiting (c : SpendCommand) (x : Subsidy) (lock : Nat)
  /-- Look for a transaction that holds the key. -/
  | checking (c : SpendCommand) (x : Subsidy) (lock : Nat)
  /-- Hear the price. -/
  | pricing (c : SpendCommand) (x : Subsidy) (lock : Nat) (key : IdempotencyKey)
  /-- Hold the debit against the balance. -/
  | weighing (c : SpendCommand) (x : Subsidy) (lock : Nat) (key : IdempotencyKey) (quantity : Int)
  /-- Hear whether the learner is enrolled. -/
  | enrolling (c : SpendCommand) (x : Subsidy) (lock : Nat) (pending : Transaction)
  /-- Record the transaction. -/
  | recording (lock : Nat) (committed : Transaction)
  | finished (result : Except SpendError SpendOutcome)

namespace SpendRun

/-- What a spend came to, if it is over. -/
def result? : SpendRun → Option (Except SpendError SpendOutcome)
  | .finished result => some result
  | _ => none

/-- The end of a run that holds a lock. -/
def finish (s : Shared) (lock : Nat) (result : Except SpendError SpendOutcome) : Shared × SpendRun :=
  ({ s with locks := s.locks.release lock }, .finished result)

/-- The debit of a price given as text, blanks around it ignored. -/
def debitOfText (unit : Denomination) (price : String) : Except SpendError Int :=
  match Decimal.parse (Text.trim price) with
  | .error e =>
    .error (.pricing (.decode ("invalid price " ++ Text.quoted price ++ ": " ++ e.message)))
  | .ok p =>
    match unit.debit p with
    | .error e => .error (.ledger e)
    | .ok quantity => .ok quantity

/-- The transaction that is to pay, while the learner is not enrolled yet. -/
def pendingTransaction (c : SpendCommand) (x : Subsidy) (key : IdempotencyKey) (quantity : Int)
    (stamp : Stamp) : Transaction :=
  (Transaction.pending stamp x.ledgerUuid x.unit key quantity).forLearner c.learner c.contentKey c.policy

/-- What the enrollment service is asked for. -/
def enrollmentRequest (c : SpendCommand) (x : Subsidy) (pending : Transaction) : EnrollmentRequest where
  enterprise := x.enterprise
  learner := c.learner
  contentKey := c.contentKey
  transactionUuid := pending.uuid

/-- One step of a spend that a task makes; `none` if the input is not what it waits for, or the lock
is taken. -/
def step (task : Nat) (s : Shared) : SpendRun → StepInput → Option (Shared × SpendRun)
  | .arrived c, .proceed _ =>
    match s.store.subsidy? c.subsidy with
    | none => some (s, .finished (.error (.ledger (Store.noSubsidy c.subsidy))))
    | some x => some (s, .located c x)
  | .located c x, .proceed _ =>
    let (lock, locks) := s.locks.fetch x.uuid
    some ({ s with locks }, .waiting c x lock)
  | .waiting c x lock, .proceed _ =>
    (s.locks.acquire lock task).map fun locks => ({ s with locks }, .checking c x lock)
  | .checking c x lock, .proceed _ =>
    let key := c.resolveKey x.ledgerUuid
    match s.store.findByKey x.ledgerUuid key with
    | some t => some (finish s lock (.ok (.existing t)))
    | none => some (s, .pricing c x lock key)
  | .pricing c x lock key, .priced answer =>
    match answer with
    | .error e => some (finish s lock (.error (.pricing e)))
    | .ok price =>
      match debitOfText x.unit price with
      | .error e => some (finish s lock (.error e))
      | .ok quantity => some (s, .weighing c x lock key quantity)
  | .weighing c x lock key quantity, .proceed stamp =>
    match s.store.balance x.ledgerUuid with
    | .error e => some (finish s lock (.error (.ledger e)))
    | .ok balance =>
      if balance + quantity < 0 then
        some (finish s lock (.error (.ledger (.insufficientBalance balance quantity))))
      else some (s, .enrolling c x lock (pendingTransaction c x key quantity stamp))
  | .enrolling _ _ lock pending, .enrolled answer now =>
    match answer with
    | .error e =>
      match pending.fail now with
      | .error e => some (finish s lock (.error (.ledger e)))
      | .ok _ => some (finish s lock (.error (.enrollment e)))
    | .ok reference =>
      match pending.commit (some reference) (some enrollmentReferenceType) now with
      | .error e => some (finish s lock (.error (.ledger e)))
      | .ok committed => some (s, .recording lock committed)
  | .recording lock committed, .proceed _ =>
    match s.store.append committed with
    | (.error e, store) => some (finish { s with store } lock (.error (.ledger e)))
    | (.ok t, store) => some (finish { s with store } lock (.ok (.created t)))
  | .pricing _ _ lock _, .crashed detail => some (finish s lock (.error (.aborted detail)))
  | .enrolling _ _ lock _, .crashed detail => some (finish s lock (.error (.aborted detail)))
  | _, _ => none

end SpendRun

/-- Where a reversal stands: what it does next. -/
inductive ReverseRun where
  /-- Find the transaction. -/
  | arrived (transaction : Uuid)
  /-- Find the subsidy of the transaction's ledger. -/
  | found (transaction : Uuid) (t : Transaction)
  /-- Fetch the lock of the subsidy. -/
  | located (transaction : Uuid) (x : Subsidy)
  /-- Take the lock. -/
  | waiting (transaction : Uuid) (lock : Nat)
  /-- Reverse. -/
  | reversing (transaction : Uuid) (lock : Nat)
  | finished (result : Except SpendError Transaction)

/-- What a reversal came to, if it is over. -/
def ReverseRun.result? : ReverseRun → Option (Except SpendError Transaction)
  | .finished result => some result
  | _ => none

/-- One step of a reversal that a task makes; `none` if it is over, or the lock is taken. -/
def ReverseRun.step (task : Nat) (s : Shared) : ReverseRun → Stamp → Option (Shared × ReverseRun)
  | .arrived uuid, _ =>
    match s.store.transaction? uuid with
    | none => some (s, .finished (.error (.ledger (Store.noTransaction uuid))))
    | some t => some (s, .found uuid t)
  | .found uuid t, _ =>
    match s.store.subsidyOfLedger? t.ledgerUuid with
    | none =>
      some (s, .finished (.error (.ledger (.notFound ("Subsidy for ledger " ++ t.ledgerUuid.toString)))))
    | some x => some (s, .located uuid x)
  | .located uuid x, _ =>
    let (lock, locks) := s.locks.fetch x.uuid
    some ({ s with locks }, .waiting uuid lock)
  | .waiting uuid lock, _ =>
    (s.locks.acquire lock task).map fun locks => ({ s with locks }, .reversing uuid lock)
  | .reversing uuid lock, stamp =>
    let (result, store) := s.store.reverse uuid stamp
    let locks := s.locks.release lock
    match result with
    | .error e => some ({ store, locks }, .finished (.error (.ledger e)))
    | .ok t => some ({ store, locks }, .finished (.ok t))
  | .finished _, _ => none

end Bursar
