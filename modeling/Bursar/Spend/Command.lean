import Bursar.Catalog.Error
import Bursar.Enrollment
import Bursar.Ledger.Store

/-!
# Spending a subsidy

The command to pay for one learner's enrollment out of a subsidy, what comes of
it, and how it fails.
-/

namespace Bursar

/-- Pay for a learner's enrollment in content, under a policy, out of a subsidy. -/
structure SpendCommand where
  subsidy : Uuid
  learner : Int
  contentKey : String
  policy : Uuid
  /-- The caller's own key. -/
  key : Option IdempotencyKey
deriving DecidableEq

/-- The caller's key unless it is blank, otherwise the key derived from the enrollment. -/
def SpendCommand.resolveKey (c : SpendCommand) (ledger : Uuid) : IdempotencyKey :=
  let derived := IdempotencyKey.ofEnrollment ledger c.subsidy c.learner c.contentKey c.policy
  match c.key with
  | some key => if key.isEmpty then derived else key
  | none => derived

/-- What a spend that succeeds comes to. -/
inductive SpendOutcome where
  /-- A new transaction was recorded. -/
  | created (transaction : Transaction)
  /-- The key was held already, by this transaction. -/
  | existing (transaction : Transaction)
deriving Inhabited

/-- Whether the transaction is new. -/
def SpendOutcome.isNew : SpendOutcome → Bool
  | .created _ => true
  | .existing _ => false

/-- The transaction, new or not. -/
def SpendOutcome.transaction : SpendOutcome → Transaction
  | .created t => t
  | .existing t => t

/-- Why a spend or a reversal fails. -/
inductive SpendError where
  | ledger (error : LedgerError)
  | pricing (error : CatalogError)
  | enrollment (error : EnrollmentError)
  /-- A collaborator broke down in the middle. -/
  | aborted (detail : String)
deriving DecidableEq, Repr

/-- The wording of a failed spend. -/
def SpendError.message : SpendError → String
  | .ledger e => e.message
  | .pricing e => e.relayed
  | .enrollment e => e.message
  | .aborted detail => "Transaction workflow aborted: " ++ detail

end Bursar
