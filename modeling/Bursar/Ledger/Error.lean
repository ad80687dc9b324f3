import Bursar.Denomination

/-!
# Refusals of the ledger

Why the ledger does not do what was asked, and the wording of each cause.
-/

namespace Bursar

/-- Why the ledger refuses. -/
inductive LedgerError where
  /-- The named object is not there. -/
  | notFound (object : String)
  /-- The named object is there already. -/
  | alreadyExists (object : String)
  /-- The idempotency key belongs to another live transaction of the ledger. -/
  | duplicateKey (key : String)
  /-- A transaction in one state cannot go to the other. -/
  | invalidTransition (source target : String)
  /-- The balance does not cover the debit. -/
  | insufficientBalance (balance quantity : Int)
  /-- The transaction counts something else than its ledger. -/
  | unitMismatch (expected actual : Denomination)
  /-- The request contradicts a rule. -/
  | validation (reason : String)
  /-- The records cannot be reached. -/
  | storage (reason : String)
deriving DecidableEq, Repr

/-- The wording of a refusal. -/
def LedgerError.message : LedgerError → String
  | .notFound object => "Object not found: " ++ object
  | .alreadyExists object => "Object already exists: " ++ object
  | .duplicateKey key => "Idempotency key already in use: " ++ key
  | .invalidTransition source target => "Invalid state transition: " ++ source ++ " -> " ++ target
  | .insufficientBalance balance quantity =>
    "Insufficient balance: current balance " ++ Text.ofInt balance ++ ", requested quantity " ++
      Text.ofInt quantity
  | .unitMismatch expected actual =>
    "Unit mismatch: ledger uses " ++ expected.toText ++ ", transaction uses " ++ actual.toText
  | .validation reason => "Validation error: " ++ reason
  | .storage reason => "Storage error: " ++ reason

end Bursar
