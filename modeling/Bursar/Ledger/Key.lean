import Bursar.Sha256
import Bursar.Text.Blank
import Bursar.Text.Numeral
import Bursar.Text.Utf8
import Bursar.Uuid

/-!
# Idempotency keys

A key guards one write to a ledger: a request that is sent twice finds the
transaction of the first one. A caller may choose the key; otherwise it is
derived from what the enrollment is (`IdempotencyKey.ofEnrollment`), so that equal
enrollments have equal keys.
-/

namespace Bursar

/-- The key of one write to a ledger. -/
structure IdempotencyKey where
  text : String
deriving DecidableEq, Repr, Inhabited

namespace IdempotencyKey

/-- The key of the deposit that opens a ledger. -/
def ofDeposit (ledger : Uuid) : IdempotencyKey := ⟨ledger.toString ++ "-initial-deposit"⟩

/-- A signed 64-bit integer as eight octets, the most significant first. -/
def octetsOfInt (n : Int) : List UInt8 := Sha256.bigEndian 8 (n % Nat.pow 2 64).toNat

/-- The octets that identify an enrollment: subsidy, learner, content and policy, one after the other. -/
def enrollmentOctets (subsidy : Uuid) (learner : Int) (content : String) (policy : Uuid) : List UInt8 :=
  subsidy.octets ++ octetsOfInt learner ++ Text.octetsOf content ++ policy.octets

/-- The derived key of an enrollment: the ledger and the digest of what identifies the enrollment. -/
def ofEnrollment (ledger subsidy : Uuid) (learner : Int) (content : String) (policy : Uuid) :
    IdempotencyKey :=
  ⟨ledger.toString ++ "-" ++
    String.ofList (Text.hexOfOctets (Sha256.digest (enrollmentOctets subsidy learner content policy)))⟩

/-- The key of the reversal of a transaction with the given key. -/
def ofReversal (key : IdempotencyKey) : IdempotencyKey := ⟨key.text ++ "-reversal"⟩

/-- Whether a key is blank. A blank key stands for no key. -/
def isEmpty (key : IdempotencyKey) : Bool := Text.isBlankText key.text

end IdempotencyKey
end Bursar
