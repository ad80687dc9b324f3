import Bursar.Uuid
import Bursar.Text.Numeral
import Bursar.Json.Basic

/-!
# Enrollments

The request that has a learner enrolled in content, and how it fails. A
successful enrollment answers with a fulfillment reference.
-/

namespace Bursar

/-- A learner to be enrolled, and the pending transaction that pays for it. -/
structure EnrollmentRequest where
  enterprise : Uuid
  learner : Int
  contentKey : String
  transactionUuid : Uuid
deriving DecidableEq

/-- A request in JSON. -/
def EnrollmentRequest.toJson (r : EnrollmentRequest) : Json :=
  .object
    [("enterprise_customer_uuid", .string r.enterprise.toString), ("lms_user_id", .int r.learner),
     ("content_key", .string r.contentKey), ("transaction_uuid", .string r.transactionUuid.toString)]

/-- Why a learner was not enrolled. -/
inductive EnrollmentError where
  /-- The request did not go through. -/
  | request (reason : String)
  /-- The enrollment service refused. -/
  | rejected (reason : String)
  /-- The answer names no fulfillment. -/
  | missingReference
deriving DecidableEq, Repr

/-- The wording of a failed enrollment. -/
def EnrollmentError.message : EnrollmentError → String
  | .request reason => "Enrollment request failed: " ++ reason
  | .rejected reason => "Enrollment rejected: " ++ reason
  | .missingReference => "Enrollment response did not include a fulfillment reference"

end Bursar
