import Bursar.Enrollment
import Bursar.Remote.Catalog

/-!
# The enrollment service

How a learner is enrolled, and what the answer means. The service enrolls many
learners at once and answers with lists; here there is always one learner.
-/

namespace Bursar

/-- An enrollment service and how it is reached. -/
structure RemoteEnrollment where
  base : Url
  token : Option String

/-- What the service answers. -/
structure EnrollmentAnswer where
  /-- The fulfillment references of enrollments that went well. -/
  successes : List (Option String)
  failures : List Json

namespace EnrollmentAnswer

open Json Json.Decoder Json.Record in
/-- The fields of an enrollment that went well. -/
def successRecord : Json.Record (Option String) := optional "enterprise_fulfillment_source_uuid" string

open Json Json.Decoder Json.Record in
/-- The fields of an answer. -/
def record : Json.Record EnrollmentAnswer :=
  EnrollmentAnswer.mk <$> defaulted "successes" [] (list successRecord.decoder)
    <*> defaulted "failures" [] (list any)

/-- The reference that an answer gives. -/
def reference (a : EnrollmentAnswer) : Except EnrollmentError String :=
  match a.failures, a.successes with
  | [], some reference :: _ => .ok reference
  | [], _ => .error .missingReference
  | failures, _ => .error (.rejected (Json.array failures).compact)

end EnrollmentAnswer

namespace RemoteEnrollment

/-- The enrollment service that settings name. -/
def ofSettings (s : RemoteSettings) : Except EnrollmentError RemoteEnrollment :=
  match readBase s.enrollmentBase with
  | .ok base => .ok { base, token := s.token }
  | .error text => .error (.request text)

/-- The segments that name the enrollments of an enterprise. -/
def segments (enterprise : Uuid) : List String :=
  ["enterprise", "api", "v1", "enterprise-customer", enterprise.toString, "enroll_learners_in_courses"]

/-- The body that asks for an enrollment. -/
def body (r : EnrollmentRequest) : Json :=
  .object
    [("enrollments_info", .array
      [.object
        [("user_id", .int r.learner), ("course_run_key", .string r.contentKey),
         ("transaction_id", .string r.transactionUuid.toString)]])]

/-- The call that asks for an enrollment. -/
def call (e : RemoteEnrollment) (r : EnrollmentRequest) : Except EnrollmentError Call :=
  match endpoint e.base (segments r.enterprise) with
  | .ok url => .ok (.ofUrl "POST" url e.token (some (body r)))
  | .error text => .error (.request text)

/-- The fulfillment reference in an answer. -/
def read : Except CallFailure Http.Response → Except EnrollmentError String
  | .error failure => .error (.request failure.message)
  | .ok answer =>
    if Http.isSuccess answer.status then
      match Call.readBody EnrollmentAnswer.record.decoder answer with
      | .ok a => a.reference
      | .error failure => .error (.request ("Invalid enrollment response: " ++ failure.message))
    else .error (.request (Http.statusText answer.status ++ " " ++ answer.body))

/-- Has a learner enrolled. -/
def enroll {σ : Type} (e : RemoteEnrollment) (t : Transport σ) (r : EnrollmentRequest) (s : σ) :
    Except EnrollmentError String × σ :=
  match e.call r with
  | .error e => (.error e, s)
  | .ok call =>
    let (outcome, s) := t.send call s
    (read outcome, s)

end RemoteEnrollment

/-- The catalog and the enrollment service that settings name. -/
structure Remotes where
  catalog : RemoteCatalog
  enrollment : RemoteEnrollment

/-- Reads both bases, the catalog's first. -/
def Remotes.ofSettings (s : RemoteSettings) : Except String Remotes :=
  match RemoteCatalog.ofSettings s with
  | .error e => .error e.message
  | .ok catalog =>
    match RemoteEnrollment.ofSettings s with
    | .error e => .error e.message
    | .ok enrollment => .ok { catalog, enrollment }

end Bursar
