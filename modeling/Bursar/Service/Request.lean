import Bursar.Service.Error

/-!
# Requests to spend

The body that asks for an enrollment to be paid. Every field may be left out as
far as JSON is concerned, so that all missing ones can be named at once
(`SpendRequest.toCommand?`). Texts are taken without the blanks around them, and
a blank text counts as missing; the learner is an integer or the text of one.
-/

namespace Bursar

/-- The body of a request to spend, as it came. -/
structure SpendRequest where
  subsidy : Option String
  learner : Option Json
  contentKey : Option String
  policy : Option String
  key : Option String
deriving BEq, Inhabited

namespace SpendRequest

open Json Json.Decoder Json.Record in
/-- The fields of the body. -/
def record : Json.Record SpendRequest :=
  SpendRequest.mk <$> optional "subsidy_uuid" string <*> optional "learner_id" any
    <*> optional "content_key" string <*> optional "access_policy_uuid" string
    <*> optional "idempotency_key" string

/-- The body in JSON. -/
def toJson (r : SpendRequest) : Json :=
  .object
    [("subsidy_uuid", .ofOptionString r.subsidy), ("learner_id", r.learner.getD .null),
     ("content_key", .ofOptionString r.contentKey), ("access_policy_uuid", .ofOptionString r.policy),
     ("idempotency_key", .ofOptionString r.key)]

/-- The subsidy that the request names, if it names one in a spelling that can be read. -/
def subsidyUuid? (r : SpendRequest) : Option Uuid := r.subsidy.bind fun s => Uuid.parse? (Text.trim s)

/-- A text without the blanks around it; none if nothing is left. -/
def unblank (s : Option String) : Option String :=
  (s.map Text.trim).filter fun s => !s.isEmpty

/-- The learner's number, an integer of 64 bits or its numeral between blanks. -/
def learnerOf? : Json → Option Int
  | .number (.int n) => Text.within64 n
  | .string s => Text.signed64? (Text.trim s)
  | _ => none

/-- The names of fields that are missing, out of fields and whether each is missing. -/
def missing (fields : List (String × Bool)) : List String :=
  (fields.filter (·.2)).map (·.1)

/-- The complaint about a learner that is no integer. -/
def learnerComplaint : String := "A valid integer is required."

/-- The command that the request gives for a subsidy. Missing fields are looked for first, then the
learner is read, then the policy. -/
def toCommand? (r : SpendRequest) (subsidy : Uuid) : Except ServiceError SpendCommand :=
  match r.learner.filter fun j => !j.isNull, unblank r.contentKey, unblank r.policy with
  | some learner, some contentKey, some policy =>
    match learnerOf? learner with
    | none => .error (.wrongField "learner_id" learnerComplaint)
    | some learner =>
      match Uuid.parse? policy with
      | none => .error (.validation (policy ++ " is not a valid access_policy_uuid"))
      | some policy =>
        .ok { subsidy, learner, contentKey, policy, key := (unblank r.key).map IdempotencyKey.mk }
  | learner, contentKey, policy =>
    .error (.missingFields (missing
      [("learner_id", learner.isNone), ("content_key", contentKey.isNone),
       ("access_policy_uuid", policy.isNone)]))

end SpendRequest
end Bursar
