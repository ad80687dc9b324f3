import Bursar.Access.Capability

/-!
# Principals

A principal is who calls: perhaps a learner of the platform, with a list of
grants. It may do what some single grant allows (`Principal.authorize`). Reading
a transaction is finer: a learner's grant opens only the learner's own
(`Principal.authorizeTransactionRead`).

A principal is written `1234:admin@<enterprise>,learner@*`, the learner's number
first, if there is one (`Principal.parse`).
-/

namespace Bursar

/-- The answer to the question whether a caller may do something. -/
inductive Decision where
  | allowed
  | denied (missing : Capability)
deriving DecidableEq, Repr

namespace Decision

/-- The answer for a capability. -/
def of (isGiven : Bool) (c : Capability) : Decision := if isGiven then .allowed else .denied c

/-- Whether the answer is yes. -/
def isAllowed : Decision → Bool
  | .allowed => true
  | .denied _ => false

/-- What a caller is told who lacks a capability. -/
def missingText (c : Capability) : String := "MISSING: " ++ c.toText

/-- What a denied caller is told. -/
def detail : Decision → Option String
  | .allowed => none
  | .denied missing => some (missingText missing)

end Decision

/-- Who calls: a learner of the platform or nobody in particular, and what was granted. -/
structure Principal where
  learner : Option Int
  grants : List Grant
deriving DecidableEq, Inhabited

/-- Why a text is not a principal. -/
inductive GrantError where
  | invalidLearner (text : String)
  | unknownRole (text : String)
  | invalidScope (text : String)
  /-- There is no sign between the two halves. -/
  | malformed (text : String)
deriving DecidableEq, Repr

/-- The wording of a refused principal. -/
def GrantError.message : GrantError → String
  | .invalidLearner text => "Invalid lms_user_id: " ++ text
  | .unknownRole text => "Unknown role: " ++ text
  | .invalidScope text => "Invalid scope: " ++ text
  | .malformed text => "Grant must be written as role@scope: " ++ text

namespace Principal

/-! ## Decisions -/

/-- Whether a grant gives a capability over an enterprise customer. -/
def gives (g : Grant) (c : Capability) (enterprise : Uuid) : Bool :=
  g.role.carries c && g.scope.covers enterprise

/-- Whether some grant gives a capability over an enterprise customer. Nothing is given over none. -/
def authorize (p : Principal) (c : Capability) (enterprise : Option Uuid) : Decision :=
  match enterprise with
  | none => .denied c
  | some e => .of (p.grants.any fun g => gives g c e) c

/-- Whether a grant opens a transaction to a caller who is `own` and that belongs to `learner`. -/
def opens (own : Option Int) (g : Grant) (enterprise : Uuid) (learner : Option Int) : Bool :=
  gives g .readTransactions enterprise &&
    match g.role with
    | .learner => own.isSome && own = learner
    | .admin => true
    | .operator => true

/-- Whether some grant opens a transaction of an enterprise customer and a learner. -/
def authorizeTransactionRead (p : Principal) (enterprise : Uuid) (learner : Option Int) : Decision :=
  .of (p.grants.any fun g => opens p.learner g enterprise learner) .readTransactions

/-! ## Writing -/

/-- A grant in JSON, the role and the scope. -/
def grantJson (g : Grant) : Json := .array [.string g.role.toText, .string g.scope.toText]

/-- A principal in JSON. -/
def toJson (p : Principal) : Json :=
  .object
    [("lms_user_id", match p.learner with | some n => .int n | none => .null),
     ("grants", .array (p.grants.map grantJson))]

/-! ## Reading -/

/-- Reads a grant, a role and a scope with `@` in between. -/
def parseGrant (text : String) : Except GrantError Grant :=
  match Text.splitFirstString '@' text with
  | none => .error (.malformed text)
  | some (role, scope) =>
    match Role.parse? role with
    | none => .error (.unknownRole role)
    | some role =>
      match Scope.parse? scope with
      | none => .error (.invalidScope scope)
      | some scope => .ok ⟨role, scope⟩

/-- The pieces of a list between commas, without blanks around them; empty ones are left out. -/
def pieces (sep : Char) (text : String) : List String :=
  ((Text.splitAllString sep text).map Text.trim).filter fun piece => !piece.isEmpty

/-- Reads a learner's number; an empty one means nobody. -/
def parseLearner (text : String) : Except GrantError (Option Int) :=
  let text := Text.trim text
  if text.isEmpty then .ok none
  else
    match Text.signed64? text with
    | some n => .ok (some n)
    | none => .error (.invalidLearner text)

/-- Reads a principal. The learner's number ends at the first `:`. -/
def parse (text : String) : Except GrantError Principal := do
  let (learner, grants) ←
    match Text.splitFirstString ':' text with
    | none => .ok (none, text)
    | some (learner, grants) => (parseLearner learner).map fun learner => (learner, grants)
  let grants ← (pieces ',' grants).mapM parseGrant
  return { learner, grants }

/-- The caller where nobody has to say who they are: an operator of everything. -/
def unrestricted : Principal := { learner := none, grants := [⟨.operator, .all⟩] }

end Principal
end Bursar
