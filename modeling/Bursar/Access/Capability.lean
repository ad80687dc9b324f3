import Bursar.Json.Decode
import Bursar.Text.Split

/-!
# Capabilities, roles and scopes

An operation asks for one capability over one enterprise customer. A role is a
set of capabilities, a scope a set of enterprise customers, and a grant is a role
within a scope.
-/

namespace Bursar

/-- What an operation asks for. -/
inductive Capability where
  | readSubsidies
  | readTransactions
  | createTransactions
  | readMetadata
deriving DecidableEq, Repr, Inhabited

/-- The written name. -/
def Capability.toText : Capability → String
  | .readSubsidies => "subsidy.can_read_subsidies"
  | .readTransactions => "subsidy.can_read_transactions"
  | .createTransactions => "subsidy.can_create_transactions"
  | .readMetadata => "subsidy.can_read_metadata"

/-- A set of capabilities with a name. -/
inductive Role where
  | learner
  | admin
  | operator
deriving DecidableEq, Repr, Inhabited

namespace Role

/-- The written name. -/
def toText : Role → String
  | .learner => "learner"
  | .admin => "admin"
  | .operator => "operator"

/-- All roles with their names. -/
def names : List (String × Role) :=
  [("learner", .learner), ("admin", .admin), ("operator", .operator)]

/-- The role of a name in any letter case, with blanks around it. No letter outside ASCII has one of
the names' letters as its lower case, so ASCII letters are all that matters. -/
def parse? (s : String) : Option Role := names.lookup (Text.lowerAscii (Text.trim s))

/-- Reads a role. -/
def decoder : Json.Decoder Role := Json.Decoder.name names

/-- What a role may do. -/
def capabilities : Role → List Capability
  | .learner => [.readTransactions]
  | .admin => [.readSubsidies, .readTransactions, .readMetadata]
  | .operator => [.readSubsidies, .readTransactions, .createTransactions, .readMetadata]

/-- Whether a role may do something. -/
def carries (r : Role) (c : Capability) : Bool := r.capabilities.contains c

end Role

/-- The enterprise customers that a grant is about. -/
inductive Scope where
  | all
  | enterprise (uuid : Uuid)
deriving DecidableEq

namespace Scope

/-- Whether a scope holds an enterprise customer. -/
def covers (s : Scope) (enterprise : Uuid) : Bool :=
  match s with
  | .all => true
  | .enterprise uuid => uuid = enterprise

/-- The written form: `*` for all. -/
def toText : Scope → String
  | .all => "*"
  | .enterprise uuid => uuid.toString

/-- The scope that a text names, with blanks around it. -/
def parse? (s : String) : Option Scope :=
  let s := Text.trim s
  if s = "*" then some .all else (Uuid.parse? s).map .enterprise

end Scope

/-- A role within a scope. -/
structure Grant where
  role : Role
  scope : Scope
deriving DecidableEq

end Bursar
