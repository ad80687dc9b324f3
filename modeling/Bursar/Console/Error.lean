import Bursar.Console.Grammar
import Bursar.Ledger.Error

/-!
# Failures on the command line

Why a command fails, what is said about it, and the exit code of the program.
-/

namespace Bursar.Console

/-- Why a command fails. -/
inductive ConsoleError where
  | configuration (reason : String)
  | invalidArgument (reason : String)
  | connection (reason : String)
  /-- The service refused the request. -/
  | refused (status : Nat) (reason : String)
  | file (reason : String)
  | json (reason : String)
  /-- The request was not answered, or not in a way that can be read. -/
  | transport (reason : String)
  | ledger (error : LedgerError)
  | server (reason : String)
  | usage (error : UsageError)
deriving DecidableEq, Repr

namespace ConsoleError

/-- The wording of a failure. -/
def message : ConsoleError → String
  | .configuration reason => "Configuration error: " ++ reason
  | .invalidArgument reason => "Invalid argument: " ++ reason
  | .connection reason => "API connection error: " ++ reason
  | .refused status reason => "API request failed: " ++ Text.ofNat status ++ " - " ++ reason
  | .file reason => "File I/O error: " ++ reason
  | .json reason => "JSON error: " ++ reason
  | .transport reason => "HTTP error: " ++ reason
  | .ledger e => "Ledger error: " ++ e.message
  | .server reason => "Server error: " ++ reason
  | .usage e => e.message

/-- The exit code of the program. -/
def exitCode : ConsoleError → Nat
  | .configuration _ => 1
  | .invalidArgument _ => 2
  | .connection _ => 3
  | .refused _ _ => 4
  | .file _ => 5
  | .json _ => 6
  | .transport _ => 7
  | .ledger _ => 10
  | .server _ => 30
  | .usage e => e.exitCode

end ConsoleError
end Bursar.Console
