import Bursar.Console.Run
import Bursar.Console.Usage
import Bursar.Network.Server

/-!
# The program

One command starts the service; the others ask a running one and print what it
answers. A failure is told on the error stream, and gives the exit code.
-/

namespace Bursar.Console

/-- The variables of the environment that mean something. -/
def variableNames : List String :=
  ["SUBSIDY_API_URL", "SUBSIDY_TOKEN", "SUBSIDY_API_HOST", "SUBSIDY_API_PORT", "SUBSIDY_SEED_FILE",
   "SUBSIDY_LISTEN_ADDR", "SUBSIDY_ENABLE_CORS", "SUBSIDY_METADATA_CACHE_TTL_SECS", "SUBSIDY_AUTH_ENABLED",
   "SUBSIDY_API_TOKENS", "SUBSIDY_CATALOG_URL", "SUBSIDY_LMS_URL", "SUBSIDY_CLIENT_TIMEOUT_SECS",
   "SUBSIDY_CLIENT_ACCESS_TOKEN", "SUBSIDY_METRICS_ENABLED", "SUBSIDY_METRICS_PORT"]

/-- The variables that are set. -/
def readVariables : IO Variables := do
  let found ← variableNames.filterMapM fun name => do
    let value ← IO.getEnv name
    return value.map fun value => (name, value)
  return fun name => found.lookup name

/-- What a file holds, if it can be read. -/
def readFile (path : String) : IO (Option String) := do
  try
    let text ← IO.FS.readFile path
    return some text
  catch _ => return none

/-- Starts the service, which then runs until it is stopped from outside. -/
def start (v : Variables) (host : Option String) (port : Option Nat) (seedFile : Option String) :
    IO (Except ConsoleError String) := do
  let seed ← seedFile.mapM readFile
  let round := Round.start (← Network.freshSeed) (← Network.now)
  match launch v host port round.now (fun place => round.provisionStamp (3 * place)) seed with
  | .error e => return .error e
  | .ok launched =>
    try
      let running ← Network.Running.ofLaunch launched (RemoteSettings.ofVariables v).timeoutSeconds
      running.serve launched.counters
      return .ok ""
    catch e => return .error (.server ("Server error: " ++ toString e))

/-- Asks a running service. -/
def ask (a : Arguments) : IO (Except ConsoleError String) := do
  match Exchange.ofArguments a with
  | .error e => return .error e
  | .ok exchange =>
    let outcome ← Network.carry RemoteSettings.standard.timeoutSeconds exchange.call
    return exchange.finish outcome

/-- Carries out what is asked for; gives the text to print. -/
def carryOut (v : Variables) (a : Arguments) : IO (Except ConsoleError String) :=
  match a.command with
  | .start host port seedFile => start v host port seedFile
  | _ => ask a

/-- Reads the command line and carries it out. -/
def runProgram (words : List String) : IO UInt32 := do
  let v ← readVariables
  match Arguments.parse v words with
  | .error .help =>
    IO.println (helpText grammar)
    return 0
  | .error .version =>
    IO.println versionText
    return 0
  | .error e =>
    IO.eprintln ("error: " ++ e.message ++ "\n\n" ++ helpText grammar)
    return UInt32.ofNat e.exitCode
  | .ok arguments =>
    match ← carryOut v arguments with
    | .ok text =>
      IO.print text
      return 0
    | .error e =>
      IO.eprintln ("Error: " ++ e.message)
      return UInt32.ofNat e.exitCode

end Bursar.Console

def main (words : List String) : IO UInt32 := Bursar.Console.runProgram words
