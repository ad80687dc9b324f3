import Bursar.Console.Error
import Bursar.Ledger.Store
import Bursar.Remote.Enrollment
import Bursar.Service.Error

/-!
# Starting the service

What is settled before the service listens: where it listens, who may call, which
subsidies are provided at once, and which other services it calls.
-/

namespace Bursar.Console

/-! ## Addresses -/

/-- The port of the service if none is given. -/
def standardPort : Nat := 8000

/-- Host and port of an address, cut at its last colon. -/
def splitAddress (address : String) : String × String :=
  match Text.splitFirst ':' address.toList.reverse with
  | some (port, host) => (String.ofList host.reverse, String.ofList port.reverse)
  | none => (address, Text.ofNat standardPort)

/-- The address to listen at: a given host or port takes the place of the configured one. -/
def listenAddress (host : Option String) (port : Option Nat) (configured : String) : String :=
  match host, port with
  | none, none => configured
  | _, _ =>
    let (configuredHost, configuredPort) := splitAddress configured
    host.getD configuredHost ++ ":" ++ (port.map Text.ofNat).getD configuredPort

/-! ## Provided subsidies -/

/-- The wording of a text that is not the wanted JSON. -/
def seedFaultText : Json.Fault → String
  | .ended => "the file ends too early"
  | .malformed => "the file breaks the grammar"
  | .shape => "the file is not a list of subsidies"

/-- Reads the subsidies in a file, given what the file holds, if it is there. -/
def readSeed (now : Timestamp) (content : Option String) : Except ConsoleError (List NewSubsidy) :=
  match content with
  | none => .error (.file "no such file")
  | some text =>
    match Json.decode (Json.Decoder.list (NewSubsidy.record now).decoder) text with
    | .ok news => .ok news
    | .error fault => .error (.json (seedFaultText fault))

/-- Provides subsidies one after the other, up to the first that is refused; gives how many there are. -/
def provide (s : Store) : List (NewSubsidy × ProvisionStamp) → Except ConsoleError Nat × Store
  | [] => (.ok 0, s)
  | (new, stamp) :: rest =>
    match s.createSubsidy new stamp with
    | (.error e, s) => (.error (.ledger e), s)
    | (.ok _, s) =>
      let (result, s) := provide s rest
      (result.map (· + 1), s)

/-! ## Starting -/

/-- A service that is ready to listen. -/
structure Launch where
  settings : ServiceSettings
  credentials : Credentials
  counters : CounterSettings
  remotes : Remotes
  store : Store

/-- The address and the credentials that are set. -/
def launchSettings (v : Variables) (host : Option String) (port : Option Nat) :
    Except ConsoleError (ServiceSettings × Credentials) :=
  let settings := ServiceSettings.ofVariables v
  match Credentials.ofVariables v with
  | .error e => .error (.configuration ("SUBSIDY_API_TOKENS: " ++ e.message))
  | .ok credentials =>
    .ok ({ settings with listenAddress := listenAddress host port settings.listenAddress }, credentials)

/-- Subsidies with the stamps for each, given the stamp for every place in the list. -/
def stamped (stamp : Nat → ProvisionStamp) (news : List NewSubsidy) : List (NewSubsidy × ProvisionStamp) :=
  news.zipIdx.map fun (new, place) => (new, stamp place)

/-- The store that a service starts with; without a file it is empty. -/
def seededStore (now : Timestamp) (stamp : Nat → ProvisionStamp) (seed : Option (Option String)) :
    Except ConsoleError Store :=
  match seed with
  | none => .ok .empty
  | some content =>
    match readSeed now content with
    | .error e => .error e
    | .ok news =>
      match provide .empty (stamped stamp news) with
      | (.error e, _) => .error e
      | (.ok _, s) => .ok s

/-- Settles everything: the credentials first, then the subsidies, then the other services. `seed` is what
the named file holds, if a file is named. -/
def launch (v : Variables) (host : Option String) (port : Option Nat) (now : Timestamp)
    (stamp : Nat → ProvisionStamp) (seed : Option (Option String)) : Except ConsoleError Launch := do
  let (settings, credentials) ← launchSettings v host port
  let store ← seededStore now stamp seed
  let remote := RemoteSettings.ofVariables v
  match Remotes.ofSettings remote with
  | .error text => .error (.configuration (ServiceError.internal text).message)
  | .ok remotes =>
    return { settings, credentials, counters := CounterSettings.ofVariables v, remotes, store }

end Bursar.Console
