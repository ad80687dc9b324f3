import Bursar.Access.Credentials

/-!
# Settings

What is set from outside, by variables of the environment. A variable that is
not set, or a number that cannot be read, leaves the standard value. A switch is
off only if its variable says `false`, in any letter case, or `0`.
-/

namespace Bursar

/-- The values of the variables that are set. -/
abbrev Variables := String → Option String

namespace Variables

/-- Whether a switch is on. No letter outside ASCII has a letter of `false` as its lower case. -/
def isOn (v : Variables) (name : String) : Bool :=
  match v name with
  | some value => Text.lowerAscii value ≠ "false" && value ≠ "0"
  | none => true

/-- The number that a variable holds. -/
def number (v : Variables) (name : String) (read : String → Option Nat) (standard : Nat) : Nat :=
  ((v name).bind read).getD standard

end Variables

/-- The version of the service. -/
def version : String := "0.1.0"

/-- How the service is set up. -/
structure ServiceSettings where
  name : String
  version : String
  listenAddress : String
  /-- Whether pages of any origin may use the service. -/
  sharesOrigins : Bool
  /-- How many octets the body of a request may have. -/
  maxBodySize : Nat
  /-- How many seconds metadata is kept. -/
  metadataSeconds : Nat
deriving DecidableEq, Repr

namespace ServiceSettings

/-- The set-up if nothing is said. -/
def standard : ServiceSettings where
  name := "subsidy-api"
  version := Bursar.version
  listenAddress := "0.0.0.0:8000"
  sharesOrigins := true
  maxBodySize := 1048576
  metadataSeconds := 300

/-- The set-up that the variables say. -/
def ofVariables (v : Variables) : ServiceSettings :=
  { standard with
    listenAddress := (v "SUBSIDY_LISTEN_ADDR").getD standard.listenAddress
    sharesOrigins := v.isOn "SUBSIDY_ENABLE_CORS"
    metadataSeconds :=
      v.number "SUBSIDY_METADATA_CACHE_TTL_SECS" Text.unsigned64? standard.metadataSeconds }

end ServiceSettings

/-- The credentials that the variables say. -/
def Credentials.ofVariables (v : Variables) : Except GrantError Credentials :=
  match v "SUBSIDY_API_TOKENS" with
  | some text =>
    (parseTokens text).map fun tokens =>
      { Credentials.standard with enabled := v.isOn "SUBSIDY_AUTH_ENABLED", tokens }
  | none => .ok { Credentials.standard with enabled := v.isOn "SUBSIDY_AUTH_ENABLED" }

/-- How the services that the service itself calls are reached. -/
structure RemoteSettings where
  catalogBase : String
  enrollmentBase : String
  timeoutSeconds : Nat
  token : Option String
deriving DecidableEq, Repr

namespace RemoteSettings

/-- The set-up if nothing is said. -/
def standard : RemoteSettings where
  catalogBase := "http://localhost:18160"
  enrollmentBase := "http://localhost:18000"
  timeoutSeconds := 30
  token := none

/-- The set-up that the variables say. An empty token is none. -/
def ofVariables (v : Variables) : RemoteSettings where
  catalogBase := (v "SUBSIDY_CATALOG_URL").getD standard.catalogBase
  enrollmentBase := (v "SUBSIDY_LMS_URL").getD standard.enrollmentBase
  timeoutSeconds := v.number "SUBSIDY_CLIENT_TIMEOUT_SECS" Text.unsigned64? standard.timeoutSeconds
  token := (v "SUBSIDY_CLIENT_ACCESS_TOKEN").filter fun token => !token.isEmpty

end RemoteSettings

/-- Whether and where the counters are published. -/
structure CounterSettings where
  enabled : Bool
  port : Nat
deriving DecidableEq, Repr

/-- The set-up that the variables say. -/
def CounterSettings.ofVariables (v : Variables) : CounterSettings where
  enabled := v.isOn "SUBSIDY_METRICS_ENABLED"
  port := v.number "SUBSIDY_METRICS_PORT" Text.unsigned16? 9090

/-! ## Showing settings -/

/-- The set-up of the service in JSON. -/
def ServiceSettings.toJson (s : ServiceSettings) : Json :=
  .object
    [("service_name", .string s.name), ("version", .string s.version),
     ("listen_addr", .string s.listenAddress), ("enable_cors", .bool s.sharesOrigins),
     ("max_body_size", .nat s.maxBodySize), ("metadata_cache_ttl_secs", .nat s.metadataSeconds)]

/-- The credentials in JSON. -/
def Credentials.toJson (c : Credentials) : Json :=
  .object
    [("enabled", .bool c.enabled), ("tokens", c.tokens.toJson),
     ("public_paths", .array (c.publicPaths.map .string))]

/-- How other services are reached, in JSON. -/
def RemoteSettings.toJson (s : RemoteSettings) : Json :=
  .object
    [("catalog", .string s.catalogBase), ("lms", .string s.enrollmentBase),
     ("timeout_secs", .nat s.timeoutSeconds), ("access_token", .ofOptionString s.token)]

/-- Whether and where the counters are published, in JSON. -/
def CounterSettings.toJson (s : CounterSettings) : Json :=
  .object [("enabled", .bool s.enabled), ("port", .nat s.port)]

end Bursar
