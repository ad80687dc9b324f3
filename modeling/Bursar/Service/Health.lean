import Bursar.Json.Decode

/-!
# Health

What the service tells about itself: how each of its components is, and from
that how it is as a whole. It is healthy if all components are, unhealthy if one
is, and degraded otherwise.
-/

namespace Bursar

/-- How a component, or the whole service, is. -/
inductive HealthStatus where
  | healthy
  | degraded
  | unhealthy
deriving DecidableEq, Repr

/-- The written name. -/
def HealthStatus.toText : HealthStatus → String
  | .healthy => "healthy"
  | .degraded => "degraded"
  | .unhealthy => "unhealthy"

/-- How one component is, and why. -/
structure ComponentHealth where
  name : String
  status : String
  reason : Option String
deriving DecidableEq, Repr

namespace ComponentHealth

/-- A component with nothing to say. -/
def healthy (name : String) : ComponentHealth :=
  { name, status := HealthStatus.healthy.toText, reason := none }

/-- A component that still works, and what is wrong with it. -/
def degraded (name reason : String) : ComponentHealth :=
  { name, status := HealthStatus.degraded.toText, reason := some reason }

/-- A component that does not work, and why. -/
def unhealthy (name reason : String) : ComponentHealth :=
  { name, status := HealthStatus.unhealthy.toText, reason := some reason }

/-- A component in JSON; nothing stands for a missing reason. -/
def toJson (c : ComponentHealth) : Json :=
  .object
    ([("name", .string c.name), ("status", .string c.status)] ++
      match c.reason with
      | some reason => [("message", .string reason)]
      | none => [])

open Json Json.Decoder Json.Record in
/-- The fields of a component. -/
def record : Json.Record ComponentHealth :=
  ComponentHealth.mk <$> required "name" string <*> required "status" string
    <*> nullable "message" string

end ComponentHealth

/-- How the whole is, from how its parts are. -/
def HealthStatus.ofComponents (components : List ComponentHealth) : HealthStatus :=
  if components.all fun c => c.status = HealthStatus.healthy.toText then .healthy
  else if components.any fun c => c.status = HealthStatus.unhealthy.toText then .unhealthy
  else .degraded

/-- What the service tells about itself. -/
structure HealthReport where
  status : String
  version : String
  uptimeSeconds : Nat
  requestsServed : Nat
  components : List ComponentHealth
deriving DecidableEq, Repr

namespace HealthReport

/-- A report in JSON. -/
def toJson (r : HealthReport) : Json :=
  .object
    [("status", .string r.status), ("version", .string r.version),
     ("uptime_secs", .nat r.uptimeSeconds), ("requests_served", .nat r.requestsServed),
     ("components", .array (r.components.map ComponentHealth.toJson))]

open Json Json.Decoder Json.Record in
/-- The fields of a report. -/
def record : Json.Record HealthReport :=
  HealthReport.mk <$> required "status" string <*> required "version" string
    <*> required "uptime_secs" nat64 <*> required "requests_served" nat64
    <*> required "components" (list ComponentHealth.record.decoder)

end HealthReport
end Bursar
