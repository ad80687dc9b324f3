import Bursar.Console.Provision
import Bursar.Network.Connection
import Bursar.Service.Exposition
import Bursar.Service.Round
import Std.Sync.Mutex

/-!
# Listening

A service on the network. Every connection brings one request and takes one
answer. The connections are read side by side, but the world behind them is one,
so requests are answered one after the other, each in rounds
(`Service.attempt`).
-/

namespace Bursar.Network

open Std.Async Std.Net

/-- The time. -/
def now : IO Timestamp := do
  let time ← Std.Time.Timestamp.now
  let nanos := time.toNanosecondsSinceUnixEpoch.val
  return { seconds := nanos / 1000000000, nanos := (nanos % 1000000000).toNat }

/-- Octets that nobody can foretell. -/
def freshSeed : IO (List UInt8) := do
  let octets ← IO.getRandomBytes 32
  return octets.toList

/-! ## Connections -/

/-- A socket that listens at an address. -/
def listenAt (address : String) : IO TCP.Socket.Server := do
  let (host, port) := Console.splitAddress address
  match Text.unsigned16? port with
  | none => throw (IO.userError "invalid port value")
  | some port =>
    match ← (addresses host (UInt16.ofNat port)).block with
    | [] => throw (IO.userError "the host has no address")
    | place :: _ =>
      let socket ← TCP.Socket.Server.mk
      socket.bind place
      socket.listen 128
      return socket

/-- Answers the request that a connection brings. One that is no request is answered as such. -/
def answerConnection (answer : Http.Request → IO Http.Response) (socket : TCP.Socket.Client) :
    IO Unit := do
  match ← (receive Http.Request.received? socket []).block with
  | none => return
  | some request =>
    let answer ← match request with
      | some request => answer request
      | none => pure (Http.Response.bare 400)
    (send socket answer.written).block
    socket.shutdown.block

/-- Accepts connections for ever, and answers each on its own thread. -/
partial def acceptAll (answer : Http.Request → IO Http.Response) (server : TCP.Socket.Server) :
    IO Unit := do
  let socket ← server.accept.block
  let _ ← IO.asTask (answerConnection answer socket) .dedicated
  acceptAll answer server

/-! ## The service -/

/-- A service on the network: what it is, what it has become, and how it reaches other services. -/
structure Running where
  service : Service Round
  world : Std.Mutex (World Round)
  /-- When it was started, in milliseconds of the machine's clock. -/
  started : Nat
  /-- How many seconds it waits for other services. -/
  patience : Nat

namespace Running

/-- Answers a request in rounds, with the wanted calls made in between. -/
partial def settle (x : Running) (r : Http.Request) (time : Timestamp) (w : World Round)
    (known : List (Except CallFailure Http.Response)) : IO (Http.Response × World Round) := do
  match x.service.attempt r time known w with
  | .done answer w => return (answer, w)
  | .wants call =>
    let outcome ← carry x.patience call
    x.settle r time w (known ++ [outcome])

/-- Answers a request. -/
def answer (x : Running) (r : Http.Request) : IO Http.Response := do
  let time ← now
  let elapsed ← IO.monoMsNow
  x.world.atomically do
    let w ← get
    let (answer, w) ← x.settle r time { w with elapsed := elapsed - x.started } []
    set w
    return answer

/-- Answers a monitor that asks for the counters. -/
def answerMonitor (x : Running) (_ : Http.Request) : IO Http.Response :=
  x.world.atomically do
    let w ← get
    return Http.Response.ofText 200 w.counters.exposition

/-- A service that was launched. -/
def ofLaunch (l : Console.Launch) (patience : Nat) : IO Running := do
  let time ← now
  let seed ← freshSeed
  let cache := MetadataCache.empty (1000 * l.settings.metadataSeconds)
  let world ← Std.Mutex.new (World.start l.store cache (Round.start seed time))
  let started ← IO.monoMsNow
  let service :=
    { settings := l.settings, credentials := l.credentials,
      surroundings := l.remotes.surroundings Round.carry Round.stamp }
  return { service, world, started, patience }

/-- Publishes the counters, if that is wanted, and serves. -/
def serve (x : Running) (counters : CounterSettings) : IO Unit := do
  if counters.enabled then
    let monitors ← listenAt ("0.0.0.0:" ++ Text.ofNat counters.port)
    let _ ← IO.asTask (acceptAll x.answerMonitor monitors) .dedicated
  let requests ← listenAt x.service.settings.listenAddress
  acceptAll x.answer requests

end Running
end Bursar.Network
