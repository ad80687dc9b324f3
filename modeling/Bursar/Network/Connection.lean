import Bursar.Http.Wire
import Bursar.Remote.Call
import Std.Async.DNS
import Std.Async.TCP
import Std.Async.Timer

/-!
# Connections

Calls are carried over TCP: the request is sent, and what comes back is read
until the answer is complete (`Http.Response.received?`). There is no encryption
here, so a call that wants it is not sent. Whatever goes wrong on the way, and
an answer that does not come in time, leaves the call unsent.
-/

namespace Bursar.Network

open Std.Async Std.Net

/-- An address with a port. -/
def socketAddress (address : IPAddr) (port : UInt16) : SocketAddress :=
  match address with
  | .v4 a => .v4 ⟨a, port⟩
  | .v6 a => .v6 ⟨a, port⟩

/-- A host without the brackets that may stand around it. -/
def withoutBrackets (host : String) : String :=
  String.ofList (host.toList.filter fun c => c ≠ '[' ∧ c ≠ ']')

/-- The addresses of a host, which may be an address itself. -/
def addresses (host : String) (port : UInt16) : Async (List SocketAddress) := do
  let name := withoutBrackets host
  let found ←
    match IPv4Addr.ofString name, IPv6Addr.ofString name with
    | some a, _ => pure [IPAddr.v4 a]
    | none, some a => pure [IPAddr.v6 a]
    | none, none => do
      let found ← DNS.getAddrInfo name (toString port)
      pure found.toList
  return (found.map fun address => socketAddress address port).eraseDups

/-- Connects to the first address where somebody listens. -/
def connectAny : List SocketAddress → Async TCP.Socket.Client
  | [] => throw (IO.userError "nobody listens")
  | address :: rest =>
    try
      let socket ← TCP.Socket.Client.mk
      socket.connect address
      return socket
    catch _ => connectAny rest

/-- Receives until what came is complete, or nothing more comes. -/
partial def receive {α : Type} (read? : List UInt8 → Bool → Option α) (socket : TCP.Socket.Client)
    (soFar : List UInt8) : Async (Option α) := do
  match ← socket.recv? 65536 with
  | none => return read? soFar true
  | some octets =>
    let soFar := soFar ++ octets.toList
    match read? soFar false with
    | some a => return some a
    | none => receive read? socket soFar

/-- Sends a text. -/
def send (socket : TCP.Socket.Client) (text : String) : Async Unit := socket.send text.toUTF8

/-- The port of a URL, as far as it names one. -/
def portOf (u : Url) : UInt16 := UInt16.ofNat (u.port.getD ((Url.standardPort? u.scheme).getD 80))

/-- Sends a call and receives its answer. -/
def exchange (c : Call) (host : String) : Async (Option Http.Response) := do
  let socket ← connectAny (← addresses host (portOf c.url))
  send socket (c.toRequest.written c.url.hostText)
  let answer ← receive Http.Response.received? socket []
  return answer.join

/-- Gives up after some seconds. -/
def giveUp {α : Type} (seconds : Nat) : Async (Option α) := do
  Std.Async.sleep (Std.Time.Millisecond.Offset.ofNat (1000 * seconds))
  return none

/-- Carries a call, waiting some seconds for the answer. -/
def carry (seconds : Nat) (c : Call) : IO (Except CallFailure Http.Response) := do
  let unsent := Except.error (.unsent c.url.toString)
  match c.refusal?, c.url.host with
  | some failure, _ => return .error failure
  | none, none => return unsent
  | none, some host =>
    if c.url.scheme ≠ "http" then return unsent
    try
      let answer ← (Async.race (exchange c host) (giveUp seconds)).block
      return answer.elim unsent .ok
    catch _ => return unsent

end Bursar.Network
