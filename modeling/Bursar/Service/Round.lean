import Bursar.Remote.Enrollment
import Bursar.Service.Respond
import Bursar.Sha256

/-!
# Answering in rounds

While a service answers a request it calls other services, and those calls are
made outside. So a request is answered in rounds (`Service.attempt`). A round
knows the answers to the calls that were made so far; it comes to the end of the
work, or to the next call. Every round starts from the same world and draws the
same identifiers, so it repeats the rounds before it and goes one call further.

The services that are called are the collaborators (`Remotes.surroundings`): documents
and prices come from the catalog, and learners are enrolled by the enrollment service.
Such a collaborator answers or fails, but does not break down.
-/

namespace Bursar

/-- The surroundings in which calls are carried by a transport. -/
def Remotes.surroundings {σ : Type} (r : Remotes) (t : Transport σ) (stamp : σ → Stamp × σ) :
    Surroundings σ where
  stamp := stamp
  document enterprise content s := r.catalog.fetch t enterprise content s
  price enterprise content s :=
    let (answer, s) := r.catalog.fetch t enterprise content s
    (.answered (priceOfDocument content answer), s)
  enroll request s :=
    let (answer, s) := r.enrollment.enroll t request s
    (.answered answer, s)

/-- A digit of the identifier that is drawn from octets: the two digits that tell version and variant are
set, the others are the octets' own. -/
def Uuid.drawnDigit (octets : List UInt8) (place : Nat) : Fin 16 :=
  let (high, low) := Text.octetDigits (octets.getD (place / 2) 0)
  let digit := if place % 2 = 0 then high else low
  if place = 12 then Text.lastHex 4
  else if place = 16 then Text.lastHex (8 + digit.val % 4)
  else digit

/-- The identifier drawn from a seed for a number. -/
def Uuid.drawn (seed : List UInt8) (n : Nat) : Uuid :=
  let octets := Sha256.digest (seed ++ Sha256.bigEndian 8 n)
  ⟨(List.range 32).map (Uuid.drawnDigit octets), by simp⟩

/-- What a round has at hand. -/
structure Round where
  /-- What identifiers are drawn from. -/
  seed : List UInt8
  /-- How many identifiers were drawn. -/
  drawn : Nat
  now : Timestamp
  /-- The answers to the calls that were made, in order. -/
  known : List (Except CallFailure Http.Response)
  /-- The first call whose answer is not known. -/
  wanted : Option Call

namespace Round

/-- The round before the first request. -/
def start (seed : List UInt8) (now : Timestamp) : Round :=
  { seed, drawn := 0, now, known := [], wanted := none }

/-- The stamp with the identifier of a number. -/
def stampAt (r : Round) (n : Nat) : Stamp := { uuid := .drawn r.seed n, now := r.now }

/-- The next stamp. -/
def stamp (r : Round) : Stamp × Round := (r.stampAt r.drawn, { r with drawn := r.drawn + 1 })

/-- The stamps for a subsidy, with three identifiers from a number on. -/
def provisionStamp (r : Round) (n : Nat) : ProvisionStamp :=
  { subsidy := (r.stampAt n).uuid, ledger := (r.stampAt (n + 1)).uuid, deposit := r.stampAt (n + 2) }

/-- Calls are answered by what is known. The first one that is not is wanted, and counts as unsent. -/
def carry : Transport Round := fun c r =>
  match r.known with
  | answer :: known => (answer, { r with known })
  | [] => (.error (.unsent c.url.toString), { r with wanted := r.wanted.or (some c) })

end Round

/-- What a round comes to. -/
inductive Attempt where
  | done (answer : Http.Response) (w : World Round)
  | wants (call : Call)

/-- A round of answering a request. -/
def Service.attempt (s : Service Round) (r : Http.Request) (now : Timestamp)
    (known : List (Except CallFailure Http.Response)) (w : World Round) : Attempt :=
  let (answer, after) := s.respond r { w with outside := { w.outside with now, known, wanted := none } }
  match after.outside.wanted with
  | some call => .wants call
  | none => .done answer after

end Bursar
