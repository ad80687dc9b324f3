import Bursar.Service.World

/-!
# Rehearsals

Surroundings that follow a script. The script says what each collaborator answers
when it is asked about content for the first, second, … time; the rehearsal counts
how often that was. The clock of a rehearsal stands still, and its identifiers are
numbered from zero, so the same tasks always go the same way.
-/

namespace Bursar

/-- The digits that all numbered identifiers start with. -/
def Uuid.numberedLead : List (Fin 16) :=
  [0xe, 5, 0xc, 0, 0xf, 0xf, 0xe, 0xe, 5, 0xe, 0xe, 0xd, 4, 0xb, 5, 0xa, 9, 0xd, 0, 0xc].map Text.lastHex

/-- The identifier of a number, which is its last twelve digits. -/
def Uuid.numbered (n : Nat) : Uuid :=
  ⟨numberedLead ++ (List.range 12).map fun i => Text.lastHex (n / Nat.pow 16 (11 - i)), by
    simp [numberedLead]⟩

/-- Whom the service asks. -/
inductive Collaborator where
  | catalog
  | pricing
  | enrollment
deriving DecidableEq, Repr

/-- What collaborators answer, given how often they were asked the same before. -/
structure Script where
  now : Timestamp
  document : String → Nat → Except CatalogError CatalogContent
  /-- The prices, if they do not come from the catalog's documents. -/
  price? : Option (String → Nat → Reply CatalogError String)
  enroll : EnrollmentRequest → Nat → Reply EnrollmentError String

/-- How far a script has been followed. -/
structure Rehearsal where
  /-- How many identifiers were given out. -/
  minted : Nat
  /-- How often each collaborator was asked about each content item. -/
  asked : Table (Collaborator × String) Nat
  /-- The requests for enrollments, in order. -/
  enrollments : List EnrollmentRequest

namespace Rehearsal

/-- Nothing happened yet. -/
def start : Rehearsal := { minted := 0, asked := .empty, enrollments := [] }

/-- How often a collaborator was asked about a content item. -/
def count (r : Rehearsal) (c : Collaborator) (content : String) : Nat := (r.asked.get? (c, content)).getD 0

/-- How often a collaborator was asked about anything. -/
def calls (r : Rehearsal) (c : Collaborator) : Nat :=
  ((r.asked.entries.filter fun e => e.1.1 = c).map (·.2)).foldr (· + ·) 0

/-- The rehearsal after a collaborator was asked once more. -/
def counting (r : Rehearsal) (c : Collaborator) (content : String) : Rehearsal :=
  { r with asked := r.asked.insert (c, content) (r.count c content + 1) }

/-- The rehearsal after some identifiers were given out. -/
def minting (r : Rehearsal) (number : Nat) : Rehearsal := { r with minted := r.minted + number }

end Rehearsal

namespace Script

/-- The stamp with a numbered identifier. -/
def stamp (s : Script) (n : Nat) : Stamp := { uuid := .numbered n, now := s.now }

/-- The stamps for a subsidy, with three identifiers from a number on. -/
def provisionStamp (s : Script) (n : Nat) : ProvisionStamp :=
  { subsidy := .numbered n, ledger := .numbered (n + 1), deposit := s.stamp (n + 2) }

/-- The catalog's next document. -/
def nextDocument (s : Script) (content : String) (r : Rehearsal) :
    Except CatalogError CatalogContent × Rehearsal :=
  (s.document content (r.count .catalog content), r.counting .catalog content)

/-- The next price, out of the next document if prices have no part of their own. -/
def nextPrice (s : Script) (content : String) (r : Rehearsal) : Reply CatalogError String × Rehearsal :=
  match s.price? with
  | some price => (price content (r.count .pricing content), r.counting .pricing content)
  | none =>
    let (answer, r) := s.nextDocument content r
    (.answered (priceOfDocument content answer), r)

/-- The next enrollment, which is written down. -/
def nextEnrollment (s : Script) (q : EnrollmentRequest) (r : Rehearsal) :
    Reply EnrollmentError String × Rehearsal :=
  (s.enroll q (r.count .enrollment q.contentKey),
    { r.counting .enrollment q.contentKey with enrollments := r.enrollments ++ [q] })

/-- The surroundings that follow a script. -/
def surroundings (s : Script) : Surroundings Rehearsal where
  stamp r := (s.stamp r.minted, r.minting 1)
  document _ content := s.nextDocument content
  price _ content := s.nextPrice content
  enroll := s.nextEnrollment

end Script
end Bursar
