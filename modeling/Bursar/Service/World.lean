import Bursar.Catalog.Lookup
import Bursar.Service.Counters
import Bursar.Spend.Run

/-!
# The service and its surroundings

The service keeps a store with its locks, a metadata cache and counters. Around
it are the collaborators: the catalog, whoever tells prices, and the enrollment
service, and with them a clock and a supply of fresh identifiers. What they do
is a function of their own state, which may be anything (`Surroundings`).

`World.spend`, `World.reverse` and `World.lookup` run a task alone, from its first
step to its last; `World.together` runs tasks that start at once.
-/

namespace Bursar

/-- What a collaborator does when it is called. -/
inductive Reply (ε α : Type) where
  | answered (answer : Except ε α)
  | crashed (detail : String)

/-- The collaborators, as functions of their state. -/
structure Surroundings (σ : Type) where
  /-- A fresh identifier and the time. -/
  stamp : σ → Stamp × σ
  /-- The catalog's document of content, as an enterprise sees it. -/
  document : Uuid → String → σ → Except CatalogError CatalogContent × σ
  /-- The price of content, as an enterprise sees it. -/
  price : Uuid → String → σ → Reply CatalogError String × σ
  enroll : EnrollmentRequest → σ → Reply EnrollmentError String × σ

/-- The price that a catalog's document gives. -/
def priceOfDocument (contentKey : String) :
    Except CatalogError CatalogContent → Except CatalogError String
  | .error e => .error e
  | .ok content => content.priceText contentKey

/-- The service's own state and that of its surroundings. -/
structure World (σ : Type) where
  shared : Shared
  cache : MetadataCache
  counters : Counters
  /-- How many requests came. -/
  served : Nat
  /-- How many milliseconds have gone by. -/
  elapsed : Nat
  outside : σ

namespace World

variable {σ : Type}

/-- A service that starts with a store. -/
def start (store : Store) (cache : MetadataCache) (outside : σ) : World σ where
  shared := { store, locks := .empty }
  cache := cache
  counters := .empty
  served := 0
  elapsed := 0
  outside := outside

/-- The store. -/
def store (w : World σ) : Store := w.shared.store

/-- The world after something was counted. -/
def counting (w : World σ) (f : Counters → Counters) : World σ := { w with counters := f w.counters }

/-! ## From the first step to the last -/

/-- A task taken some steps further, until it is over. A step gives the run after it, or none if the
task cannot go on. -/
def follow {ρ α : Type} (over? : ρ → Option α) (stuck : α) (advance : ρ → World σ → Option ρ × World σ) :
    (steps : Nat) → ρ → World σ → α × World σ
  | 0, run, w => ((over? run).getD stuck, w)
  | steps + 1, run, w =>
    match over? run with
    | some result => (result, w)
    | none =>
      match advance run w with
      | (some run, w) => follow over? stuck advance steps run w
      | (none, w) => (stuck, w)

/-! ## Spending -/

/-- What the surroundings give to the next step of a spend. -/
def spendInput (s : Surroundings σ) (run : SpendRun) (outside : σ) : StepInput × σ :=
  match run with
  | .pricing c x _ _ =>
    match s.price x.enterprise c.contentKey outside with
    | (.answered answer, outside) => (.priced answer, outside)
    | (.crashed detail, outside) => (.crashed detail, outside)
  | .enrolling c x _ pending =>
    match s.enroll (SpendRun.enrollmentRequest c x pending) outside with
    | (.answered answer, outside) =>
      let (stamp, outside) := s.stamp outside
      (.enrolled answer stamp.now, outside)
    | (.crashed detail, outside) => (.crashed detail, outside)
  | _ =>
    let (stamp, outside) := s.stamp outside
    (.proceed stamp, outside)

/-- The end of a task that cannot go on. -/
def stuck : SpendError := .aborted "the task cannot go on"

/-- One step of a spend. -/
def spendStep (s : Surroundings σ) (run : SpendRun) (w : World σ) : Option SpendRun × World σ :=
  let (input, outside) := spendInput s run w.outside
  match run.step 0 w.shared input with
  | some (shared, run) => (some run, { w with shared, outside })
  | none => (none, { w with outside })

/-- A spend alone; it takes eight steps at most. -/
def spend (s : Surroundings σ) (c : SpendCommand) (w : World σ) :
    Except SpendError SpendOutcome × World σ :=
  follow SpendRun.result? (.error stuck) (spendStep s) 8 (.arrived c) w

/-! ## Reversing -/

/-- One step of a reversal. -/
def reverseStep (s : Surroundings σ) (run : ReverseRun) (w : World σ) : Option ReverseRun × World σ :=
  let (stamp, outside) := s.stamp w.outside
  match run.step 0 w.shared stamp with
  | some (shared, run) => (some run, { w with shared, outside })
  | none => (none, { w with outside })

/-- A reversal alone; it takes five steps at most. -/
def reverse (s : Surroundings σ) (transaction : Uuid) (w : World σ) :
    Except SpendError Transaction × World σ :=
  follow ReverseRun.result? (.error stuck) (reverseStep s) 5 (.arrived transaction) w

/-! ## Tasks that start together -/

/-- What a task is to do. -/
inductive Task where
  | spend (c : SpendCommand)
  | reverse (transaction : Uuid)
deriving DecidableEq

/-- What came of a task. -/
inductive TaskResult where
  | spent (result : Except SpendError SpendOutcome)
  | reversed (result : Except SpendError Transaction)

/-- Whether a task is a reversal. -/
def Task.isReversal : Task → Bool
  | .spend _ => false
  | .reverse _ => true

/-- A task alone. -/
def runTask (s : Surroundings σ) (t : Task) (w : World σ) : TaskResult × World σ :=
  match t with
  | .spend c =>
    let (result, w) := w.spend s c
    (.spent result, w)
  | .reverse transaction =>
    let (result, w) := w.reverse s transaction
    (.reversed result, w)

/-- The tasks that a test accepts, one after the other; the results stand beside the tasks. -/
def runSome (s : Surroundings σ) (p : Task → Bool) :
    List (Task × Option TaskResult) → World σ → List (Task × Option TaskResult) × World σ
  | [], w => ([], w)
  | (t, result) :: rest, w =>
    let (result, w) :=
      if p t then
        let (result, w) := w.runTask s t
        (some result, w)
      else (result, w)
    let (rest, w) := runSome s p rest w
    ((t, result) :: rest, w)

/-- Tasks that start together. A reversal asks for its lock at once, while a spend is first set up to
outlive its caller; so the reversals come first. The results are in the order of the tasks. -/
def together (s : Surroundings σ) (tasks : List Task) (w : World σ) : List TaskResult × World σ :=
  let (done, w) := runSome s Task.isReversal (tasks.map fun t => (t, none)) w
  let (done, w) := runSome s (fun t => !t.isReversal) done w
  (done.filterMap (·.2), w)

/-! ## Looking up metadata -/

/-- What the surroundings give to the next step of a lookup. -/
def lookupInput (s : Surroundings σ) (run : LookupRun) (w : World σ) : LookupInput × σ :=
  match run with
  | .asking key =>
    let (answer, outside) := s.document key.2 key.1 w.outside
    (.answered answer, outside)
  | _ => (.proceed w.elapsed, w.outside)

/-- The failure of a lookup that cannot go on. -/
def stuckLookup : MetadataError := .catalog (.transport "the lookup cannot go on")

/-- One step of a lookup. -/
def lookupStep (s : Surroundings σ) (run : LookupRun) (w : World σ) : Option LookupRun × World σ :=
  let (input, outside) := lookupInput s run w
  match run.step w.cache input with
  | some (cache, run) => (some run, { w with cache, outside })
  | none => (none, { w with outside })

/-- A lookup alone; it takes three steps at most. -/
def lookup (s : Surroundings σ) (key : CacheKey) (w : World σ) : Except MetadataError Lookup × World σ :=
  follow LookupRun.result? (.error stuckLookup) (lookupStep s) 3 (.arrived key) w

end World
end Bursar
