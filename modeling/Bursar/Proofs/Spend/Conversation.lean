import Bursar.Proofs.Service.Calls

/-!
# What a spend and its collaborators say

A spend asks for a price, and it asks for an enrollment. Surroundings can be
overheard (`Surroundings.overheard`): they do what they did, and every question is
written down together with the reply. A spend among overheard surroundings takes
the same course (`World.spend_overheard`), so that what is written down is the
**conversation** of the spend among the surroundings as they are
(`World.conversation`). `SpendRun.Hears` says which input a spend can get at each
station, and what is said when it gets it.
-/

namespace Bursar

variable {σ : Type}

/-- A question of a spend to a collaborator, and the reply. -/
inductive Heard where
  | price (enterprise : Uuid) (content : String) (reply : Reply CatalogError String)
  | enroll (request : EnrollmentRequest) (reply : Reply EnrollmentError String)

/-- The same surroundings, with the questions of spends and the replies written down in order. -/
def Surroundings.overheard (s : Surroundings σ) : Surroundings (σ × List Heard) where
  stamp o := ((s.stamp o.1).1, (s.stamp o.1).2, o.2)
  document enterprise content o :=
    let (answer, outside) := s.document enterprise content o.1
    (answer, outside, o.2)
  price enterprise content o :=
    let (reply, outside) := s.price enterprise content o.1
    (reply, outside, o.2 ++ [.price enterprise content reply])
  enroll request o :=
    let (reply, outside) := s.enroll request o.1
    (reply, outside, o.2 ++ [.enroll request reply])

/-- What is said when a spend takes its next step. -/
def SpendRun.exchange (s : Surroundings σ) (outside : σ) : SpendRun → List Heard
  | .pricing c x _ _ => [.price x.enterprise c.contentKey (s.price x.enterprise c.contentKey outside).1]
  | .enrolling c x _ pending =>
    [.enroll (enrollmentRequest c x pending) (s.enroll (enrollmentRequest c x pending) outside).1]
  | _ => []

/-- What a spend that is not over can get at its station, and what is said when it gets it. -/
inductive SpendRun.Hears : SpendRun → StepInput → List Heard → Prop
  | arrived {c stamp} : Hears (.arrived c) (.proceed stamp) []
  | located {c x stamp} : Hears (.located c x) (.proceed stamp) []
  | waiting {c x lock stamp} : Hears (.waiting c x lock) (.proceed stamp) []
  | checking {c x lock stamp} : Hears (.checking c x lock) (.proceed stamp) []
  | priced {c x lock key answer} : Hears (.pricing c x lock key) (.priced answer)
      [.price x.enterprise c.contentKey (.answered answer)]
  | priceCrashed {c x lock key detail} : Hears (.pricing c x lock key) (.crashed detail)
      [.price x.enterprise c.contentKey (.crashed detail)]
  | weighing {c x lock key quantity stamp} : Hears (.weighing c x lock key quantity) (.proceed stamp) []
  | enrolled {c x lock pending answer now} : Hears (.enrolling c x lock pending) (.enrolled answer now)
      [.enroll (enrollmentRequest c x pending) (.answered answer)]
  | enrollCrashed {c x lock pending detail} : Hears (.enrolling c x lock pending) (.crashed detail)
      [.enroll (enrollmentRequest c x pending) (.crashed detail)]
  | recording {lock t stamp} : Hears (.recording lock t) (.proceed stamp) []

namespace World

/-- The world among overheard surroundings, where nothing was said yet. -/
def overheard (w : World σ) : World (σ × List Heard) := { w with outside := (w.outside, []) }

/-- The world without what was overheard in it. -/
def unheard (w : World (σ × List Heard)) : World σ := { w with outside := w.outside.1 }

variable (s : Surroundings σ)

/-- What the surroundings give to a step is what the station can get. -/
theorem hears_spendInput {run : SpendRun} (hrun : run.result? = none) (outside : σ) :
    run.Hears (spendInput s run outside).1 (run.exchange s outside) := by
  cases run with
  | arrived => exact .arrived
  | located => exact .located
  | waiting => exact .waiting
  | checking => exact .checking
  | pricing c x lock key =>
    cases hp : s.price x.enterprise c.contentKey outside with
    | mk reply outside' =>
      simp only [spendInput, SpendRun.exchange, hp]
      cases reply with
      | answered => exact .priced
      | crashed => exact .priceCrashed
  | weighing => exact .weighing
  | enrolling c x lock pending =>
    cases hp : s.enroll (SpendRun.enrollmentRequest c x pending) outside with
    | mk reply outside' =>
      simp only [spendInput, SpendRun.exchange, hp]
      cases reply with
      | answered => exact .enrolled
      | crashed => exact .enrollCrashed
  | recording => exact .recording
  | finished => cases hrun

/-- A step gets the same from overheard surroundings, and what is said is written down. -/
theorem spendInput_overheard (run : SpendRun) (o : σ × List Heard) :
    spendInput s.overheard run o =
      ((spendInput s run o.1).1, (spendInput s run o.1).2, o.2 ++ run.exchange s o.1) := by
  cases run with
  | pricing c x lock key =>
    cases hp : s.price x.enterprise c.contentKey o.1 with
    | mk reply outside =>
      cases reply <;> simp [spendInput, Surroundings.overheard, SpendRun.exchange, hp]
  | enrolling c x lock pending =>
    cases hp : s.enroll (SpendRun.enrollmentRequest c x pending) o.1 with
    | mk reply outside =>
      cases reply <;> simp [spendInput, Surroundings.overheard, SpendRun.exchange, hp]
  | arrived | located | waiting | checking | weighing | recording | finished =>
    simp [spendInput, Surroundings.overheard, SpendRun.exchange]

theorem spendStep_overheard (run : SpendRun) (w : World (σ × List Heard)) :
    Prod.map id unheard (w.spendStep s.overheard run) = w.unheard.spendStep s run := by
  rw [spendStep, spendInput_overheard]
  cases hstep : run.step 0 w.shared (spendInput s run w.outside.1).1 with
  | none | some => simp [spendStep, hstep, unheard]

/-- **Overheard or not, a spend takes the same course.** -/
theorem spend_overheard (c : SpendCommand) (w : World σ) :
    Prod.map id unheard (w.overheard.spend s.overheard c) = w.spend s c :=
  follow_seen unheard (spendStep_overheard s) 8 (.arrived c) w.overheard

/-- The conversation of a spend that is alone with its collaborators. -/
def conversation (c : SpendCommand) (w : World σ) : List Heard :=
  (w.overheard.spend s.overheard c).2.outside.2

end World
end Bursar
