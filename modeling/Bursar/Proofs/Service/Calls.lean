import Bursar.Service.Respond

/-!
# The calls of a service

What a service does to its collaborators is to call them. Surroundings can be
watched (`Surroundings.watched`): they do what they did, and write down every
question for a document or a price and every request for an enrollment. A task
among watched surroundings takes the same course and comes to the same
(`World.spend_watched`, `World.reverse_watched`, `World.lookup_watched`), so what is
written down are the calls that it makes among the unwatched ones.
-/

namespace Bursar

/-- A call to a collaborator. -/
inductive Outcall where
  | document (enterprise : Uuid) (content : String)
  | price (enterprise : Uuid) (content : String)
  | enroll (request : EnrollmentRequest)
deriving DecidableEq

namespace Outcall

/-- The enterprise that a call is made for. -/
def enterprise : Outcall → Uuid
  | .document enterprise _ | .price enterprise _ => enterprise
  | .enroll request => request.enterprise

/-- What one must be allowed to do to have the call made. -/
def capability : Outcall → Capability
  | .document _ _ => .readMetadata
  | .price _ _ | .enroll _ => .createTransactions

end Outcall

variable {σ : Type}

/-- The same surroundings, with the calls written down in order. -/
def Surroundings.watched (s : Surroundings σ) : Surroundings (σ × List Outcall) where
  stamp o := ((s.stamp o.1).1, (s.stamp o.1).2, o.2)
  document enterprise content o :=
    let (answer, outside) := s.document enterprise content o.1
    (answer, outside, o.2 ++ [.document enterprise content])
  price enterprise content o :=
    let (answer, outside) := s.price enterprise content o.1
    (answer, outside, o.2 ++ [.price enterprise content])
  enroll request o :=
    let (answer, outside) := s.enroll request o.1
    (answer, outside, o.2 ++ [.enroll request])

/-- A service whose surroundings are watched. -/
def Service.watched (s : Service σ) : Service (σ × List Outcall) where
  settings := s.settings
  credentials := s.credentials
  surroundings := s.surroundings.watched

namespace World

/-- The world among watched surroundings, where some calls were made already. -/
def watched (w : World σ) (calls : List Outcall) : World (σ × List Outcall) :=
  { w with outside := (w.outside, calls) }

/-- The world as it is without being watched. -/
def unwatched (w : World (σ × List Outcall)) : World σ := { w with outside := w.outside.1 }

end World

/-! ## The same course -/

/-- The call that a spend makes next. -/
def SpendRun.call? : SpendRun → Option Outcall
  | .pricing c x _ _ => some (.price x.enterprise c.contentKey)
  | .enrolling c x _ pending => some (.enroll (enrollmentRequest c x pending))
  | _ => none

/-- The call that a lookup makes next. -/
def LookupRun.call? : LookupRun → Option Outcall
  | .asking key => some (.document key.2 key.1)
  | _ => none

namespace World

variable (s : Surroundings σ)

/-- A step gets the same from watched surroundings, and its call is written down. -/
theorem spendInput_watched (run : SpendRun) (o : σ × List Outcall) :
    spendInput s.watched run o =
      ((spendInput s run o.1).1, (spendInput s run o.1).2, o.2 ++ run.call?.toList) := by
  cases run with
  | pricing c x lock key =>
    cases hp : s.price x.enterprise c.contentKey o.1 with
    | mk reply outside => cases reply <;> simp [spendInput, Surroundings.watched, SpendRun.call?, hp]
  | enrolling c x lock pending =>
    cases hp : s.enroll (SpendRun.enrollmentRequest c x pending) o.1 with
    | mk reply outside => cases reply <;> simp [spendInput, Surroundings.watched, SpendRun.call?, hp]
  | arrived | located | waiting | checking | weighing | recording | finished =>
    simp [spendInput, Surroundings.watched, SpendRun.call?]

theorem lookupInput_watched (run : LookupRun) (w : World (σ × List Outcall)) :
    lookupInput s.watched run w =
      ((lookupInput s run w.unwatched).1, (lookupInput s run w.unwatched).2,
        w.outside.2 ++ run.call?.toList) := by
  cases run <;> simp [lookupInput, Surroundings.watched, LookupRun.call?, unwatched]

theorem spendStep_watched (run : SpendRun) (w : World (σ × List Outcall)) :
    Prod.map id unwatched (w.spendStep s.watched run) = w.unwatched.spendStep s run := by
  rw [spendStep, spendInput_watched]
  cases hstep : run.step 0 w.shared (spendInput s run w.outside.1).1 with
  | none | some => simp [spendStep, hstep, unwatched]

theorem reverseStep_watched (run : ReverseRun) (w : World (σ × List Outcall)) :
    Prod.map id unwatched (w.reverseStep s.watched run) = w.unwatched.reverseStep s run := by
  cases hstep : run.step 0 w.shared (s.stamp w.outside.1).1 with
  | none | some => simp [reverseStep, Surroundings.watched, hstep, unwatched]

theorem lookupStep_watched (run : LookupRun) (w : World (σ × List Outcall)) :
    Prod.map id unwatched (w.lookupStep s.watched run) = w.unwatched.lookupStep s run := by
  rw [lookupStep, lookupInput_watched, lookupStep]
  cases hstep : run.step w.cache (lookupInput s run w.unwatched).1 with
  | none | some =>
    simp only [hstep, show w.unwatched.cache = w.cache from rfl]
    rfl

/-- Whether or not a spend can go on, its call is written down. -/
theorem calls_spendStep (run : SpendRun) (w : World (σ × List Outcall)) :
    (w.spendStep s.watched run).2.outside.2 = w.outside.2 ++ run.call?.toList := by
  rw [spendStep, spendInput_watched]
  cases hstep : run.step 0 w.shared (spendInput s run w.outside.1).1 with
  | none | some => simp [hstep]

theorem calls_reverseStep (run : ReverseRun) (w : World (σ × List Outcall)) :
    (w.reverseStep s.watched run).2.outside.2 = w.outside.2 := by
  cases hstep : run.step 0 w.shared (s.stamp w.outside.1).1 with
  | none | some => simp [reverseStep, Surroundings.watched, hstep]

theorem calls_lookupStep (run : LookupRun) (w : World (σ × List Outcall)) :
    (w.lookupStep s.watched run).2.outside.2 = w.outside.2 ++ run.call?.toList := by
  rw [lookupStep, lookupInput_watched]
  cases hstep : run.step w.cache (lookupInput s run w.unwatched).1 with
  | none | some => simp [hstep]

/-- A task whose steps are the same in a world that is seen otherwise comes to the same there. -/
theorem follow_seen {ρ α τ : Type} {over? : ρ → Option α} {stuck : α}
    {advance : ρ → World σ → Option ρ × World σ} {advance' : ρ → World τ → Option ρ × World τ}
    (seen : World τ → World σ)
    (h : ∀ run w, Prod.map id seen (advance' run w) = advance run (seen w))
    (steps : Nat) (run : ρ) (w : World τ) :
    Prod.map id seen (follow over? stuck advance' steps run w) =
      follow over? stuck advance steps run (seen w) := by
  induction steps generalizing run w with
  | zero => rfl
  | succ steps ih =>
    cases ho : over? run with
    | some result => simp [follow, ho]
    | none =>
      have hstep := h run w
      cases ha : advance' run w with
      | mk next w' =>
        rw [ha] at hstep
        cases next with
        | none => simp [follow, ho, ha, ← hstep]
        | some run' => simpa [follow, ho, ha, ← hstep] using ih run' w'

theorem spend_watched (c : SpendCommand) (w : World (σ × List Outcall)) :
    Prod.map id unwatched (w.spend s.watched c) = w.unwatched.spend s c :=
  follow_seen unwatched (spendStep_watched s) 8 (.arrived c) w

theorem reverse_watched (u : Uuid) (w : World (σ × List Outcall)) :
    Prod.map id unwatched (w.reverse s.watched u) = w.unwatched.reverse s u :=
  follow_seen unwatched (reverseStep_watched s) 5 (.arrived u) w

theorem lookup_watched (key : CacheKey) (w : World (σ × List Outcall)) :
    Prod.map id unwatched (w.lookup s.watched key) = w.unwatched.lookup s key :=
  follow_seen unwatched (lookupStep_watched s) 3 (.arrived key) w

/-- The world with another store and other locks. -/
def sharing (w : World σ) (shared : Shared) : World σ := { w with shared }

theorem lookupStep_sharing (shared : Shared) (run : LookupRun) (w : World σ) :
    Prod.map id (sharing · shared) (w.lookupStep s run) = (w.sharing shared).lookupStep s run := by
  have hinput : lookupInput s run (w.sharing shared) = lookupInput s run w := by
    cases run <;> rfl
  have hcache : (w.sharing shared).cache = w.cache := rfl
  rw [lookupStep, lookupStep, hinput, hcache]
  cases hstep : run.step w.cache (lookupInput s run w).1 with
  | none | some =>
    simp only [hstep]
    rfl

/-- A lookup takes the same course whatever the store has, and leaves the store alone. -/
theorem lookup_sharing (shared : Shared) (key : CacheKey) (w : World σ) :
    Prod.map id (sharing · shared) (w.lookup s key) = (w.sharing shared).lookup s key :=
  follow_seen (sharing · shared) (lookupStep_sharing s shared) 3 (.arrived key) w

end World
end Bursar
