import Bursar.Proofs.Ledger.Change
import Bursar.Proofs.Spend.Locks
import Bursar.Spend.Run

/-!
# What one step of a run does

`SpendRun.step` and `ReverseRun.step` are functions of where a run stands and of
what comes from outside. Here their successful steps are laid out as relations,
one constructor for each thing that can happen, with the tests that led to it
(`SpendRun.Move`, `ReverseRun.Move`). What holds along every history is proved
by cases on these.
-/

namespace Bursar

/-- What is shared after a lock was given back. -/
def Shared.released (s : Shared) (lock : Nat) : Shared := { s with locks := s.locks.release lock }

/-- The shared state where a task took a lock that was free. -/
def Shared.taken (s : Shared) (lock task : Nat) : Shared :=
  { s with locks := { s.locks with holders := s.locks.holders.insert lock task } }

/-- An enrollment that the service granted: the task that asked, the request, the
ledger and key that the enrollment is paid under, and the reference given. -/
structure Fulfillment where
  task : Nat
  request : EnrollmentRequest
  ledger : Uuid
  key : IdempotencyKey
  reference : String
deriving DecidableEq

/-- What a committed transaction was before, and is now. -/
theorem Transaction.commit_eq_ok {t t' : Transaction} {reference type : Option String} {now : Timestamp}
    (h : t.commit reference type now = .ok t') :
    t.state = .created ∧ t' =
      { t with state := .committed, modified := now, referenceId := reference,
               referenceType := type } := by
  cases hs : t.state <;>
    simp [Transaction.commit, Transaction.moveTo, TransactionState.canBecome, Except.map, hs] at h
  exact ⟨rfl, h.symm⟩

theorem Transaction.commit_of_created {t : Transaction} {reference type : Option String}
    {now : Timestamp} (h : t.state = .created) :
    t.commit reference type now = .ok
      { t with state := .committed, modified := now, referenceId := reference,
               referenceType := type } := by
  simp [Transaction.commit, Transaction.moveTo, TransactionState.canBecome, Except.map, h]

namespace SpendRun

/-- The enrollment that was granted if this was the answer. -/
def fulfillment? (task : Nat) : SpendRun → StepInput → Option Fulfillment
  | .enrolling c x _ pending, .enrolled (.ok reference) _ =>
    some
      { task := task
        request := enrollmentRequest c x pending
        ledger := pending.ledgerUuid
        key := pending.key
        reference := reference }
  | _, _ => none

/-- The identifiers that a step draws. -/
def draws : SpendRun → StepInput → List Uuid
  | .weighing .., .proceed stamp => [stamp.uuid]
  | _, _ => []

/-- The lock that a run holds. -/
def lock? : SpendRun → Option Nat
  | .checking _ _ lock | .pricing _ _ lock _ | .weighing _ _ lock _ _ | .enrolling _ _ lock _
  | .recording lock _ => some lock
  | _ => none

/-- The transaction that a run is about to record. -/
def bill? : SpendRun → Option Transaction
  | .enrolling _ _ _ t | .recording _ t => some t
  | _ => none

/-- The ledger and the key that a run found free. -/
def claim? : SpendRun → Option (Uuid × IdempotencyKey)
  | .pricing _ x _ key | .weighing _ x _ key _ => some (x.ledgerUuid, key)
  | .enrolling _ _ _ t | .recording _ t => some (t.ledgerUuid, t.key)
  | _ => none

/-- A transaction that is about to be recorded has its key claimed. -/
theorem claim?_of_bill? {run : SpendRun} {t : Transaction} (h : run.bill? = some t) :
    run.claim? = some (t.ledgerUuid, t.key) := by
  cases run with
  | enrolling | recording =>
    obtain rfl := Option.some.inj h
    rfl
  | arrived | located | waiting | checking | pricing | weighing | finished => cases h

/-- Whether a run has asked a collaborator and not heard the answer yet. -/
def isAsking : SpendRun → Bool
  | .pricing .. | .enrolling .. => true
  | _ => false

/-- Whether a run has its learner enrolled and its transaction not recorded yet. -/
def isRecording : SpendRun → Bool
  | .recording .. => true
  | _ => false

/-! ### The stations one by one -/

section Stations

variable {p lock : Nat} {s : Shared} {c : SpendCommand} {x : Subsidy} {key : IdempotencyKey}
variable {quantity : Int} {t : Transaction}

theorem step_lost (h : s.store.subsidy? c.subsidy = none) (stamp : Stamp) :
    step p s (.arrived c) (.proceed stamp) =
      some (s, .finished (.error (.ledger (Store.noSubsidy c.subsidy)))) := by
  unfold step
  simp only [h]

theorem step_located (h : s.store.subsidy? c.subsidy = some x) (stamp : Stamp) :
    step p s (.arrived c) (.proceed stamp) = some (s, .located c x) := by
  unfold step
  simp only [h]

theorem step_acquired (h : s.locks.holders.get? lock = none) (stamp : Stamp) :
    step p s (.waiting c x lock) (.proceed stamp) = some (s.taken lock p, .checking c x lock) := by
  unfold step
  simp only [Locks.acquire, h, Option.map_some, Shared.taken]

/-- A spend that finds its key held is over. -/
theorem step_replayed (h : s.store.findByKey x.ledgerUuid (c.resolveKey x.ledgerUuid) = some t)
    (stamp : Stamp) :
    step p s (.checking c x lock) (.proceed stamp) =
      some (s.released lock, .finished (.ok (.existing t))) := by
  unfold step
  simp only [h, finish, Shared.released]

/-- A spend that finds its key free goes on under it. -/
theorem step_missed (h : s.store.findByKey x.ledgerUuid (c.resolveKey x.ledgerUuid) = none)
    (stamp : Stamp) :
    step p s (.checking c x lock) (.proceed stamp) =
      some (s, .pricing c x lock (c.resolveKey x.ledgerUuid)) := by
  unfold step
  simp only [h]

theorem step_uncharged {price : String} {e : SpendError} (h : debitOfText x.unit price = .error e) :
    step p s (.pricing c x lock key) (.priced (.ok price)) =
      some (s.released lock, .finished (.error e)) := by
  unfold step
  simp only [h, finish, Shared.released]

theorem step_priced {price : String} (h : debitOfText x.unit price = .ok quantity) :
    step p s (.pricing c x lock key) (.priced (.ok price)) =
      some (s, .weighing c x lock key quantity) := by
  unfold step
  simp only [h]

theorem step_unbalanced {e : LedgerError} (h : s.store.balance x.ledgerUuid = .error e)
    (stamp : Stamp) :
    step p s (.weighing c x lock key quantity) (.proceed stamp) =
      some (s.released lock, .finished (.error (.ledger e))) := by
  unfold step
  simp only [h, finish, Shared.released]

theorem step_uncovered {b : Int} (hb : s.store.balance x.ledgerUuid = .ok b)
    (hq : b + quantity < 0) (stamp : Stamp) :
    step p s (.weighing c x lock key quantity) (.proceed stamp) =
      some (s.released lock, .finished (.error (.ledger (.insufficientBalance b quantity)))) := by
  unfold step
  simp only [hb, if_pos hq, finish, Shared.released]

theorem step_covered {b : Int} (hb : s.store.balance x.ledgerUuid = .ok b)
    (hq : ¬ b + quantity < 0) (stamp : Stamp) :
    step p s (.weighing c x lock key quantity) (.proceed stamp) =
      some (s, .enrolling c x lock (pendingTransaction c x key quantity stamp)) := by
  unfold step
  simp only [hb, if_neg hq]

/-- A spend whose learner is not enrolled fails its transaction, and then for that reason. -/
theorem step_unenrolled {failed : Transaction} {now : Timestamp} (h : t.fail now = .ok failed)
    (e : EnrollmentError) :
    step p s (.enrolling c x lock t) (.enrolled (.error e) now) =
      some (s.released lock, .finished (.error (.enrollment e))) := by
  unfold step
  simp only [h, finish, Shared.released]

theorem step_unfailed {e' : LedgerError} {now : Timestamp} (h : t.fail now = .error e')
    (e : EnrollmentError) :
    step p s (.enrolling c x lock t) (.enrolled (.error e) now) =
      some (s.released lock, .finished (.error (.ledger e'))) := by
  unfold step
  simp only [h, finish, Shared.released]

section

variable {reference : String} {now : Timestamp}

theorem step_fulfilled {committed : Transaction}
    (h : t.commit (some reference) (some enrollmentReferenceType) now = .ok committed) :
    step p s (.enrolling c x lock t) (.enrolled (.ok reference) now) =
      some (s, .recording lock committed) := by
  unfold step
  simp only [h]

theorem step_unsettled {e : LedgerError}
    (h : t.commit (some reference) (some enrollmentReferenceType) now = .error e) :
    step p s (.enrolling c x lock t) (.enrolled (.ok reference) now) =
      some (s.released lock, .finished (.error (.ledger e))) := by
  unfold step
  simp only [h, finish, Shared.released]

end
end Stations

/-! ### One step -/

/-- What a spend of task `p` does in one step. -/
inductive Move (p : Nat) (s : Shared) : SpendRun → StepInput → Shared → SpendRun → Prop
  /-- There is no such subsidy. -/
  | lost {c input} (h : s.store.subsidy? c.subsidy = none) :
      Move p s (.arrived c) input s (.finished (.error (.ledger (Store.noSubsidy c.subsidy))))
  | located {c x input} (h : s.store.subsidy? c.subsidy = some x) :
      Move p s (.arrived c) input s (.located c x)
  | fetched {c x input} :
      Move p s (.located c x) input { s with locks := (s.locks.fetch x.uuid).2 }
        (.waiting c x (s.locks.fetch x.uuid).1)
  | acquired {c x lock locks input} (h : s.locks.acquire lock p = some locks) :
      Move p s (.waiting c x lock) input { s with locks } (.checking c x lock)
  /-- The key is held already. -/
  | replayed {c x lock t input}
      (h : s.store.findByKey x.ledgerUuid (c.resolveKey x.ledgerUuid) = some t) :
      Move p s (.checking c x lock) input (s.released lock) (.finished (.ok (.existing t)))
  | missed {c x lock input}
      (h : s.store.findByKey x.ledgerUuid (c.resolveKey x.ledgerUuid) = none) :
      Move p s (.checking c x lock) input s (.pricing c x lock (c.resolveKey x.ledgerUuid))
  | priced {c x lock key price quantity} (h : debitOfText x.unit price = .ok quantity) :
      Move p s (.pricing c x lock key) (.priced (.ok price)) s (.weighing c x lock key quantity)
  | covered {c x lock key quantity stamp b} (hb : s.store.balance x.ledgerUuid = .ok b)
      (hq : 0 ≤ b + quantity) :
      Move p s (.weighing c x lock key quantity) (.proceed stamp) s
        (.enrolling c x lock (pendingTransaction c x key quantity stamp))
  | fulfilled {c x lock pending reference now t}
      (h : pending.commit (some reference) (some enrollmentReferenceType) now = .ok t) :
      Move p s (.enrolling c x lock pending) (.enrolled (.ok reference) now) s (.recording lock t)
  /-- The learner is enrolled, but the transaction cannot be committed. -/
  | unsettled {c x lock pending reference now e}
      (h : pending.commit (some reference) (some enrollmentReferenceType) now = .error e) :
      Move p s (.enrolling c x lock pending) (.enrolled (.ok reference) now) (s.released lock)
        (.finished (.error (.ledger e)))
  | recorded {lock t t' store input} (h : s.store.append t = (.ok t', store)) :
      Move p s (.recording lock t) input ({ s with store }.released lock)
        (.finished (.ok (.created t')))
  /-- The learner is enrolled, but the store refuses the transaction. -/
  | refused {lock t e store input} (h : s.store.append t = (.error e, store)) :
      Move p s (.recording lock t) input ({ s with store }.released lock)
        (.finished (.error (.ledger e)))
  /-- The run ends before the learner is enrolled. -/
  | gaveUp {run input lock e} (hl : run.lock? = some lock) (hr : run.isRecording = false)
      (hf : run.fulfillment? p input = none) :
      Move p s run input (s.released lock) (.finished (.error e))

theorem move_of_step {p : Nat} {s s' : Shared} {run run' : SpendRun} {input : StepInput}
    (h : run.step p s input = some (s', run')) : Move p s run input s' run' := by
  unfold step at h
  split at h
  · -- arrived
    split at h <;> obtain ⟨rfl, rfl⟩ := Prod.mk.inj (Option.some.inj h)
    · exact .lost ‹_›
    · exact .located ‹_›
  · -- located
    obtain ⟨rfl, rfl⟩ := Prod.mk.inj (Option.some.inj h)
    exact .fetched
  · -- waiting
    obtain ⟨locks, hlocks, he⟩ := Option.map_eq_some_iff.mp h
    obtain ⟨rfl, rfl⟩ := Prod.mk.inj he
    exact .acquired hlocks
  · -- checking
    dsimp only at h
    split at h <;> obtain ⟨rfl, rfl⟩ := Prod.mk.inj (Option.some.inj h)
    · exact .replayed ‹_›
    · exact .missed ‹_›
  · -- pricing
    split at h
    · obtain ⟨rfl, rfl⟩ := Prod.mk.inj (Option.some.inj h)
      exact .gaveUp rfl rfl rfl
    · split at h <;> obtain ⟨rfl, rfl⟩ := Prod.mk.inj (Option.some.inj h)
      · exact .gaveUp rfl rfl rfl
      · exact .priced ‹_›
  · -- weighing
    split at h
    · obtain ⟨rfl, rfl⟩ := Prod.mk.inj (Option.some.inj h)
      exact .gaveUp rfl rfl rfl
    · split at h <;> obtain ⟨rfl, rfl⟩ := Prod.mk.inj (Option.some.inj h)
      · exact .gaveUp rfl rfl rfl
      · exact .covered ‹_› (by omega)
  · -- enrolling
    split at h
    · split at h <;> obtain ⟨rfl, rfl⟩ := Prod.mk.inj (Option.some.inj h) <;> exact .gaveUp rfl rfl rfl
    · split at h <;> obtain ⟨rfl, rfl⟩ := Prod.mk.inj (Option.some.inj h)
      · exact .unsettled ‹_›
      · exact .fulfilled ‹_›
  · -- recording
    split at h <;> obtain ⟨rfl, rfl⟩ := Prod.mk.inj (Option.some.inj h)
    · exact .refused ‹_›
    · exact .recorded ‹_›
  · -- the price crashed
    obtain ⟨rfl, rfl⟩ := Prod.mk.inj (Option.some.inj h)
    exact .gaveUp rfl rfl rfl
  · -- the enrollment crashed
    obtain ⟨rfl, rfl⟩ := Prod.mk.inj (Option.some.inj h)
    exact .gaveUp rfl rfl rfl
  · cases h

namespace Move

variable {p : Nat} {s s' : Shared} {run run' : SpendRun} {input : StepInput}

/-- A spend leaves the store alone, or records its transaction. -/
theorem store_cases (hm : Move p s run input s' run') :
    s'.store = s.store ∨ ∃ lock t l, run = .recording lock t ∧ s.store.Admits l t ∧
      s'.store = s.store.recorded l t := by
  cases hm with
  | lost | located | fetched | acquired | replayed | missed | priced | covered | fulfilled
  | unsettled | gaveUp => exact .inl rfl
  | @recorded lock t t' store _ ha | @refused lock t e store _ ha =>
    rcases s.store.append_cases t with ⟨e', he⟩ | ⟨l, hl, -, he⟩
    · exact .inl (Prod.mk.inj (ha.symm.trans he)).2
    · exact .inr ⟨lock, t, l, rfl, hl, (Prod.mk.inj (ha.symm.trans he)).2⟩

theorem locks_change (hm : Move p s run input s' run')
    (h : ∀ {lock}, run.lock? = some lock → s.locks.holders.get? lock = some p) :
    s.locks.Change p s'.locks := by
  cases hm with
  | lost | located | missed | priced | covered | fulfilled => exact .kept
  | fetched => exact .fetched
  | acquired ha => exact .acquired ha
  | gaveUp hl => exact .released (h hl)
  | replayed | unsettled | recorded | refused => exact .released (h rfl)

end Move
end SpendRun

namespace ReverseRun

/-- The lock that a run holds. -/
def lock? : ReverseRun → Option Nat
  | .reversing _ lock => some lock
  | _ => none

section Stations

variable {p lock : Nat} {s : Shared} {u : Uuid}

theorem step_found {t : Transaction} (h : s.store.transaction? u = some t) (stamp : Stamp) :
    step p s (.arrived u) stamp = some (s, .found u t) := by
  unfold step
  simp only [h]

theorem step_located {t : Transaction} {x : Subsidy}
    (h : s.store.subsidyOfLedger? t.ledgerUuid = some x) (stamp : Stamp) :
    step p s (.found u t) stamp = some (s, .located u x) := by
  unfold step
  simp only [h]

theorem step_acquired (h : s.locks.holders.get? lock = none) (stamp : Stamp) :
    step p s (.waiting u lock) stamp = some (s.taken lock p, .reversing u lock) := by
  unfold step
  simp only [Locks.acquire, h, Option.map_some, Shared.taken]

/-- A reversal that has the lock is over, with what the store says. -/
theorem step_reversing (stamp : Stamp) :
    step p s (.reversing u lock) stamp =
      some ({ s with store := (s.store.reverse u stamp).2 }.released lock,
        .finished ((s.store.reverse u stamp).1.mapError .ledger)) := by
  unfold step
  cases h : s.store.reverse u stamp with
  | mk result store => cases result <;> simp only [h, Shared.released, Except.mapError]

end Stations

/-- What a reversal of task `p` does in one step. -/
inductive Move (p : Nat) (s : Shared) : ReverseRun → Stamp → Shared → ReverseRun → Prop
  /-- There is no such transaction, or its ledger has no subsidy. -/
  | lost {run stamp e} (h : run.lock? = none) : Move p s run stamp s (.finished (.error e))
  | found {u t stamp} (h : s.store.transaction? u = some t) :
      Move p s (.arrived u) stamp s (.found u t)
  | located {u t x stamp} (h : s.store.subsidyOfLedger? t.ledgerUuid = some x) :
      Move p s (.found u t) stamp s (.located u x)
  | fetched {u x stamp} :
      Move p s (.located u x) stamp { s with locks := (s.locks.fetch x.uuid).2 }
        (.waiting u (s.locks.fetch x.uuid).1)
  | acquired {u lock locks stamp} (h : s.locks.acquire lock p = some locks) :
      Move p s (.waiting u lock) stamp { s with locks } (.reversing u lock)
  | reversed {u lock stamp result} :
      Move p s (.reversing u lock) stamp
        ({ s with store := (s.store.reverse u stamp).2 }.released lock) (.finished result)

theorem move_of_step {p : Nat} {s s' : Shared} {run run' : ReverseRun} {stamp : Stamp}
    (h : run.step p s stamp = some (s', run')) : Move p s run stamp s' run' := by
  unfold step at h
  split at h
  · -- arrived
    split at h <;> obtain ⟨rfl, rfl⟩ := Prod.mk.inj (Option.some.inj h)
    · exact .lost rfl
    · exact .found ‹_›
  · -- found
    split at h <;> obtain ⟨rfl, rfl⟩ := Prod.mk.inj (Option.some.inj h)
    · exact .lost rfl
    · exact .located ‹_›
  · -- located
    obtain ⟨rfl, rfl⟩ := Prod.mk.inj (Option.some.inj h)
    exact .fetched
  · -- waiting
    obtain ⟨locks, hlocks, he⟩ := Option.map_eq_some_iff.mp h
    obtain ⟨rfl, rfl⟩ := Prod.mk.inj he
    exact .acquired hlocks
  · -- reversing
    dsimp only at h
    split at h <;> obtain ⟨rfl, rfl⟩ := Prod.mk.inj (Option.some.inj h) <;> exact .reversed
  · cases h

namespace Move

variable {p : Nat} {s s' : Shared} {run run' : ReverseRun} {stamp : Stamp}

/-- A reversal leaves the store alone, or attaches a reversal to its transaction. -/
theorem store_cases (hm : Move p s run stamp s' run') :
    s'.store = s.store ∨ ∃ u lock t, run = .reversing u lock ∧ s.store.Reversible u t ∧
      s'.store = s.store.reversed u t stamp := by
  cases hm with
  | lost | found | located | fetched | acquired => exact .inl rfl
  | @reversed u lock _ _ =>
    rcases s.store.reverse_cases u stamp with ⟨e, he⟩ | ⟨t, ht, -, he⟩
    · exact .inl (congrArg Prod.snd he)
    · exact .inr ⟨u, lock, t, rfl, ht, congrArg Prod.snd he⟩

theorem locks_change (hm : Move p s run stamp s' run')
    (h : ∀ {lock}, run.lock? = some lock → s.locks.holders.get? lock = some p) :
    s.locks.Change p s'.locks := by
  cases hm with
  | lost | found | located => exact .kept
  | fetched => exact .fetched
  | acquired ha => exact .acquired ha
  | reversed => exact .released (h rfl)

end Move
end ReverseRun
end Bursar
