import Bursar.Proofs.Ledger.Provision
import Bursar.Proofs.Spend.Moves
import Mathlib.Logic.Function.Basic
import Mathlib.Logic.Relation

/-!
# Tasks at work together

Any number of tasks work on one store with one set of locks: spends, reversals,
and provisions of new subsidies. At each instant one task takes one undivided
step; which one, and what it hears from the collaborators, is up to the
schedule. A task that waits for a lock simply takes no step.

A `System` is what is shared, what each task is at, and the enrollments that the
enrollment service has granted so far. `WorkStep` is a step of a spend or a
reversal, `ProvisionStep` one of a provision, `Step` either. Wherever a step draws
an identifier, it is one that is not in use (`System.Fresh`).

What a task does while nobody gets in its way is put together from its steps. A
provision is the undivided call (`System.steps_provide`), and so is a reversal that
gets its lock at once (`System.steps_reverse`). A spend takes its lock
(`System.steps_checking`), and comes to record its transaction if it is a new one,
the balance covers it and the enrollment is granted (`System.steps_recording`).
-/

namespace Bursar

open Relation (ReflTransGen)

/-- What a task is at. -/
inductive Work where
  | idle
  | spend (c : SpendCommand) (run : SpendRun)
  | reverse (transaction : Uuid) (run : ReverseRun)
  | provide (new : NewSubsidy) (run : ProvisionRun)

namespace Work

/-- Whether a task has not started or is over. -/
def isAtRest : Work → Bool
  | .idle | .spend _ (.finished _) | .reverse _ (.finished _) | .provide _ (.finished _) => true
  | _ => false

/-- The lock that a task holds. -/
def lock? : Work → Option Nat
  | .spend _ run => run.lock?
  | .reverse _ run => run.lock?
  | _ => none

/-- The transaction that a task is about to record. -/
def bill? : Work → Option Transaction
  | .spend _ run => run.bill?
  | _ => none

/-- The ledger and the key that a task found free. -/
def claim? : Work → Option (Uuid × IdempotencyKey)
  | .spend _ run => run.claim?
  | _ => none

/-- A task that is not at work has no claim. -/
theorem claim?_of_isAtRest {w : Work} (h : w.isAtRest = true) : w.claim? = none := by
  unfold isAtRest at h
  split at h
  · rfl
  · rfl
  · rfl
  · rfl
  · cases h

/-- The identifiers that a task has drawn and not stored yet. -/
def names : Work → List Uuid
  | .spend _ run => (run.bill?.map Transaction.uuid).toList
  | .provide _ (.registering x _) => [x.ledgerUuid]
  | _ => []

end Work

/-- What the tasks share, what each is at, and the enrollments granted so far. -/
structure System where
  shared : Shared
  work : Nat → Work
  fulfilled : List Fulfillment

namespace System

/-- Nothing stored, and no task has started. -/
def start : System := ⟨⟨.empty, .empty⟩, fun _ => .idle, []⟩

/-- The store. -/
def store (c : System) : Store := c.shared.store

/-- The locks. -/
def locks (c : System) : Locks := c.shared.locks

/-- An identifier that is neither stored nor held by a task. -/
def Fresh (c : System) (u : Uuid) : Prop :=
  c.store.transactions.get? u = none ∧ c.store.ledgers.get? u = none ∧ ∀ p, u ∉ (c.work p).names

/-- The system after task `p` came to `w` and left `shared` behind. -/
def update (c : System) (p : Nat) (shared : Shared) (w : Work) : System :=
  { c with shared, work := Function.update c.work p w }

/-- The system after an enrollment was granted, if one was. -/
def granting (c : System) (f : Option Fulfillment) : System :=
  { c with fulfilled := c.fulfilled ++ f.toList }

end System

/-- **A step of a spend or a reversal**, or the arrival of one. -/
inductive WorkStep : System → System → Prop
  | spendArrives {c : System} {p : Nat} (cmd : SpendCommand) (hw : c.work p = .idle) :
      WorkStep c (c.update p c.shared (.spend cmd (.arrived cmd)))
  | reverseArrives {c : System} {p : Nat} (u : Uuid) (hw : c.work p = .idle) :
      WorkStep c (c.update p c.shared (.reverse u (.arrived u)))
  | spend {c : System} {p : Nat} {cmd : SpendCommand} {run run' : SpendRun} {input : StepInput}
      {shared : Shared} (hw : c.work p = .spend cmd run)
      (fresh : ∀ u ∈ run.draws input, c.Fresh u)
      (h : run.step p c.shared input = some (shared, run')) :
      WorkStep c ((c.update p shared (.spend cmd run')).granting (run.fulfillment? p input))
  | reverse {c : System} {p : Nat} {u : Uuid} {run run' : ReverseRun} {stamp : Stamp}
      {shared : Shared} (hw : c.work p = .reverse u run)
      (h : run.step p c.shared stamp = some (shared, run')) :
      WorkStep c (c.update p shared (.reverse u run'))

/-- **A step of a provision**, or the arrival of one. -/
inductive ProvisionStep : System → System → Prop
  | arrives {c : System} {p : Nat} (new : NewSubsidy) (hw : c.work p = .idle) :
      ProvisionStep c (c.update p c.shared (.provide new (.arrived new)))
  | step {c : System} {p : Nat} {new : NewSubsidy} {run run' : ProvisionRun}
      {stamp : ProvisionStamp} {store : Store} (hw : c.work p = .provide new run)
      (fresh : ∀ u ∈ run.draws stamp, c.Fresh u)
      (h : run.step c.store stamp = some (store, run')) :
      ProvisionStep c (c.update p { c.shared with store } (.provide new run'))

/-- **A step of any task.** -/
def Step (c d : System) : Prop := WorkStep c d ∨ ProvisionStep c d

namespace System

@[simp] theorem update_store (c : System) (p : Nat) (shared : Shared) (w : Work) :
    (c.update p shared w).store = shared.store := rfl

@[simp] theorem update_locks (c : System) (p : Nat) (shared : Shared) (w : Work) :
    (c.update p shared w).locks = shared.locks := rfl

@[simp] theorem update_work_self (c : System) (p : Nat) (shared : Shared) (w : Work) :
    (c.update p shared w).work p = w := Function.update_self ..

theorem update_work_of_ne (c : System) {p q : Nat} (h : q ≠ p) (shared : Shared) (w : Work) :
    (c.update p shared w).work q = c.work q := Function.update_of_ne h ..

@[simp] theorem update_fulfilled (c : System) (p : Nat) (shared : Shared) (w : Work) :
    (c.update p shared w).fulfilled = c.fulfilled := rfl

/-- Of two updates of one task the later one counts. -/
@[simp] theorem update_update (c : System) (p : Nat) (s s' : Shared) (w w' : Work) :
    (c.update p s w).update p s' w' = c.update p s' w' := by
  simp [update]

theorem Fresh.update {c : System} {u : Uuid} (h : c.Fresh u) {p : Nat} {shared : Shared} {w : Work}
    (hs : shared.store.transactions.get? u = none) (hl : shared.store.ledgers.get? u = none)
    (hw : u ∉ w.names) : (c.update p shared w).Fresh u := by
  refine ⟨hs, hl, fun q => ?_⟩
  by_cases hq : q = p
  · rw [hq, update_work_self]
    exact hw
  · rw [c.update_work_of_ne hq]
    exact h.2.2 q

theorem fresh_start (u : Uuid) : start.Fresh u := ⟨rfl, rfl, fun _ => List.not_mem_nil⟩

@[simp] theorem granting_store (c : System) (f : Option Fulfillment) :
    (c.granting f).store = c.store := rfl

@[simp] theorem granting_locks (c : System) (f : Option Fulfillment) :
    (c.granting f).locks = c.locks := rfl

@[simp] theorem granting_work (c : System) (f : Option Fulfillment) :
    (c.granting f).work = c.work := rfl

theorem Fresh.granting {c : System} {u : Uuid} (h : c.Fresh u) (f : Option Fulfillment) :
    (c.granting f).Fresh u := h

@[simp] theorem granting_none (c : System) : c.granting none = c := by
  simp [granting]

/-! ## A task alone -/

/-- A spend that was updated last goes on from there. -/
theorem workStep_update (p : Nat) {c : System} {cmd : SpendCommand} {shared shared' : Shared}
    {run : SpendRun} (input : StepInput) (run' : SpendRun)
    (fresh : ∀ u ∈ run.draws input, (c.update p shared (.spend cmd run)).Fresh u)
    (h : run.step p shared input = some (shared', run')) :
    WorkStep (c.update p shared (.spend cmd run))
      ((c.update p shared' (.spend cmd run')).granting (run.fulfillment? p input)) := by
  have hstep := WorkStep.spend (update_work_self ..) fresh h
  rwa [update_update] at hstep

/-- A step that asks for no enrollment grants none. -/
theorem workStep_update_of_silent (p : Nat) {c : System} {cmd : SpendCommand}
    {shared shared' : Shared} {run : SpendRun} (input : StepInput) (run' : SpendRun)
    (hsilent : run.fulfillment? p input = none)
    (fresh : ∀ u ∈ run.draws input, (c.update p shared (.spend cmd run)).Fresh u)
    (h : run.step p shared input = some (shared', run')) :
    WorkStep (c.update p shared (.spend cmd run)) (c.update p shared' (.spend cmd run')) := by
  have hstep := workStep_update p input run' fresh h
  rwa [hsilent, granting_none] at hstep

/-- A reversal that was updated last goes on from there. -/
theorem workStep_update_reverse (p : Nat) {c : System} {u : Uuid} {shared shared' : Shared}
    {run : ReverseRun} (stamp : Stamp) (run' : ReverseRun)
    (h : run.step p shared stamp = some (shared', run')) :
    WorkStep (c.update p shared (.reverse u run)) (c.update p shared' (.reverse u run')) := by
  have hstep := WorkStep.reverse (update_work_self c p shared (.reverse u run)) h
  rwa [update_update] at hstep

theorem provisionStep_update {c : System} {p : Nat} {store store' : Store} {new : NewSubsidy}
    {run run' : ProvisionRun} (stamp : ProvisionStamp)
    (fresh : ∀ u ∈ run.draws stamp,
      (c.update p { c.shared with store } (.provide new run)).Fresh u)
    (h : run.step store stamp = some (store', run')) :
    ProvisionStep (c.update p { c.shared with store } (.provide new run))
      (c.update p { c.shared with store := store' } (.provide new run')) := by
  have hstep := ProvisionStep.step (update_work_self ..) fresh h
  rwa [update_update] at hstep

/-- First nothing but provisions, then nothing but spends and reversals. -/
theorem steps_of_provided {c d : System} (hprovided : ReflTransGen ProvisionStep start c)
    (hspent : ReflTransGen WorkStep c d) : ReflTransGen Step start d :=
  (ReflTransGen.mono (fun _ _ => .inr) _ _ hprovided).trans
    (ReflTransGen.mono (fun _ _ => .inl) _ _ hspent)

/-- **A provision that nobody gets in the way of is the undivided call.** -/
theorem steps_provide {c : System} {p : Nat} (hw : c.work p = .idle) (new : NewSubsidy)
    {stamp : ProvisionStamp} (hledger : c.Fresh stamp.ledger)
    (hdeposit : c.Fresh stamp.deposit.uuid) (hne : stamp.deposit.uuid ≠ stamp.ledger) :
    ReflTransGen ProvisionStep c
      (c.update p { c.shared with store := (c.store.createSubsidy new stamp).2 }
        (.provide new (.finished (c.store.createSubsidy new stamp).1))) := by
  have harrives : ReflTransGen ProvisionStep c
      (c.update p { c.shared with store := c.store } (.provide new (.arrived new))) :=
    .single (.arrives new hw)
  have hfresh : ∀ u ∈ (ProvisionRun.arrived new).draws stamp,
      (c.update p { c.shared with store := c.store } (.provide new (.arrived new))).Fresh u := by
    intro u hu
    obtain rfl := List.mem_singleton.mp hu
    exact hledger.update hledger.1 hledger.2.1 List.not_mem_nil
  unfold Store.createSubsidy
  cases hc : Store.checkNew new with
  | error e =>
    exact harrives.tail (provisionStep_update stamp hfresh (by simp [ProvisionRun.step, hc]))
  | ok _ =>
    have haccepted := harrives.tail (provisionStep_update stamp hfresh
      (show _ = some (c.store, .registering (Store.subsidyOf new stamp) new.startingBalance) by
        simp [ProvisionRun.step, hc]))
    rcases c.store.register_cases (Store.subsidyOf new stamp) with ⟨e, he⟩ | ⟨-, he⟩
    · simp only [he]
      exact haccepted.tail (provisionStep_update stamp (fun u hu => absurd hu List.not_mem_nil)
        (by simp [ProvisionRun.step, he]))
    · simp only [he]
      have hentered := haccepted.tail (provisionStep_update stamp
        (fun u hu => absurd hu List.not_mem_nil)
        (show _ = some (c.store.entered (Store.subsidyOf new stamp),
          .opening (Store.subsidyOf new stamp) new.startingBalance) by
          simp [ProvisionRun.step, he]))
      -- the deposit is still to be drawn, and has not the identifier of the ledger that is now there
      have hfresh' : (c.update p
          { c.shared with store := c.store.entered (Store.subsidyOf new stamp) }
          (.provide new (.opening (Store.subsidyOf new stamp) new.startingBalance))).Fresh
            stamp.deposit.uuid :=
        hdeposit.update hdeposit.1 ((Table.get?_insert_of_ne _ hne _).trans hdeposit.2.1)
          List.not_mem_nil
      cases ho : (c.store.entered (Store.subsidyOf new stamp)).openLedger
          (Store.subsidyOf new stamp).uuid new.startingBalance stamp.deposit with
      | mk result store =>
        refine hentered.tail ?_
        have hopening : ∀ u ∈ (ProvisionRun.opening (Store.subsidyOf new stamp)
            new.startingBalance).draws stamp, _ := fun u hu => by
          obtain rfl := List.mem_singleton.mp hu
          exact hfresh'
        cases result with
        | error e => exact provisionStep_update stamp hopening (by simp [ProvisionRun.step, ho])
        | ok t => exact provisionStep_update stamp hopening (by simp [ProvisionRun.step, ho])

section Unhindered

variable {c : System} {p lock : Nat} {locks : Locks} {x : Subsidy}

/-- **A spend that finds its lock free takes it.** -/
theorem steps_checking (hw : c.work p = .idle) {cmd : SpendCommand}
    (hx : c.store.subsidy? cmd.subsidy = some x) (hfetch : c.locks.fetch x.uuid = (lock, locks))
    (hfree : locks.holders.get? lock = none) :
    ReflTransGen WorkStep c
      (c.update p (Shared.taken ⟨c.store, locks⟩ lock p) (.spend cmd (.checking cmd x lock))) := by
  have harrived : ReflTransGen WorkStep c (c.update p c.shared (.spend cmd (.arrived cmd))) :=
    .single (.spendArrives cmd hw)
  have hlocated := harrived.tail (workStep_update_of_silent p (.proceed default) (.located cmd x) rfl
    nofun (SpendRun.step_located hx default))
  have hfetched : SpendRun.step p c.shared (.located cmd x) (.proceed default) =
      some (⟨c.store, locks⟩, .waiting cmd x lock) := by
    rw [SpendRun.step, show c.shared.locks.fetch x.uuid = _ from hfetch]
    rfl
  have hwaiting := hlocated.tail (workStep_update_of_silent p (.proceed default)
    (.waiting cmd x lock) rfl nofun hfetched)
  exact hwaiting.tail (workStep_update_of_silent p (.proceed default) (.checking cmd x lock) rfl
    nofun (SpendRun.step_acquired hfree default))

/-- **A spend that nobody refuses comes to record its transaction**: its key is free, the
balance covers the price, and the enrollment is granted. -/
theorem steps_recording {cmd : SpendCommand} {key : IdempotencyKey} {quantity balance : Int}
    (price : String) (stamp : Stamp) (reference : String) (now : Timestamp)
    (hkey : cmd.resolveKey x.ledgerUuid = key)
    (hmissed : c.store.findByKey x.ledgerUuid key = none)
    (hprice : SpendRun.debitOfText x.unit price = .ok quantity)
    (hbalance : c.store.balance x.ledgerUuid = .ok balance) (hcovered : ¬ balance + quantity < 0)
    (hfresh : c.Fresh stamp.uuid) :
    ReflTransGen WorkStep
      (c.update p ⟨c.store, locks⟩ (.spend cmd (.checking cmd x lock)))
      ((c.update p ⟨c.store, locks⟩ (.spend cmd (.recording lock
          { SpendRun.pendingTransaction cmd x key quantity stamp with
            state := .committed, modified := now, referenceId := some reference,
            referenceType := some enrollmentReferenceType }))).granting
        (SpendRun.fulfillment? p
          (.enrolling cmd x lock (SpendRun.pendingTransaction cmd x key quantity stamp))
          (.enrolled (.ok reference) now))) := by
  subst hkey
  have hpricing : ReflTransGen WorkStep
      (c.update p ⟨c.store, locks⟩ (.spend cmd (.checking cmd x lock))) _ :=
    .single (workStep_update_of_silent p (.proceed default)
      (.pricing cmd x lock (cmd.resolveKey x.ledgerUuid)) rfl nofun
      (SpendRun.step_missed (s := ⟨c.store, locks⟩) hmissed default))
  have hweighing := hpricing.tail (workStep_update_of_silent p (.priced (.ok price))
    (.weighing cmd x lock (cmd.resolveKey x.ledgerUuid) quantity) rfl nofun (SpendRun.step_priced hprice))
  have hdraws : ∀ u ∈ (SpendRun.weighing cmd x lock (cmd.resolveKey x.ledgerUuid) quantity).draws
      (.proceed stamp), (c.update p ⟨c.store, locks⟩ (.spend cmd
        (.weighing cmd x lock (cmd.resolveKey x.ledgerUuid) quantity))).Fresh u := by
    intro u hu
    obtain rfl := List.mem_singleton.mp hu
    exact hfresh.update hfresh.1 hfresh.2.1 List.not_mem_nil
  have henrolling := hweighing.tail (workStep_update_of_silent p (.proceed stamp)
    (.enrolling cmd x lock _) rfl hdraws
    (SpendRun.step_covered (s := ⟨c.store, locks⟩) hbalance hcovered stamp))
  exact henrolling.tail (workStep_update p (.enrolled (.ok reference) now) (.recording lock _) nofun
    (SpendRun.step_fulfilled (Transaction.commit_of_created rfl)))

/-- **A reversal that finds its lock free is the undivided call.** -/
theorem steps_reverse (hw : c.work p = .idle) {u : Uuid} {t : Transaction} (stamp : Stamp)
    (ht : c.store.transaction? u = some t) (hx : c.store.subsidyOfLedger? t.ledgerUuid = some x)
    (hfetch : c.locks.fetch x.uuid = (lock, locks)) (hfree : locks.holders.get? lock = none) :
    ReflTransGen WorkStep c
      (c.update p ((Shared.taken ⟨(c.store.reverse u stamp).2, locks⟩ lock p).released lock)
        (.reverse u (.finished ((c.store.reverse u stamp).1.mapError .ledger)))) := by
  have harrived : ReflTransGen WorkStep c (c.update p c.shared (.reverse u (.arrived u))) :=
    .single (.reverseArrives u hw)
  have hlocated := (harrived.tail
    (workStep_update_reverse p stamp (.found u t) (ReverseRun.step_found ht stamp))).tail
    (workStep_update_reverse p stamp (.located u x) (ReverseRun.step_located hx stamp))
  have hfetched : ReverseRun.step p c.shared (.located u x) stamp =
      some (⟨c.store, locks⟩, .waiting u lock) := by
    rw [ReverseRun.step, show c.shared.locks.fetch x.uuid = _ from hfetch]
    rfl
  have hwaiting := hlocated.tail (workStep_update_reverse p stamp (.waiting u lock) hfetched)
  have hreversing := hwaiting.tail
    (workStep_update_reverse p stamp (.reversing u lock) (ReverseRun.step_acquired hfree stamp))
  exact hreversing.tail (workStep_update_reverse p stamp _ (ReverseRun.step_reversing stamp))

end Unhindered

end System
end Bursar
