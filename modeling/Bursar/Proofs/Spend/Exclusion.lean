import Bursar.Proofs.Spend.Locks
import Bursar.Proofs.Spend.Soundness

/-!
# One task at a time on a ledger

A spend looks for its key, has two collaborators answer, and records its
transaction, all under the lock of its subsidy; a reversal takes the same lock.
`Work.Placed` says for every station of a run which subsidy it is about and that
the lock is that subsidy's. It stays true while others make their steps, because
subsidies, locks and transactions do not go away (`Shared.Grows`).
`System.Guarded` adds that a lock which a task holds is entered under that task.

Since a ledger has one subsidy and a subsidy one lock, **no two tasks hold the
lock of one ledger** (`Guarded.exclusive`).
-/

namespace Bursar

/-- `lock` is the lock of the subsidy `x`. -/
def Shared.LockOf (s : Shared) (x : Subsidy) (lock : Nat) : Prop :=
  s.store.subsidies.get? x.uuid = some x ∧ s.locks.lockOf.get? x.uuid = some lock

/-- The transaction `t` pays for the command `cmd` out of `x`: it is on the ledger of `x`,
under the key that the command is carried out under. -/
structure SpendCommand.Bills (cmd : SpendCommand) (x : Subsidy) (t : Transaction) : Prop where
  ledger : t.ledgerUuid = x.ledgerUuid
  key : t.key = cmd.resolveKey x.ledgerUuid
  unit : t.unit = x.unit

/-- What is true of a spend for `cmd` at each station: the subsidy is the one that the
command names, and the lock is that subsidy's. -/
def SpendRun.Placed (s : Shared) (cmd : SpendCommand) : SpendRun → Prop
  | .arrived k => k = cmd
  | .located k x => k = cmd ∧ x.uuid = cmd.subsidy ∧ s.store.subsidies.get? x.uuid = some x
  | .waiting k x lock | .checking k x lock => k = cmd ∧ x.uuid = cmd.subsidy ∧ s.LockOf x lock
  | .pricing k x lock key | .weighing k x lock key _ =>
    k = cmd ∧ x.uuid = cmd.subsidy ∧ s.LockOf x lock ∧ key = cmd.resolveKey x.ledgerUuid
  | .enrolling k x lock t =>
    k = cmd ∧ x.uuid = cmd.subsidy ∧ s.LockOf x lock ∧ cmd.Bills x t ∧ t.state = .created
  | .recording lock t =>
    ∃ x, x.uuid = cmd.subsidy ∧ s.LockOf x lock ∧ cmd.Bills x t ∧ t.state = .committed
  | .finished _ => True

/-- What is true of a reversal at each station: the transaction is stored, and the
subsidy is that of its ledger. -/
def ReverseRun.Placed (s : Shared) : ReverseRun → Prop
  | .arrived _ | .finished _ => True
  | .found u t => ∃ t', s.store.transactions.get? u = some t' ∧ t'.ledgerUuid = t.ledgerUuid
  | .located u x => ∃ t, s.store.transactions.get? u = some t ∧ t.ledgerUuid = x.ledgerUuid ∧
      s.store.subsidies.get? x.uuid = some x
  | .waiting u lock | .reversing u lock => ∃ t x, s.store.transactions.get? u = some t ∧
      t.ledgerUuid = x.ledgerUuid ∧ s.LockOf x lock

/-- What is true of a task at its station. -/
def Work.Placed (s : Shared) : Work → Prop
  | .spend cmd run => run.Placed s cmd
  | .reverse _ run => run.Placed s
  | .idle | .provide _ _ => True

/-! ## What does not go away -/

/-- The subsidies, the locks and the transactions of `s` are still there in `s'`. -/
structure Shared.Grows (s s' : Shared) : Prop where
  subsidies : ∀ {u x}, s.store.subsidies.get? u = some x → s'.store.subsidies.get? u = some x
  lockOf : ∀ {u lock}, s.locks.lockOf.get? u = some lock → s'.locks.lockOf.get? u = some lock
  keeps : s.store.Keeps s'.store

namespace Shared.Grows

variable {s s' : Shared}

theorem of_same_store (hs : s'.store = s.store)
    (hl : ∀ {u lock}, s.locks.lockOf.get? u = some lock → s'.locks.lockOf.get? u = some lock) :
    s.Grows s' :=
  ⟨fun hx => by rw [hs]; exact hx, hl, Store.keeps_of_eq (by rw [hs])⟩

theorem refl (s : Shared) : s.Grows s := of_same_store rfl id

theorem lock (h : s.Grows s') {x : Subsidy} {lock : Nat} (hx : s.LockOf x lock) :
    s'.LockOf x lock :=
  ⟨h.subsidies hx.1, h.lockOf hx.2⟩

/-- A stored transaction is still there, on the same ledger. -/
theorem stored (h : s.Grows s') {u : Uuid} {t : Transaction}
    (ht : s.store.transactions.get? u = some t) :
    ∃ t', s'.store.transactions.get? u = some t' ∧ t'.ledgerUuid = t.ledgerUuid := by
  obtain ⟨t', ht', hb⟩ := h.keeps ht
  exact ⟨t', ht', hb.ledgerUuid_eq⟩

theorem spendPlaced (h : s.Grows s') {cmd : SpendCommand} {run : SpendRun}
    (hr : run.Placed s cmd) : run.Placed s' cmd := by
  cases run with
  | arrived | finished => exact hr
  | located => exact ⟨hr.1, hr.2.1, h.subsidies hr.2.2⟩
  | waiting | checking => exact ⟨hr.1, hr.2.1, h.lock hr.2.2⟩
  | pricing | weighing | enrolling => exact ⟨hr.1, hr.2.1, h.lock hr.2.2.1, hr.2.2.2⟩
  | recording =>
    obtain ⟨x, hx, hl, hrest⟩ := hr
    exact ⟨x, hx, h.lock hl, hrest⟩

theorem reversePlaced (h : s.Grows s') {run : ReverseRun} (hr : run.Placed s) : run.Placed s' := by
  cases run with
  | arrived | finished => trivial
  | found u t =>
    obtain ⟨t₀, ht₀, hl⟩ := hr
    obtain ⟨t', ht', hl'⟩ := h.stored ht₀
    exact ⟨t', ht', hl'.trans hl⟩
  | located u x =>
    obtain ⟨t₀, ht₀, hl, hx⟩ := hr
    obtain ⟨t', ht', hl'⟩ := h.stored ht₀
    exact ⟨t', ht', hl'.trans hl, h.subsidies hx⟩
  | waiting u lock | reversing u lock =>
    obtain ⟨t₀, x, ht₀, hl, hx⟩ := hr
    obtain ⟨t', ht', hl'⟩ := h.stored ht₀
    exact ⟨t', x, ht', hl'.trans hl, h.lock hx⟩

/-- What is true of a task at its station stays true while others make their steps. -/
theorem placed (h : s.Grows s') {w : Work} (hw : w.Placed s) : w.Placed s' := by
  cases w with
  | idle | provide => trivial
  | spend cmd run => exact h.spendPlaced hw
  | reverse u run => exact h.reversePlaced hw

end Shared.Grows

/-! ## Steps of a spend -/

namespace SpendRun.Move

variable {p : Nat} {s s' : Shared} {run run' : SpendRun} {input : StepInput}

theorem grows (hm : Move p s run input s' run')
    (h : ∀ {lock}, run.lock? = some lock → s.locks.holders.get? lock = some p)
    (hb : ∀ {t}, run.bill? = some t → s.store.transactions.get? t.uuid = none) : s.Grows s' := by
  rcases hm.store_cases with he | ⟨lock, t, l, rfl, -, he⟩
  · exact .of_same_store he (hm.locks_change h).lockOf
  · refine ⟨?_, (hm.locks_change h).lockOf, ?_⟩
    · rw [he]
      exact id
    · rw [he]
      exact Store.keeps_recorded (hb rfl)

theorem placed (hm : Move p s run input s' run') (hs : s.store.Coherent) {cmd : SpendCommand}
    (hr : run.Placed s cmd) : run'.Placed s' cmd := by
  cases hm with
  | lost | replayed | unsettled | recorded | refused | gaveUp => trivial
  | located h =>
    obtain rfl := hr
    have hx := hs.subsidy_uuid_eq h
    exact ⟨rfl, hx, by rw [hx]; exact h⟩
  | fetched => exact ⟨hr.1, hr.2.1, hr.2.2, Locks.lockOf_fetch_self ..⟩
  | acquired h =>
    obtain ⟨-, rfl⟩ := Locks.acquire_eq_some h
    exact hr
  | missed =>
    obtain ⟨rfl, hrest⟩ := hr
    exact ⟨rfl, hrest.1, hrest.2, rfl⟩
  | priced => exact hr
  | covered =>
    obtain ⟨rfl, hx, hl, hk⟩ := hr
    exact ⟨rfl, hx, hl, ⟨rfl, hk, rfl⟩, rfl⟩
  | fulfilled h =>
    obtain ⟨-, rfl⟩ := Transaction.commit_eq_ok h
    obtain ⟨-, hx, hl, hb, -⟩ := hr
    exact ⟨_, hx, hl, ⟨hb.ledger, hb.key, hb.unit⟩, rfl⟩

theorem holder (hm : Move p s run input s' run')
    (h : ∀ {lock}, run.lock? = some lock → s.locks.holders.get? lock = some p) {lock : Nat}
    (hl : run'.lock? = some lock) : s'.locks.holders.get? lock = some p := by
  cases hm with
  | lost | located | fetched | replayed | unsettled | recorded | refused | gaveUp => cases hl
  | acquired ha =>
    obtain ⟨-, rfl⟩ := Locks.acquire_eq_some ha
    obtain rfl := Option.some.inj hl
    exact Table.get?_insert_self ..
  | missed | priced | covered | fulfilled => exact h hl

end SpendRun.Move

/-! ## Steps of a reversal -/

namespace ReverseRun.Move

variable {p : Nat} {s s' : Shared} {run run' : ReverseRun} {stamp : Stamp}

theorem grows (hm : Move p s run stamp s' run')
    (h : ∀ {lock}, run.lock? = some lock → s.locks.holders.get? lock = some p) : s.Grows s' := by
  rcases hm.store_cases with he | ⟨u, lock, t, rfl, ht, he⟩
  · exact .of_same_store he (hm.locks_change h).lockOf
  · refine ⟨?_, (hm.locks_change h).lockOf, ?_⟩
    · rw [he]
      exact id
    · rw [he]
      exact Store.keeps_reversed ht stamp

theorem placed (hm : Move p s run stamp s' run') (hs : s.store.Coherent) (hr : run.Placed s) :
    run'.Placed s' := by
  cases hm with
  | lost | reversed => trivial
  | found h => exact ⟨_, h, rfl⟩
  | located h =>
    obtain ⟨t, ht, hl⟩ := hr
    obtain ⟨hx, hxl⟩ := hs.subsidyOfLedger?_eq_some_iff.mp h
    exact ⟨t, ht, hl.trans hxl.symm, hx⟩
  | fetched =>
    obtain ⟨t, ht, hl, hx⟩ := hr
    exact ⟨t, _, ht, hl, hx, Locks.lockOf_fetch_self ..⟩
  | acquired h =>
    obtain ⟨-, rfl⟩ := Locks.acquire_eq_some h
    exact hr

theorem holder (hm : Move p s run stamp s' run') {lock : Nat} (hl : run'.lock? = some lock) :
    s'.locks.holders.get? lock = some p := by
  cases hm with
  | lost | found | located | fetched | reversed => cases hl
  | acquired ha =>
    obtain ⟨-, rfl⟩ := Locks.acquire_eq_some ha
    obtain rfl := Option.some.inj hl
    exact Table.get?_insert_self ..

end ReverseRun.Move

/-! ## The whole system -/

namespace System

/-- Task `p` holds the lock of the ledger's subsidy. -/
def Holds (c : System) (p : Nat) (ledger : Uuid) : Prop :=
  ∃ x lock, (c.work p).lock? = some lock ∧ c.shared.LockOf x lock ∧ x.ledgerUuid = ledger

/-- **The locks do their work**: every task is placed, and a lock that a task holds is
entered under that task. -/
structure Guarded (c : System) : Prop where
  placed : ∀ p, (c.work p).Placed c.shared
  holder : ∀ {p lock}, (c.work p).lock? = some lock → c.locks.holders.get? lock = some p

namespace Guarded

variable {c : System} {p : Nat}

theorem update (h : c.Guarded) {shared : Shared} {w : Work} (hg : c.shared.Grows shared)
    (hown : w.Placed shared)
    (hself : ∀ {lock}, w.lock? = some lock → shared.locks.holders.get? lock = some p)
    (hothers : ∀ {q lock}, q ≠ p → c.locks.holders.get? lock = some q →
      shared.locks.holders.get? lock = some q) : (c.update p shared w).Guarded := by
  constructor
  · intro q
    by_cases hq : q = p
    · rw [hq, update_work_self]
      exact hown
    · rw [c.update_work_of_ne hq]
      exact hg.placed (h.placed q)
  · intro q lock hl
    by_cases hq : q = p
    · rw [hq, update_work_self] at hl
      rw [hq]
      exact hself hl
    · rw [c.update_work_of_ne hq] at hl
      exact hothers hq (h.holder hl)

theorem granting (h : c.Guarded) (f : Option Fulfillment) : (c.granting f).Guarded :=
  ⟨h.placed, h.holder⟩

/-- **Every step of a spend or a reversal keeps the system guarded.** -/
theorem step {d : System} (h : c.Guarded) (hs : c.Sound) (hstep : WorkStep c d) : d.Guarded := by
  cases hstep with
  | spendArrives cmd hw => exact h.update (.refl _) rfl nofun fun _ hl => hl
  | reverseArrives u hw => exact h.update (.refl _) trivial nofun fun _ hl => hl
  | @spend q cmd run run' input shared hw fresh hstep =>
    have hm := SpendRun.move_of_step hstep
    have hplaced : run.Placed c.shared cmd := by
      have := h.placed q
      rwa [hw] at this
    have hholder {lock : Nat} (hl : run.lock? = some lock) :
        c.shared.locks.holders.get? lock = some q := h.holder (by rw [hw]; exact hl)
    have hd : (c.update q shared (.spend cmd run')).Guarded :=
      h.update (hm.grows hholder fun hb => (hs.bill hw hb).1.1)
        (hm.placed hs.store.toCoherent hplaced) (hm.holder hholder) (hm.locks_change hholder).others
    exact hd.granting _
  | @reverse q u run run' stamp shared hw hstep =>
    have hm := ReverseRun.move_of_step hstep
    have hplaced : run.Placed c.shared := by
      have := h.placed q
      rwa [hw] at this
    have hholder {lock : Nat} (hl : run.lock? = some lock) :
        c.shared.locks.holders.get? lock = some q := h.holder (by rw [hw]; exact hl)
    exact h.update (hm.grows hholder) (hm.placed hs.store.toCoherent hplaced) hm.holder
      (hm.locks_change hholder).others

/-- **No two tasks hold the lock of one ledger.** -/
theorem exclusive (h : c.Guarded) (hs : c.store.Coherent) {q : Nat} {ledger : Uuid}
    (hp : c.Holds p ledger) (hq : c.Holds q ledger) : p = q := by
  obtain ⟨x, n, hn, ⟨hx, hxn⟩, hxl⟩ := hp
  obtain ⟨y, m, hm, ⟨hy, hym⟩, hyl⟩ := hq
  -- one subsidy for the ledger, one lock for the subsidy, one task for the lock
  obtain rfl := hs.ledger_injective hx hy (hxl.trans hyl.symm)
  obtain rfl := Option.some.inj (hxn.symm.trans hym)
  exact Option.some.inj ((h.holder hn).symm.trans (h.holder hm))

/-- A task that found a key free holds the lock of the ledger. -/
theorem holds_of_claim (h : c.Guarded) {ledger : Uuid} {key : IdempotencyKey}
    (hc : (c.work p).claim? = some (ledger, key)) : c.Holds p ledger := by
  have hp := h.placed p
  unfold Holds
  cases hw : c.work p with
  | idle | reverse | provide => simp [hw, Work.claim?] at hc
  | spend cmd run =>
    rw [hw] at hp hc
    cases run with
    | arrived | located | waiting | checking | finished => cases hc
    | pricing k x lock key' | weighing k x lock key' quantity =>
      obtain ⟨rfl, rfl⟩ := Prod.mk.inj (Option.some.inj hc)
      exact ⟨x, lock, rfl, hp.2.2.1, rfl⟩
    | enrolling k x lock t =>
      obtain ⟨rfl, rfl⟩ := Prod.mk.inj (Option.some.inj hc)
      exact ⟨x, lock, rfl, hp.2.2.1, hp.2.2.2.1.ledger.symm⟩
    | recording lock t =>
      obtain ⟨rfl, rfl⟩ := Prod.mk.inj (Option.some.inj hc)
      obtain ⟨x, -, hl, hb, -⟩ := hp
      exact ⟨x, lock, rfl, hl, hb.ledger.symm⟩

/-- So does a task that is about to record a transaction there. -/
theorem holds_of_bill (h : c.Guarded) {t : Transaction} (ht : (c.work p).bill? = some t) :
    c.Holds p t.ledgerUuid := by
  have hclaim : (c.work p).claim? = some (t.ledgerUuid, t.key) := by
    revert ht
    cases c.work p with
    | idle | reverse | provide => nofun
    | spend cmd run => exact SpendRun.claim?_of_bill?
  exact h.holds_of_claim hclaim

/-- A task that is about to reverse a transaction holds the lock of its ledger. -/
theorem holds_of_reversing (h : c.Guarded) {u v : Uuid} {lock : Nat} {t : Transaction}
    (hw : c.work p = .reverse v (.reversing u lock))
    (ht : c.store.transactions.get? u = some t) : c.Holds p t.ledgerUuid := by
  have hp := h.placed p
  rw [hw] at hp
  obtain ⟨t', x, ht', hl, hx⟩ := hp
  obtain rfl := Option.some.inj (ht.symm.trans ht')
  exact ⟨x, lock, by rw [hw]; rfl, hx, hl.symm⟩

end Guarded
end System
end Bursar
