import Bursar.Proofs.Ledger.Balance
import Bursar.Proofs.Ledger.Key

/-!
# Histories of the store

A history is any sequence of calls that write to a store, each with any arguments
and any outcome. Providing a subsidy is one call that changes the store twice;
since others may come in between, its first half counts as a write of its own, and
the second half is the call that opens a ledger. Identifiers are drawn by the
program, and a drawn one is never in use; nor is that of an appended transaction,
which is made with a drawn identifier and without a reversal.

Every store with a history is sound (`Sound.of_reachable`): its records and indexes
agree, each reversal takes back exactly its transaction, and no ledger is
overdrawn. What the agreement means for the one who looks something up is said
in `lookups_agree`.
-/

namespace Bursar

/-- The identifier that repeats one digit. -/
def Uuid.filled (n : Nat) : Uuid := ⟨List.replicate 32 (Text.lastHex n), List.length_replicate⟩

namespace Store

/-- **Reversals mirror their transactions.** An attached reversal is the one that the
store makes for the transaction. -/
def Mirrored (s : Store) : Prop :=
  ∀ {u t r}, s.transactions.get? u = some t → t.reversal = some r → ∃ stamp, r = .of t stamp

/-- **What every call keeps.** -/
structure Sound (s : Store) : Prop extends Coherent s where
  mirrored : s.Mirrored
  solvent : s.Solvent

theorem sound_empty : empty.Sound where
  toCoherent := coherent_empty
  mirrored := by simp [Mirrored, empty]
  solvent := solvent_empty

namespace Sound

variable {s : Store}

/-! ## The changes -/

theorem entered (h : s.Sound) {x : Subsidy} (hx : s.subsidies.get? x.uuid = none)
    (hl : s.ledgers.get? x.ledgerUuid = none) : (s.entered x).Sound where
  toCoherent := h.toCoherent.entered hx hl
  mirrored := h.mirrored
  solvent := h.solvent.entered x

theorem marked (h : s.Sound) {uuid : Uuid} {l : Ledger} (hl : s.ledgers.get? uuid = some l) :
    (s.marked uuid l).Sound where
  toCoherent := h.toCoherent.marked hl
  mirrored := h.mirrored
  solvent := h.solvent.marked uuid l

theorem recorded (h : s.Sound) {l : Ledger} {t : Transaction} (ht : s.Admits l t)
    (fresh : s.transactions.get? t.uuid = none) (hr : t.reversal = none)
    (hq : 0 ≤ s.total t.ledgerUuid + t.quantity) : (s.recorded l t).Sound where
  toCoherent := h.toCoherent.recorded ht fresh
  mirrored := by
    intro u t' r ht' hr'
    rcases Table.get?_insert_cases ht' with ⟨-, rfl⟩ | ⟨-, ht'⟩
    · rw [hr] at hr'
      cases hr'
    · exact h.mirrored ht' hr'
  solvent := h.solvent.recorded fresh ht.committed hr hq

theorem reversed (h : s.Sound) {uuid : Uuid} {t : Transaction} (ht : s.Reversible uuid t)
    (hq : 0 ≤ s.total t.ledgerUuid + -t.quantity) (stamp : Stamp) :
    (s.reversed uuid t stamp).Sound where
  toCoherent := h.toCoherent.reversed ht.stored stamp
  mirrored := by
    intro u t' r ht' hr'
    rcases Table.get?_insert_cases ht' with ⟨-, rfl⟩ | ⟨-, ht'⟩
    · exact ⟨stamp, (Option.some.inj hr').symm⟩
    · exact h.mirrored ht' hr'
  solvent := h.solvent.reversed ht hq stamp

/-! ## The calls -/

theorem register (h : s.Sound) {x : Subsidy} (hl : s.ledgers.get? x.ledgerUuid = none) :
    (s.register x).2.Sound := by
  rcases s.register_cases x with ⟨e, he⟩ | ⟨hx, he⟩
  · rw [he]
    exact h
  · rw [he]
    exact h.entered hx hl

/-- The ledger of a subsidy takes its deposit, if the key is free. -/
theorem admits_opening (h : s.Sound) {subsidy : Uuid} {balance : Int} {x : Subsidy} {l : Ledger}
    (ho : s.Openable subsidy balance x l)
    (hk : s.liveKeys.get? (x.ledgerUuid, .ofDeposit x.ledgerUuid) = none) (stamp : Stamp) :
    (s.marked x.ledgerUuid l).Admits { l with isOpen := true } (opening x balance stamp) where
  committed := rfl
  keyed := IdempotencyKey.isEmpty_ofDeposit _
  ledger := Table.get?_insert_self ..
  unit := by
    obtain ⟨l', hl', hunit⟩ := h.ledger_of_subsidy ho.stored
    obtain rfl := Option.some.inj (ho.ledger.symm.trans hl')
    exact hunit
  free := hk

theorem opened (h : s.Sound) {subsidy : Uuid} {balance : Int} {x : Subsidy} {l : Ledger}
    (ho : s.Openable subsidy balance x l)
    (hk : s.liveKeys.get? (x.ledgerUuid, .ofDeposit x.ledgerUuid) = none) {stamp : Stamp}
    (fresh : s.transactions.get? stamp.uuid = none) : (s.opened x l balance stamp).Sound := by
  refine (h.marked ho.ledger).recorded (h.admits_opening ho hk stamp) fresh rfl ?_
  have h₁ := h.solvent x.ledgerUuid
  have h₂ := ho.covered
  change 0 ≤ s.total x.ledgerUuid + balance
  omega

theorem openLedger (h : s.Sound) (subsidy : Uuid) (balance : Int) {stamp : Stamp}
    (fresh : s.transactions.get? stamp.uuid = none) :
    (s.openLedger subsidy balance stamp).2.Sound := by
  rcases s.openLedger_cases subsidy balance stamp with
    ⟨e, he⟩ | ⟨x, l, ho, ⟨e, u, -, he⟩ | ⟨hk, he⟩⟩
  · rw [he]
    exact h
  · rw [he]
    exact h.marked ho.ledger
  · rw [he]
    exact h.opened ho hk fresh

theorem createSubsidy (h : s.Sound) (new : NewSubsidy) {stamp : ProvisionStamp}
    (hl : s.ledgers.get? stamp.ledger = none)
    (ht : s.transactions.get? stamp.deposit.uuid = none) :
    (s.createSubsidy new stamp).2.Sound := by
  unfold Store.createSubsidy
  cases checkNew new with
  | error e => exact h
  | ok _ =>
    have hr := h.register (x := subsidyOf new stamp) hl
    rcases s.register_cases (subsidyOf new stamp) with ⟨e, he⟩ | ⟨hx, he⟩
    · simp only [he]
      exact h
    · -- the second half works on the store that the first one left
      rw [he] at hr
      have ho := hr.openLedger (subsidyOf new stamp).uuid new.startingBalance ht
      simp only [he]
      split
      · rename_i e s' hs'
        rwa [hs'] at ho
      · rename_i d s' hs'
        rwa [hs'] at ho

theorem append (h : s.Sound) {t : Transaction} (fresh : s.transactions.get? t.uuid = none)
    (hr : t.reversal = none) : (s.append t).2.Sound := by
  rcases s.append_cases t with ⟨e, he⟩ | ⟨l, ht, hq, he⟩
  · rw [he]
    exact h
  · rw [he]
    exact h.recorded ht fresh hr (h.covers_of_checkSufficient hq (h.solvent _))

theorem reverse (h : s.Sound) (uuid : Uuid) (stamp : Stamp) : (s.reverse uuid stamp).2.Sound := by
  rcases s.reverse_cases uuid stamp with ⟨e, he⟩ | ⟨t, ht, hq, he⟩
  · rw [he]
    exact h
  · rw [he]
    exact h.reversed ht (h.covers_of_checkSufficient hq (h.solvent _)) stamp

end Sound

/-! ## Histories -/

/-- A call that writes to the store. -/
inductive Write where
  | create (new : NewSubsidy) (stamp : ProvisionStamp)
  /-- The first half of `create`. -/
  | register (x : Subsidy)
  | openLedger (subsidy : Uuid) (balance : Int) (stamp : Stamp)
  | append (t : Transaction)
  | reverse (transaction : Uuid) (stamp : Stamp)

/-- The store after a write, whatever the answer. -/
def after (s : Store) : Write → Store
  | .create new stamp => (s.createSubsidy new stamp).2
  | .register x => (s.register x).2
  | .openLedger subsidy balance stamp => (s.openLedger subsidy balance stamp).2
  | .append t => (s.append t).2
  | .reverse transaction stamp => (s.reverse transaction stamp).2

/-- No identifier that the write brings along is in use, and an appended transaction has
no reversal. -/
def Fresh (s : Store) : Write → Prop
  | .create _ stamp =>
    s.ledgers.get? stamp.ledger = none ∧ s.transactions.get? stamp.deposit.uuid = none
  | .register x => s.ledgers.get? x.ledgerUuid = none
  | .openLedger _ _ stamp => s.transactions.get? stamp.uuid = none
  | .append t => s.transactions.get? t.uuid = none ∧ t.reversal = none
  | .reverse _ _ => True

/-- The stores that writes lead to from the store without records. -/
inductive Reachable : Store → Prop where
  | empty : Reachable empty
  | write {s : Store} (w : Write) : Reachable s → s.Fresh w → Reachable (s.after w)

theorem Sound.after {s : Store} (h : s.Sound) {w : Write} (hw : s.Fresh w) : (s.after w).Sound := by
  cases w with
  | create new stamp => exact h.createSubsidy new hw.1 hw.2
  | register x => exact h.register hw
  | openLedger subsidy balance stamp => exact h.openLedger subsidy balance hw
  | append t => exact h.append hw.1 hw.2
  | reverse transaction stamp => exact h.reverse transaction stamp

theorem Sound.of_reachable {s : Store} (h : Reachable s) : s.Sound := by
  induction h with
  | empty => exact sound_empty
  | write w _ hw ih => exact ih.after hw

/-- **The records and their indexes agree in every store with a history.** Looking up a
key gives the one transaction that holds it, and looking up the subsidy of a
ledger can give only one answer. -/
theorem lookups_agree {s : Store} (h : Reachable s) :
    (s.Ordered ∧ s.Indexed ∧ s.Settled ∧ s.Paired ∧ s.Mirrored) ∧
      (∀ ledger key t, s.findByKey ledger key = some t ↔
        s.transactions.get? t.uuid = some t ∧ t.ledgerUuid = ledger ∧ t.key = key) ∧
      (∀ u v t t', s.transactions.get? u = some t → s.transactions.get? v = some t' →
        t.ledgerUuid = t'.ledgerUuid → t.key = t'.key → t = t') ∧
      (∀ ledger x, s.subsidyOfLedger? ledger = some x ↔
        s.subsidies.get? x.uuid = some x ∧ x.ledgerUuid = ledger) ∧
      ∀ ledger, (s.subsidies.values.filter fun x => x.ledgerUuid = ledger).length ≤ 1 := by
  have hs := Sound.of_reachable h
  refine ⟨⟨hs.toOrdered, hs.toIndexed, hs.toSettled, hs.toPaired, hs.mirrored⟩, ?_, ?_, ?_, ?_⟩
  · exact fun ledger key t => hs.findByKey_eq_some_iff
  · exact fun u v t t' => hs.eq_of_same_key
  · exact fun ledger x => hs.subsidyOfLedger?_eq_some_iff
  · exact hs.length_owners_le_one

/-! ### A history -/

/-- Three seats to be provided. -/
def threeSeats : NewSubsidy where
  title := "Seats"
  enterprise := .filled 9
  active := ⟨0, 0⟩
  expiration := ⟨1, 0⟩
  unit := .seats
  referenceId := none
  referenceType := none
  startingBalance := 3
  uuid := none

/-- The identifiers that the seats are provided with. -/
def seatStamp : ProvisionStamp := ⟨.filled 1, .filled 2, ⟨.filled 3, ⟨0, 0⟩⟩⟩

/-- One seat taken. -/
def seatTaken : Transaction :=
  { Transaction.pending ⟨.filled 4, ⟨0, 0⟩⟩ (.filled 2) .seats ⟨"order-42"⟩ (-1) with
    state := .committed }

/-- The seats provided, one taken and given back. -/
def seatsReturned : Store :=
  ((empty.after (.create threeSeats seatStamp)).after (.append seatTaken)).after
    (.reverse (.filled 4) ⟨.filled 5, ⟨0, 0⟩⟩)

theorem reachable_seatsReturned : Reachable seatsReturned :=
  ((Reachable.empty.write (.create threeSeats seatStamp) ⟨rfl, rfl⟩).write (.append seatTaken)
    ⟨rfl, rfl⟩).write (.reverse (.filled 4) _) trivial

theorem lookups_agree_seatsReturned :
    seatsReturned.Ordered ∧ seatsReturned.transactionOrder = [.filled 3, .filled 4] ∧
      ∃ t, seatsReturned.findByKey (.filled 2) ⟨"order-42"⟩ = some t ∧ t.reversal.isSome := by
  obtain ⟨⟨hordered, -⟩, hfind, -⟩ := lookups_agree reachable_seatsReturned
  refine ⟨hordered, rfl, withReversal seatTaken ⟨.filled 5, ⟨0, 0⟩⟩, ?_, rfl⟩
  exact (hfind _ _ _).mpr ⟨rfl, rfl, rfl⟩

end Store
end Bursar
