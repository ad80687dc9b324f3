import Bursar.Proofs.Ledger.Writes

/-!
# Ledgers that await their deposit

Once a subsidy is entered, its ledger is there, closed, and nothing on it has the key of its
deposit: it awaits its deposit (`Store.Awaits`), and if it is opened so, it gets one
(`Awaits.openLedger_eq`). No operation on another ledger ends that, and neither does a
transaction on this one, unless it has the key of the deposit.

A ledger that was not there before has nothing on it, not even a key (`Store.Based`). After its
deposit it has one transaction with that key (`Store.DepositedOnce`), and no more come, as long
as the identifier of the deposit is not used again.
-/

namespace Bursar

namespace Store

variable {s s' : Store}

/-! ## What is on a ledger is on one that is there -/

/-- Every transaction and every live key is on a ledger that is there. -/
structure Based (s : Store) : Prop where
  ledger_of_transaction : ∀ {u t}, s.transactions.get? u = some t →
    (s.ledgers.get? t.ledgerUuid).isSome
  ledger_of_key : ∀ {ledger key u}, s.liveKeys.get? (ledger, key) = some u →
    (s.ledgers.get? ledger).isSome

namespace Based

theorem empty : empty.Based := ⟨nofun, nofun⟩

theorem recorded (h : s.Based) {t : Transaction} (l : Ledger) : (s.recorded l t).Based where
  ledger_of_transaction := by
    intro u t' ht'
    rcases Table.get?_insert_cases ht' with ⟨-, rfl⟩ | ⟨-, ht'⟩
    · exact Option.isSome_of_eq_some (Table.get?_insert_self ..)
    · exact Table.isSome_get?_insert (h.ledger_of_transaction ht') _ _
  ledger_of_key := by
    intro ledger key u hu
    rcases Table.get?_insert_cases hu with ⟨hkey, -⟩ | ⟨-, hu⟩
    · obtain ⟨rfl, -⟩ := Prod.mk.inj hkey
      exact Option.isSome_of_eq_some (Table.get?_insert_self ..)
    · exact Table.isSome_get?_insert (h.ledger_of_key hu) _ _

theorem change (h : s.Based) (hc : Change s s') : s'.Based := by
  cases hc with
  | entered | marked =>
    exact ⟨fun ht => Table.isSome_get?_insert (h.ledger_of_transaction ht) _ _,
      fun hu => Table.isSome_get?_insert (h.ledger_of_key hu) _ _⟩
  | recorded => exact h.recorded _
  | @reversed u t ht stamp =>
    refine ⟨fun {v t'} ht' => ?_, h.ledger_of_key⟩
    rcases Table.get?_insert_cases ht' with ⟨-, rfl⟩ | ⟨-, ht'⟩
    · exact h.ledger_of_transaction (t := t) ht.stored
    · exact h.ledger_of_transaction ht'

theorem of_written (h : Written s) : s.Based := h.of_changes empty change

end Based

/-! ## Ledgers that await their deposit -/

/-- The ledger of the subsidy is there, closed, and the key of its deposit is free. -/
def Awaits (s : Store) (x : Subsidy) : Prop :=
  ∃ l, s.ledgers.get? x.ledgerUuid = some l ∧ l.isOpen = false ∧
    s.liveKeys.get? (x.ledgerUuid, .ofDeposit x.ledgerUuid) = none

namespace Awaits

variable {x : Subsidy}

/-- A ledger that was not there awaits its deposit once it is entered. -/
theorem of_entered (h : s.Based) (hx : s.ledgers.get? x.ledgerUuid = none) :
    (s.entered x).Awaits x := by
  refine ⟨_, Table.get?_insert_self .., rfl, ?_⟩
  change s.liveKeys.get? (x.ledgerUuid, .ofDeposit x.ledgerUuid) = none
  cases hk : s.liveKeys.get? (x.ledgerUuid, .ofDeposit x.ledgerUuid) with
  | none => rfl
  | some u =>
    have hledger := h.ledger_of_key hk
    rw [hx] at hledger
    cases hledger

theorem entered (h : s.Awaits x) {y : Subsidy} (hy : s.ledgers.get? y.ledgerUuid = none) :
    (s.entered y).Awaits x := by
  obtain ⟨l, hl, hclosed, hkey⟩ := h
  exact ⟨l, Table.get?_insert_of_get? hy hl _, hclosed, hkey⟩

theorem marked (h : s.Awaits x) {uuid : Uuid} (hu : uuid ≠ x.ledgerUuid) (r : Ledger) :
    (s.marked uuid r).Awaits x := by
  obtain ⟨l, hl, hclosed, hkey⟩ := h
  exact ⟨l, (Table.get?_insert_of_ne _ (Ne.symm hu) _).trans hl, hclosed, hkey⟩

/-- A transaction may be recorded under another key, on the same ledger or not. -/
theorem recorded (h : s.Awaits x) {t : Transaction} {r : Ledger}
    (hr : s.ledgers.get? t.ledgerUuid = some r)
    (ht : t.ledgerUuid = x.ledgerUuid → t.key ≠ .ofDeposit x.ledgerUuid) :
    (s.recorded r t).Awaits x := by
  obtain ⟨l, hl, hclosed, hkey⟩ := h
  have hkey' : (s.recorded r t).liveKeys.get? (x.ledgerUuid, .ofDeposit x.ledgerUuid) = none := by
    refine (Table.get?_insert_of_ne _ (fun he => ?_) _).trans hkey
    obtain ⟨hledger, hk⟩ := Prod.mk.inj he
    exact ht hledger.symm hk.symm
  by_cases hledger : t.ledgerUuid = x.ledgerUuid
  · rw [hledger, hl] at hr
    obtain rfl := Option.some.inj hr
    refine ⟨{ l with transactions := l.transactions ++ [t.uuid] }, ?_, hclosed, hkey'⟩
    rw [← hledger]
    exact Table.get?_insert_self ..
  · exact ⟨l, (Table.get?_insert_of_ne _ (Ne.symm hledger) _).trans hl, hclosed, hkey'⟩

/-- To open the ledger of another subsidy leaves it waiting. -/
theorem openLedger (h : s.Awaits x) (hp : s.Paired) (hx : s.subsidies.get? x.uuid = some x)
    {subsidy : Uuid} (hne : subsidy ≠ x.uuid) (balance : Int) (stamp : Stamp) :
    (s.openLedger subsidy balance stamp).2.Awaits x := by
  rcases s.openLedger_cases subsidy balance stamp with
    ⟨e, he⟩ | ⟨y, l, ho, hcases⟩
  · rw [he]
    exact h
  · have hledger : y.ledgerUuid ≠ x.ledgerUuid := by
      intro hledger
      rw [← hp.subsidy_uuid_eq ho.stored, hp.ledger_injective ho.stored hx hledger] at hne
      exact hne rfl
    rcases hcases with ⟨e, u, -, he⟩ | ⟨-, he⟩
    · rw [he]
      exact h.marked hledger l
    · rw [he]
      exact (h.marked hledger l).recorded (t := opening y balance stamp) (Table.get?_insert_self ..)
        fun hsame => absurd hsame hledger

theorem append (h : s.Awaits x) {t : Transaction}
    (ht : t.ledgerUuid = x.ledgerUuid → t.key ≠ .ofDeposit x.ledgerUuid) :
    (s.append t).2.Awaits x := by
  rcases s.append_cases t with ⟨e, he⟩ | ⟨l, hadmits, -, he⟩
  · rw [he]
    exact h
  · rw [he]
    exact h.recorded hadmits.ledger ht

end Awaits

/-! ## What a call leaves -/

/-- Nothing of the subsidy is in the store: not the subsidy, not its ledger, and no transaction
on it. -/
structure HasNothingOf (s : Store) (x : Subsidy) : Prop where
  subsidy : s.subsidies.get? x.uuid ≠ some x
  ledger : s.ledgers.get? x.ledgerUuid = none
  transactions : ∀ {u t}, s.transactions.get? u = some t → t.ledgerUuid ≠ x.ledgerUuid

/-- One transaction of the ledger has the key of its deposit; it is committed, and over that
quantity. -/
def DepositedOnce (s : Store) (ledger : Uuid) (quantity : Int) : Prop :=
  ∃ u t, t.state = .committed ∧ t.quantity = quantity ∧
    ∀ v t', (s.transactions.get? v = some t' ∧ t'.ledgerUuid = ledger ∧
      t'.key = .ofDeposit ledger) ↔ v = u ∧ t' = t

/-- Where its ledger is not, there is nothing of a subsidy. -/
theorem hasNothingOf_of_no_ledger (h : s.Based) (hp : s.Paired) {x : Subsidy}
    (hx : s.ledgers.get? x.ledgerUuid = none) : s.HasNothingOf x where
  subsidy := by
    intro hstored
    obtain ⟨l, hl, -⟩ := hp.ledger_of_subsidy hstored
    cases hx.symm.trans hl
  ledger := hx
  transactions := by
    intro u t ht hledger
    have hthere := h.ledger_of_transaction ht
    rw [hledger, hx] at hthere
    cases hthere

theorem depositedOnce_opened (h : s.Grounded) {x : Subsidy} (l : Ledger)
    (hk : s.liveKeys.get? (x.ledgerUuid, .ofDeposit x.ledgerUuid) = none) (balance : Int)
    (stamp : Stamp) : (s.opened x l balance stamp).DepositedOnce x.ledgerUuid balance := by
  refine ⟨stamp.uuid, opening x balance stamp, rfl, rfl, fun v t => ⟨?_, ?_⟩⟩
  · rintro ⟨ht, hledger, hkey⟩
    rcases Table.get?_insert_cases ht with hnew | ⟨-, hold⟩
    · exact hnew
    · -- a transaction that was stored before would hold the key
      have hheld := h.held hold
      rw [hledger, hkey, hk] at hheld
      cases hheld
  · rintro ⟨rfl, rfl⟩
    exact ⟨Table.get?_insert_self .., rfl, rfl⟩

/-- A deposit stays the only one, unless its identifier is used again. -/
theorem DepositedOnce.recorded (hg : s.Grounded) {ledger : Uuid} {quantity : Int}
    (h : s.DepositedOnce ledger quantity) {t : Transaction}
    (hk : s.liveKeys.get? (t.ledgerUuid, t.key) = none)
    (fresh : s.transactions.get? t.uuid = none) (l : Ledger) :
    (s.recorded l t).DepositedOnce ledger quantity := by
  obtain ⟨u, d, hstate, hquantity, honly⟩ := h
  obtain ⟨hstored, hledger, hkey⟩ := (honly u d).mpr ⟨rfl, rfl⟩
  refine ⟨u, d, hstate, hquantity, fun v t' => ⟨?_, ?_⟩⟩
  · rintro ⟨ht', hl', hk'⟩
    rcases Table.get?_insert_cases ht' with ⟨-, rfl⟩ | ⟨-, hold⟩
    · have hheld := hg.held hstored
      rw [hl', hk'] at hk
      rw [hledger, hkey, hk] at hheld
      cases hheld
    · exact (honly v t').mp ⟨hold, hl', hk'⟩
  · rintro ⟨rfl, rfl⟩
    exact ⟨Table.get?_insert_of_get? fresh hstored t, hledger, hkey⟩

/-- To open a ledger leaves the deposits that were made. -/
theorem DepositedOnce.openLedger (hg : s.Grounded) {ledger : Uuid} {quantity : Int}
    (h : s.DepositedOnce ledger quantity) {stamp : Stamp}
    (fresh : s.transactions.get? stamp.uuid = none) (subsidy : Uuid) (balance : Int) :
    (s.openLedger subsidy balance stamp).2.DepositedOnce ledger quantity := by
  rcases s.openLedger_cases subsidy balance stamp with
    ⟨e, he⟩ | ⟨x, l, ho, ⟨e, v, -, he⟩ | ⟨hk, he⟩⟩
  · rw [he]
    exact h
  · rw [he]
    exact h
  · have hmarked : (s.marked x.ledgerUuid l).DepositedOnce ledger quantity := h
    rw [he]
    exact hmarked.recorded (hg.marked ho.ledger) (t := opening x balance stamp) hk fresh _

theorem DepositedOnce.append (hg : s.Grounded) {ledger : Uuid} {quantity : Int}
    (h : s.DepositedOnce ledger quantity) {t : Transaction}
    (fresh : s.transactions.get? t.uuid = none) :
    (s.append t).2.DepositedOnce ledger quantity := by
  rcases s.append_cases t with ⟨e, he⟩ | ⟨l, ht, -, he⟩
  · rw [he]
    exact h
  · rw [he]
    exact h.recorded hg ht.free fresh l

/-! ## Opening -/

/-- A ledger that awaits its deposit gets it. -/
theorem Awaits.openLedger_eq {x : Subsidy} (h : s.Awaits x)
    (hx : s.subsidies.get? x.uuid = some x) {balance : Int} (hb : 0 ≤ balance) (stamp : Stamp) :
    ∃ l, s.openLedger x.uuid balance stamp =
      (.ok (opening x balance stamp), s.opened x l balance stamp) := by
  obtain ⟨l, hl, hclosed, hkey⟩ := h
  rcases openLedger_of_openable ⟨hb, hx, hl, hclosed⟩ stamp with ⟨e, u, hu, -⟩ | ⟨-, he⟩
  · cases hkey.symm.trans hu
  · exact ⟨l, he⟩

/-- A ledger that is open, or whose key is taken, gets none. -/
theorem openLedger_of_not_awaits {x : Subsidy} (h : ¬ s.Awaits x)
    (hx : s.subsidies.get? x.uuid = some x) (balance : Int) (stamp : Stamp) :
    ∃ e, (s.openLedger x.uuid balance stamp).1 = .error e := by
  rcases s.openLedger_cases x.uuid balance stamp with
    ⟨e, he⟩ | ⟨y, l, ho, ⟨e, u, -, he⟩ | ⟨hk, -⟩⟩
  · exact ⟨e, congrArg Prod.fst he⟩
  · exact ⟨e, congrArg Prod.fst he⟩
  · obtain rfl := Option.some.inj (ho.stored.symm.trans hx)
    exact absurd ⟨l, ho.ledger, ho.closed, hk⟩ h

/-! ## Closed ledgers -/

/-- A ledger that is closed after another was opened was closed before. -/
theorem closed_of_openLedger {subsidy u : Uuid} {balance : Int} {stamp : Stamp} {l : Ledger}
    (hl : (s.openLedger subsidy balance stamp).2.ledgers.get? u = some l) (hclosed : l.isOpen = false) :
    s.ledgers.get? u = some l := by
  have hmarked {x : Subsidy} {r : Ledger} (hr : (s.marked x.ledgerUuid r).ledgers.get? u = some l) :
      s.ledgers.get? u = some l := by
    rcases Table.get?_insert_cases hr with ⟨-, rfl⟩ | ⟨-, hold⟩
    · cases hclosed
    · exact hold
  rcases s.openLedger_cases subsidy balance stamp with
    ⟨e, he⟩ | ⟨x, r, -, ⟨e, v, -, he⟩ | ⟨-, he⟩⟩
  · rwa [he] at hl
  · rw [he] at hl
    exact hmarked hl
  · rw [he] at hl
    rcases Table.get?_insert_cases hl with ⟨-, rfl⟩ | ⟨-, hold⟩
    · cases hclosed
    · exact hmarked hold

/-- After its opening the ledger of a subsidy is open, whatever came of it. -/
theorem isOpen_after_openLedger {x : Subsidy} {balance : Int} {stamp : Stamp} {l : Ledger}
    (hx : s.subsidies.get? x.uuid = some x) (hb : 0 ≤ balance)
    (hl : (s.openLedger x.uuid balance stamp).2.ledgers.get? x.ledgerUuid = some l) :
    l.isOpen = true := by
  by_contra hclosed
  rw [Bool.not_eq_true] at hclosed
  have hopenable : s.Openable x.uuid balance x l := ⟨hb, hx, closed_of_openLedger hl hclosed, hclosed⟩
  have hopen : l.isOpen = true := by
    rcases openLedger_of_openable hopenable stamp with ⟨e, u, -, he⟩ | ⟨-, he⟩
    · rw [he] at hl
      rw [← Option.some.inj ((Table.get?_insert_self ..).symm.trans hl)]
    · rw [he] at hl
      rw [← Option.some.inj ((Table.get?_insert_self ..).symm.trans hl)]
  rw [hclosed] at hopen
  cases hopen

theorem closed_of_append {t : Transaction} {u : Uuid} {l : Ledger}
    (hl : (s.append t).2.ledgers.get? u = some l) (hclosed : l.isOpen = false) :
    ∃ r, s.ledgers.get? u = some r ∧ r.isOpen = false := by
  rcases s.append_cases t with ⟨e, he⟩ | ⟨r, ht, -, he⟩
  · rw [he] at hl
    exact ⟨l, hl, hclosed⟩
  · rw [he] at hl
    rcases Table.get?_insert_cases hl with ⟨rfl, rfl⟩ | ⟨-, hold⟩
    · exact ⟨r, ht.ledger, hclosed⟩
    · exact ⟨l, hold, hclosed⟩

end Store

end Bursar
