import Bursar.Proofs.Ledger.Writes

/-!
# What guards a balance

Appending a transaction is refused when the balance does not cover its quantity.
What the transaction then does to the balance is its effect, and the two differ
when it comes with a committed reversal of its own: the reversal counts from the
moment the transaction is recorded, and nobody has looked at it.

So the check guards the balance exactly for the transactions whose reversal, if
they have one, counts nothing (`append_guards_iff`). A credit that carries a large
reversal passes the check and leaves its ledger overdrawn
(`not_guards_seatGivenBack`).
-/

namespace Bursar.Store

open Transaction (reversedQuantity)

variable {s : Store} {t : Transaction}

/-- The balance of the ledger, if it has one, is not below zero. -/
def Covered (s : Store) (ledger : Uuid) : Prop := ∀ b, s.balance ledger = .ok b → 0 ≤ b

/-- **Appending guards the balance.** An accepted transaction moves the balance of its
ledger by its quantity and does not take it below zero; one that would is refused. -/
structure Guards (s : Store) (t : Transaction) : Prop where
  moved : ∀ {t' s'}, s.append t = (.ok t', s') → ∃ b, s.balance t.ledgerUuid = .ok b ∧
    s'.balance t.ledgerUuid = .ok (b + t.quantity)
  covered : ∀ {t' s'}, s.append t = (.ok t', s') → s'.Covered t.ledgerUuid
  refused : ∀ {b}, s.balance t.ledgerUuid = .ok b → b + t.quantity < 0 ∨ b + t.effect < 0 →
    ∃ e, (s.append t).1 = .error e

/-- Whatever identifiers the store was written with, a new transaction moves the balance of
its ledger by its effect. -/
theorem Grounded.balance_recorded (hg : s.Grounded) {l : Ledger} {b : Int}
    (hl : s.ledgers.get? t.ledgerUuid = some l) (fresh : s.transaction? t.uuid = none)
    (hb : s.balance t.ledgerUuid = .ok b) :
    (s.recorded l t).balance t.ledgerUuid = .ok (b + t.effect) := by
  have hledger : (s.recorded l t).ledgers.get? t.ledgerUuid =
      some { l with transactions := l.transactions ++ [t.uuid] } := Table.get?_insert_self ..
  have hself : (s.recorded l t).transactions.get? t.uuid = some t := Table.get?_insert_self ..
  -- what the ledger lists is stored, so none of it stands where the new transaction goes
  have hold : l.transactions.filterMap (s.recorded l t).transactions.get? =
      l.transactions.filterMap s.transactions.get? := by
    refine List.filterMap_congr fun u hu => ?_
    refine Table.get?_insert_of_ne _ ?_ _
    rintro rfl
    have hstored := hg.listed hl hu
    rw [show s.transactions.get? t.uuid = none from fresh] at hstored
    cases hstored
  simp only [balance, hl, Except.ok.injEq] at hb
  simp only [balance, hledger, Except.ok.injEq]
  rw [← hb, List.filterMap_append, hold]
  simp only [← List.sum_eq_foldr, List.map_append, List.sum_append]
  simp [hself]

/-- An accepted transaction moves the balance by its effect, and if it is a debit its
quantity was covered. -/
theorem Grounded.balance_append (hg : s.Grounded) (fresh : s.transaction? t.uuid = none)
    {t' : Transaction} {s' : Store} (h : s.append t = (.ok t', s')) :
    ∃ b, s.balance t.ledgerUuid = .ok b ∧ (t.quantity < 0 → 0 ≤ b + t.quantity) ∧
      s'.balance t.ledgerUuid = .ok (b + t.quantity + reversedQuantity t.reversal) := by
  rcases s.append_cases t with ⟨e, he⟩ | ⟨l, ht, hq, he⟩
  · rw [he] at h
    cases (Prod.mk.inj h).1
  · obtain ⟨b, hb, hcover⟩ := checkSufficient_eq_ok_iff.mp hq
    obtain rfl : s.recorded l t = s' := (Prod.mk.inj (he.symm.trans h)).2
    have heffect : t.effect = t.quantity + reversedQuantity t.reversal := by
      simp [Transaction.effect, ht.committed]
    refine ⟨b, hb, hcover, ?_⟩
    rw [hg.balance_recorded ht.ledger fresh hb, heffect, Int.add_assoc]

theorem guards_of_refused {e : LedgerError} (h : (s.append t).1 = .error e) : s.Guards t where
  moved := fun ha => by simp [ha] at h
  covered := fun ha => by simp [ha] at h
  refused := fun _ _ => ⟨e, h⟩

/-- A transaction whose reversal counts nothing does what the check has looked at. -/
theorem Grounded.guards_of_nothing_reversed (hg : s.Grounded)
    (fresh : s.transaction? t.uuid = none) (hc : s.Covered t.ledgerUuid)
    (hr : reversedQuantity t.reversal = 0) : s.Guards t where
  moved := by
    intro t' s' ha
    obtain ⟨b, hb, -, hb'⟩ := hg.balance_append fresh ha
    exact ⟨b, hb, by rw [hb', hr, Int.add_zero]⟩
  covered := by
    intro t' s' ha b' hb'
    obtain ⟨b, hb, hcover, hmoved⟩ := hg.balance_append fresh ha
    obtain rfl := Except.ok.inj (hmoved.symm.trans hb')
    have := hc b hb
    omega
  refused := by
    intro b hb hneg
    rcases s.append_cases t with ⟨e, he⟩ | ⟨l, -, -, ha⟩
    · exact ⟨e, by rw [he]⟩
    · obtain ⟨b', hb', hcover, -⟩ := hg.balance_append fresh ha
      obtain rfl := Except.ok.inj (hb.symm.trans hb')
      have hnonneg := hc b hb
      have heffect : t.effect = t.quantity ∨ t.effect = 0 := by
        unfold Transaction.effect
        split <;> simp [hr]
      omega

theorem Grounded.guards_iff (hg : s.Grounded) (fresh : s.transaction? t.uuid = none)
    (hc : s.Covered t.ledgerUuid) :
    s.Guards t ↔ (∃ e, (s.append t).1 = .error e) ∨ reversedQuantity t.reversal = 0 := by
  constructor
  · intro h
    rcases s.append_cases t with ⟨e, he⟩ | ⟨l, -, -, ha⟩
    · exact .inl ⟨e, by rw [he]⟩
    · -- the balance cannot have moved both by the quantity and by the effect
      obtain ⟨b, hb, hb'⟩ := h.moved ha
      obtain ⟨c, hc, -, hc'⟩ := hg.balance_append fresh ha
      obtain rfl := Except.ok.inj (hb.symm.trans hc)
      have := Except.ok.inj (hb'.symm.trans hc')
      exact .inr (by omega)
  · rintro (⟨e, he⟩ | hr)
    · exact guards_of_refused he
    · exact hg.guards_of_nothing_reversed fresh hc hr

theorem Sound.covered (h : s.Sound) (ledger : Uuid) : s.Covered ledger := by
  intro b hb
  rw [h.eq_total hb]
  exact h.solvent ledger

/-- **Appending guards the balance exactly when nothing is reversed in the transaction
itself.** In every store that writes lead to, an accepted new transaction moves the
balance of its ledger by its quantity and by what its own reversal counts, so that
on a ledger that is not overdrawn the balance is guarded if and only if the
transaction is refused or its reversal counts nothing. No ledger of a store with a
history is overdrawn. -/
theorem append_guards_iff {s : Store} (h : Written s) {t : Transaction}
    (fresh : s.transaction? t.uuid = none) :
    (∀ t' s', s.append t = (.ok t', s') → ∃ b, s.balance t.ledgerUuid = .ok b ∧
      s'.balance t.ledgerUuid = .ok (b + t.quantity + reversedQuantity t.reversal)) ∧
    (s.Covered t.ledgerUuid →
      (s.Guards t ↔ (∃ e, (s.append t).1 = .error e) ∨ reversedQuantity t.reversal = 0)) ∧
    (Reachable s → ∀ ledger, s.Covered ledger) := by
  have hg := Grounded.of_written h
  refine ⟨?_, hg.guards_iff fresh, fun hs => (Sound.of_reachable hs).covered⟩
  intro t' s' ha
  obtain ⟨b, hb, -, hb'⟩ := hg.balance_append fresh ha
  exact ⟨b, hb, hb'⟩

/-- A seat taken with a reversal that is not committed, and so counts nothing. -/
def seatTakenInDoubt : Transaction :=
  { seatTakenNext with
    reversal := some { Reversal.of seatTakenNext ⟨.filled 7, ⟨0, 0⟩⟩ with state := .created } }

theorem append_guards_iff_seatTakenInDoubt :
    seatsReturned.Guards seatTakenInDoubt ∧ seatsReturned.balance (.filled 2) = .ok 3 ∧
      (seatsReturned.after (.append seatTakenInDoubt)).balance (.filled 2) = .ok 2 := by
  have hs := reachable_seatsReturned
  obtain ⟨hmoves, hiff, hcovered⟩ :=
    append_guards_iff (.of_reachable hs) (t := seatTakenInDoubt) rfl
  obtain ⟨b, hb, hb'⟩ := hmoves seatTakenInDoubt _ rfl
  obtain rfl : 3 = b := Except.ok.inj hb
  exact ⟨(hiff (hcovered hs _)).mpr (.inr rfl), hb, hb'⟩

/-- A seat given back together with a reversal that takes ten. -/
def seatGivenBack : Transaction :=
  { seatTakenNext with
    quantity := 1
    reversal := some { Reversal.of seatTakenNext ⟨.filled 7, ⟨0, 0⟩⟩ with quantity := -10 } }

/-- **A credit can overdraw its ledger**: nothing looks at the reversal that it carries. -/
theorem not_guards_seatGivenBack :
    Reachable seatsReturned ∧ seatsReturned.transaction? seatGivenBack.uuid = none ∧
      (seatsReturned.append seatGivenBack).1 = .ok seatGivenBack ∧
      (seatsReturned.after (.append seatGivenBack)).balance (.filled 2) = .ok (-6) ∧
      ¬ seatsReturned.Guards seatGivenBack := by
  have hneg : (seatsReturned.after (.append seatGivenBack)).balance (.filled 2) = .ok (-6) := rfl
  refine ⟨reachable_seatsReturned, rfl, rfl, hneg, fun h => ?_⟩
  have haccepted : seatsReturned.append seatGivenBack =
      (.ok seatGivenBack, seatsReturned.after (.append seatGivenBack)) := rfl
  exact absurd (h.covered haccepted (-6) hneg) (by decide)

end Bursar.Store
