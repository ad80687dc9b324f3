import Bursar.Proofs.Ledger.Coherence

/-!
# Balances

A balance is never stored: it is summed over the list of a ledger each time it is
asked for. In a coherent store the sum runs over exactly the transactions of the
ledger (`Coherent.balance_eq`), so that each change of the store moves it by a
known amount: a recorded transaction adds its effect to its own ledger
(`total_recorded`), a reversal takes the quantity back (`total_reversed`), and
no other ledger is touched.

A store is solvent when no ledger is overdrawn (`Store.Solvent`). The check in
front of a debit and the check in front of a reversal are what keeps it so.
-/

namespace Bursar.Store

/-- The transactions of a ledger, in the order in which they were recorded. -/
def transactionsOf (s : Store) (ledger : Uuid) : List Transaction :=
  s.transactions.values.filter fun t => t.ledgerUuid = ledger

/-- What the transactions of a ledger come to, with their reversals. -/
def total (s : Store) (ledger : Uuid) : Int :=
  ((s.transactionsOf ledger).map Transaction.effect).foldr (· + ·) 0

/-- **No ledger is overdrawn.** -/
def Solvent (s : Store) : Prop := ∀ ledger, 0 ≤ s.total ledger

variable {s : Store}

/-- The order of all transactions leads to each stored one. -/
theorem Ordered.filterMap_transactionOrder (h : s.Ordered) :
    s.transactionOrder.filterMap s.transactions.get? = s.transactions.values := by
  rw [h.transactionOrder_eq, Table.filterMap_keys h.nodup_transactions]

/-- The identifiers in a ledger's list are those of its transactions. -/
theorem Coherent.filterMap_list (h : s.Coherent) {uuid : Uuid} {l : Ledger}
    (hl : s.ledgers.get? uuid = some l) :
    l.transactions.filterMap s.transactions.get? = s.transactionsOf uuid := by
  have point (u : Uuid) : (if s.isOn uuid u = true then s.transactions.get? u else none) =
      (s.transactions.get? u).filter fun t => t.ledgerUuid = uuid := by
    unfold isOn
    cases s.transactions.get? u with
    | none => simp
    | some t => by_cases ht : t.ledgerUuid = uuid <;> simp [Option.filter, ht]
  -- the list is the order of all transactions without those of other ledgers, and it does not
  -- matter whether they are left out before or after they are looked up
  calc l.transactions.filterMap s.transactions.get?
      = (s.transactionOrder.filter (s.isOn uuid)).filterMap s.transactions.get? := by
        rw [h.ledger_list hl]
    _ = (s.transactionOrder.filterMap s.transactions.get?).filter
          (fun t => t.ledgerUuid = uuid) := by
        rw [List.filterMap_filter, List.filter_filterMap]
        exact List.filterMap_congr fun u _ => point u
    _ = s.transactionsOf uuid := by
        rw [h.filterMap_transactionOrder]
        rfl

/-- **The balance of a ledger is what its transactions come to**, and a ledger that is
not there has none. -/
theorem Coherent.balance_eq (h : s.Coherent) (uuid : Uuid) :
    s.balance uuid =
      match s.ledgers.get? uuid with
      | none => .error (noLedger uuid)
      | some _ => .ok (s.total uuid) := by
  unfold balance
  cases hl : s.ledgers.get? uuid with
  | none => rfl
  | some l => simp only [h.filterMap_list hl, total]

theorem Coherent.balance_of_ledger (h : s.Coherent) {uuid : Uuid} {l : Ledger}
    (hl : s.ledgers.get? uuid = some l) : s.balance uuid = .ok (s.total uuid) := by
  rw [h.balance_eq, hl]

theorem Coherent.eq_total (h : s.Coherent) {uuid : Uuid} {b : Int} (hb : s.balance uuid = .ok b) :
    b = s.total uuid := by
  rw [h.balance_eq] at hb
  split at hb
  · cases hb
  · exact (Except.ok.inj hb).symm

/-- What passes the check leaves a ledger that is not overdrawn at zero or above. -/
theorem Coherent.covers_of_checkSufficient (h : s.Coherent) {uuid : Uuid} {quantity : Int}
    (hq : s.checkSufficient uuid quantity = .ok ()) (hs : 0 ≤ s.total uuid) :
    0 ≤ s.total uuid + quantity := by
  obtain ⟨b, hb, hcover⟩ := checkSufficient_eq_ok_iff.mp hq
  obtain rfl := h.eq_total hb
  omega

/-! ## How each change moves the totals -/

@[simp] theorem total_entered (s : Store) (x : Subsidy) (v : Uuid) :
    (s.entered x).total v = s.total v := rfl

@[simp] theorem total_marked (s : Store) (uuid : Uuid) (l : Ledger) (v : Uuid) :
    (s.marked uuid l).total v = s.total v := rfl

theorem transactionsOf_recorded {l : Ledger} {t : Transaction}
    (fresh : s.transactions.get? t.uuid = none) (v : Uuid) :
    (s.recorded l t).transactionsOf v =
      s.transactionsOf v ++ if t.ledgerUuid = v then [t] else [] := by
  change (s.transactions.insert t.uuid t).values.filter _ = _
  rw [Table.values_insert_of_none fresh, List.filter_append]
  by_cases hv : t.ledgerUuid = v <;> simp [transactionsOf, hv]

/-- A recorded transaction adds its effect to its own ledger and nothing to the others. -/
theorem total_recorded {l : Ledger} {t : Transaction}
    (fresh : s.transactions.get? t.uuid = none) (v : Uuid) :
    (s.recorded l t).total v = s.total v + if t.ledgerUuid = v then t.effect else 0 := by
  simp only [total, ← List.sum_eq_foldr]
  rw [transactionsOf_recorded fresh, List.map_append, List.sum_append]
  by_cases hv : t.ledgerUuid = v <;> simp [hv]

theorem effect_of_unreversed {t : Transaction} (hs : t.state = .committed)
    (hr : t.reversal = none) : t.effect = t.quantity := by
  simp [Transaction.effect, Transaction.reversedQuantity, hs, hr]

/-- A transaction and its reversal come to nothing. -/
theorem effect_withReversal {t : Transaction} (hs : t.state = .committed) (stamp : Stamp) :
    (withReversal t stamp).effect = 0 := by
  simp only [Transaction.effect, Transaction.reversedQuantity, withReversal, Reversal.of, hs, if_true]
  omega

/-- A ledger has the same transactions before and after a reversal, but for the one that
is reversed. -/
theorem transactionsOf_reversed {uuid : Uuid} {t : Transaction} (ht : s.Reversible uuid t)
    (stamp : Stamp) (v : Uuid) : ∃ pre post,
      s.transactionsOf v = pre ++ (if t.ledgerUuid = v then [t] else []) ++ post ∧
      (s.reversed uuid t stamp).transactionsOf v =
        pre ++ (if t.ledgerUuid = v then [withReversal t stamp] else []) ++ post := by
  obtain ⟨pre, post, hs, hs'⟩ := Table.exists_split_of_get? ht.stored (withReversal t stamp)
  have hold : s.transactions.values = pre.map (·.2) ++ [t] ++ post.map (·.2) := by
    simp [Table.values, hs]
  have hnew : (s.reversed uuid t stamp).transactions.values =
      pre.map (·.2) ++ [withReversal t stamp] ++ post.map (·.2) := by
    simp [Table.values, reversed, hs']
  have hledger : (withReversal t stamp).ledgerUuid = t.ledgerUuid := rfl
  refine ⟨(pre.map (·.2)).filter fun t => t.ledgerUuid = v,
    (post.map (·.2)).filter fun t => t.ledgerUuid = v, ?_⟩
  simp only [transactionsOf, hold, hnew, List.filter_append, List.filter_singleton, hledger,
    Bool.cond_decide, and_self]

/-- A reversal takes the quantity back from the transaction's own ledger. -/
theorem total_reversed {uuid : Uuid} {t : Transaction} (ht : s.Reversible uuid t) (stamp : Stamp)
    (v : Uuid) : (s.reversed uuid t stamp).total v =
      s.total v - if t.ledgerUuid = v then t.quantity else 0 := by
  obtain ⟨pre, post, hold, hnew⟩ := transactionsOf_reversed ht stamp v
  simp only [total, ← List.sum_eq_foldr]
  rw [hold, hnew]
  by_cases hv : t.ledgerUuid = v
  · simp [hv, effect_withReversal ht.committed, effect_of_unreversed ht.committed ht.unreversed]
    omega
  · simp [hv]

/-! ## Solvency -/

theorem solvent_empty : empty.Solvent := fun _ => Int.le_refl 0

namespace Solvent

theorem entered (hs : s.Solvent) (x : Subsidy) : (s.entered x).Solvent := by
  intro v
  rw [total_entered]
  exact hs v

theorem marked (hs : s.Solvent) (uuid : Uuid) (l : Ledger) : (s.marked uuid l).Solvent := by
  intro v
  rw [total_marked]
  exact hs v

/-- A transaction that its ledger covers keeps the store solvent. -/
theorem recorded (hs : s.Solvent) {l : Ledger} {t : Transaction}
    (fresh : s.transactions.get? t.uuid = none) (hc : t.state = .committed)
    (hr : t.reversal = none) (hq : 0 ≤ s.total t.ledgerUuid + t.quantity) :
    (s.recorded l t).Solvent := by
  intro v
  rw [total_recorded fresh, effect_of_unreversed hc hr]
  by_cases hv : t.ledgerUuid = v
  · subst hv
    simpa using hq
  · simpa [hv] using hs v

/-- So does the reversal of a transaction that its ledger can give back. -/
theorem reversed (hs : s.Solvent) {uuid : Uuid} {t : Transaction} (ht : s.Reversible uuid t)
    (hq : 0 ≤ s.total t.ledgerUuid + -t.quantity) (stamp : Stamp) :
    (s.reversed uuid t stamp).Solvent := by
  intro v
  rw [total_reversed ht]
  by_cases hv : t.ledgerUuid = v
  · subst hv
    simpa [Int.sub_eq_add_neg] using hq
  · simpa [hv] using hs v

end Solvent
end Bursar.Store
