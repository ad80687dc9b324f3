import Bursar.Proofs.Ledger.History

/-!
# What is posted, and what is left alone

All ledgers share one table of transactions and one index of keys. Still a call
posts to one ledger only: an appended transaction posts its quantity
(`Sound.moves_append`), a reversal posts the opposite (`Sound.moves_reverse`), and
neither the balance nor the transactions nor the keys of any other ledger are
touched (`Store.Moves`).

So the balance of a ledger is at all times what the transactions without a reversal
come to (`Sound.balance_eq_standing`); a transaction with one comes to nothing
(`Sound.effect_of_reversed`).
-/

namespace Bursar

/-- A change of one ledger's balance. -/
structure Posting where
  ledger : Uuid
  quantity : Int
deriving DecidableEq

/-- The transactions of a ledger are asked for. -/
def TransactionQuery.onLedger (ledger : Uuid) : TransactionQuery := ⟨some ledger, none, none⟩

namespace Store

/-- What the transactions of a ledger that have no reversal come to. -/
def standing (s : Store) (ledger : Uuid) : Int :=
  (((s.listTransactions (.onLedger ledger)).filter fun t => t.reversal.isNone).map
    Transaction.quantity).foldr (· + ·) 0

/-- **The store differs by one posting**: the ledger's balance is moved by the quantity, and
what there is on other ledgers is the same, however it is asked for. -/
structure Moves (s s' : Store) (p : Posting) : Prop where
  moved : ∃ b, s.balance p.ledger = .ok b ∧ s'.balance p.ledger = .ok (b + p.quantity)
  balance : ∀ {v}, v ≠ p.ledger → s'.balance v = s.balance v
  listed : ∀ {v q}, v ≠ p.ledger → q.ledgerUuid = some v →
    s'.listTransactions q = s.listTransactions q
  stored : ∀ {u t}, t.ledgerUuid ≠ p.ledger → (s'.transaction? u = some t ↔ s.transaction? u = some t)
  found : ∀ {v key}, v ≠ p.ledger → s'.findByKey v key = s.findByKey v key

/-- The store differs by what was posted, and is the same if nothing was. -/
def Posts (s s' : Store) : Option Posting → Prop
  | none => s' = s
  | some p => s.Moves s' p

variable {s s' : Store}

/-! ## Listings -/

/-- A listing of a ledger runs over the transactions of the ledger. -/
theorem Coherent.listTransactions_eq (h : s.Coherent) {q : TransactionQuery} {ledger : Uuid}
    (hq : q.ledgerUuid = some ledger) :
    s.listTransactions q = (s.transactionsOf ledger).filter q.accepts := by
  rw [listTransactions, h.filterMap_transactionOrder, transactionsOf, List.filter_filter]
  refine List.filter_congr fun t _ => ?_
  by_cases ht : t.ledgerUuid = ledger <;> simp [TransactionQuery.accepts, hq, ht]

theorem Coherent.listTransactions_onLedger (h : s.Coherent) (ledger : Uuid) :
    s.listTransactions (.onLedger ledger) = s.transactionsOf ledger := by
  rw [h.listTransactions_eq (q := .onLedger ledger) rfl, List.filter_eq_self]
  intro t ht
  have hledger : t.ledgerUuid = ledger := by simpa using (List.mem_filter.mp ht).2
  simp [TransactionQuery.accepts, TransactionQuery.onLedger, hledger]

theorem Coherent.mem_transactionsOf_iff (h : s.Coherent) {ledger : Uuid} {t : Transaction} :
    t ∈ s.transactionsOf ledger ↔ s.transactions.get? t.uuid = some t ∧ t.ledgerUuid = ledger := by
  rw [transactionsOf, List.mem_filter, Table.mem_values_iff h.nodup_transactions,
    decide_eq_true_eq]
  refine and_congr_left fun _ => ⟨?_, fun ht => ⟨_, ht⟩⟩
  rintro ⟨u, hu⟩
  rwa [h.uuid_eq hu]

/-! ## What a balance comes to -/

/-- A transaction that has a reversal comes to nothing. -/
theorem Sound.effect_of_reversed (h : s.Sound) {u : Uuid} {t : Transaction}
    (ht : s.transactions.get? u = some t) (hr : t.reversal.isSome) : t.effect = 0 := by
  obtain ⟨r, hr⟩ := Option.isSome_iff_exists.mp hr
  obtain ⟨stamp, rfl⟩ := h.mirrored ht hr
  simp only [Transaction.effect, Transaction.reversedQuantity, hr, Reversal.of,
    h.committed ht, if_true]
  omega

theorem Sound.sum_effects (h : s.Sound) {ts : List Transaction}
    (hts : ∀ t ∈ ts, ∃ u, s.transactions.get? u = some t) :
    (ts.map Transaction.effect).foldr (· + ·) 0 =
      ((ts.filter fun t => t.reversal.isNone).map Transaction.quantity).foldr (· + ·) 0 := by
  induction ts with
  | nil => rfl
  | cons t ts ih =>
    obtain ⟨u, hu⟩ := hts t List.mem_cons_self
    have hrest := ih fun t' ht' => hts t' (List.mem_cons_of_mem _ ht')
    cases hr : t.reversal with
    | none => simp [hr, hrest, effect_of_unreversed (h.committed hu) hr]
    | some r => simp [hr, hrest, h.effect_of_reversed hu (by simp [hr])]

/-- **The balance of a ledger is what its transactions without a reversal come to.** -/
theorem Sound.balance_eq_standing (h : s.Sound) {ledger : Uuid} {l : Ledger}
    (hl : s.ledgers.get? ledger = some l) : s.balance ledger = .ok (s.standing ledger) := by
  rw [h.balance_of_ledger hl, standing, h.listTransactions_onLedger, total]
  refine congrArg Except.ok (h.sum_effects fun t ht => ?_)
  exact ⟨_, (h.mem_transactionsOf_iff.mp ht).1⟩

/-! ## What a call posts -/

/-- What has to be seen of two stores to know that they differ by one posting. -/
theorem moves_of_transactionsOf (h : s.Coherent) (h' : s'.Coherent) {p : Posting}
    (hledger : (s.ledgers.get? p.ledger).isSome)
    (hledgers : ∀ v, (s'.ledgers.get? v).isSome = (s.ledgers.get? v).isSome)
    (htotal : s'.total p.ledger = s.total p.ledger + p.quantity)
    (hof : ∀ {v}, v ≠ p.ledger → s'.transactionsOf v = s.transactionsOf v)
    (hstored : ∀ {u t}, t.ledgerUuid ≠ p.ledger →
      (s'.transactions.get? u = some t ↔ s.transactions.get? u = some t)) : s.Moves s' p where
  moved := by
    have hledger' := hledger
    rw [← hledgers] at hledger'
    obtain ⟨l, hl⟩ := Option.isSome_iff_exists.mp hledger
    obtain ⟨l', hl'⟩ := Option.isSome_iff_exists.mp hledger'
    exact ⟨_, h.balance_of_ledger hl, by rw [h'.balance_of_ledger hl', htotal]⟩
  balance := by
    intro v hv
    have htotal : s'.total v = s.total v := by rw [total, hof hv, total]
    have hsome := hledgers v
    rw [h'.balance_eq, h.balance_eq, htotal]
    cases hl : s.ledgers.get? v <;> cases hl' : s'.ledgers.get? v <;> simp [hl, hl'] at hsome ⊢
  listed := by
    intro v q hv hq
    rw [h'.listTransactions_eq hq, h.listTransactions_eq hq, hof hv]
  stored := hstored
  found := by
    intro v key hv
    refine Option.ext fun t => ?_
    rw [h'.findByKey_eq_some_iff, h.findByKey_eq_some_iff]
    refine and_congr_left fun ht => hstored ?_
    rw [ht.1]
    exact hv

/-- **An appended transaction posts its quantity.** -/
theorem Sound.moves_append (h : s.Sound) {t t' : Transaction} (ha : s.append t = (.ok t', s'))
    (fresh : s.transactions.get? t.uuid = none) (hr : t.reversal = none) :
    s.Moves s' ⟨t.ledgerUuid, t.quantity⟩ := by
  obtain ⟨-, l, ht, rfl⟩ := recorded_of_append ha
  refine moves_of_transactionsOf h.toCoherent (h.toCoherent.recorded ht fresh)
    (Option.isSome_of_eq_some ht.ledger) ?_ ?_ ?_ ?_
  · intro v
    change ((s.ledgers.insert t.ledgerUuid _).get? v).isSome = _
    by_cases hv : v = t.ledgerUuid
    · subst hv
      simp [Table.get?_insert_self, ht.ledger]
    · rw [Table.get?_insert_of_ne _ hv]
  · rw [total_recorded fresh, if_pos rfl, effect_of_unreversed ht.committed hr]
  · intro v hv
    rw [transactionsOf_recorded fresh, if_neg (Ne.symm hv), List.append_nil]
  · intro u t' ht'
    refine ⟨fun hu => ?_, fun hu => Table.get?_insert_of_get? fresh hu _⟩
    rcases Table.get?_insert_cases hu with ⟨-, rfl⟩ | ⟨-, hu⟩
    · exact absurd rfl ht'
    · exact hu

/-- **A reversal posts the opposite.** -/
theorem Sound.moves_reverse (h : s.Sound) {u : Uuid} {stamp : Stamp} {t' : Transaction}
    (ha : s.reverse u stamp = (.ok t', s')) : s.Moves s' ⟨t'.ledgerUuid, -t'.quantity⟩ := by
  obtain ⟨t, ht, rfl, rfl⟩ := reversed_of_reverse ha
  change s.Moves _ ⟨t.ledgerUuid, -t.quantity⟩
  obtain ⟨l, hl, -⟩ := h.ledger ht.stored
  refine moves_of_transactionsOf h.toCoherent (h.toCoherent.reversed ht.stored stamp)
    (Option.isSome_of_eq_some hl) (fun _ => rfl) ?_ ?_ ?_
  · rw [total_reversed ht, if_pos rfl, Int.sub_eq_add_neg]
  · intro v hv
    obtain ⟨pre, post, hold, hnew⟩ := transactionsOf_reversed ht stamp v
    rw [hnew, hold, if_neg (Ne.symm hv), if_neg (Ne.symm hv)]
  · intro v t' ht'
    by_cases hv : v = u
    · -- what stands under `u` is on the ledger of `t`, before and after
      subst hv
      refine ⟨fun hu => ?_, fun hu => ?_⟩
      · obtain rfl := Option.some.inj ((Table.get?_insert_self ..).symm.trans hu)
        exact absurd rfl ht'
      · obtain rfl := Option.some.inj (ht.stored.symm.trans hu)
        exact absurd rfl ht'
    · change (s.transactions.insert u _).get? v = some t' ↔ _
      rw [Table.get?_insert_of_ne _ hv]

end Store
end Bursar
