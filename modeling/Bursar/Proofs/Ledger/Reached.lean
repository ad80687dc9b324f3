import Bursar.Proofs.Ledger.Writes

/-!
# Ledgers of one's own

A history in which every subsidy comes with a ledger of its own leads to a store that is
`Reached`. Of the identifiers of transactions nothing is asked here: one that is in use may
come again, and then a record takes the place of another. What is left of the agreement
between the records and their indexes (`Store.Housed`) is that a subsidy has a ledger which
counts the same, and that neither a live key nor the order of all transactions names a
transaction that is not there.
-/

namespace Bursar.Store

/-- A write that enters a subsidy brings along a ledger that is not in use. -/
def OpensNew (s : Store) : Write → Prop
  | .create _ stamp => s.ledgers.get? stamp.ledger = none
  | .register x => s.ledgers.get? x.ledgerUuid = none
  | .openLedger _ _ _ | .append _ | .reverse _ _ => True

/-- The stores that writes lead to from the store without records, when every subsidy comes with a
ledger of its own. -/
inductive Reached : Store → Prop where
  | empty : Reached empty
  | write {s : Store} (w : Write) : Reached s → s.OpensNew w → Reached (s.after w)

theorem Fresh.opensNew {s : Store} {w : Write} (h : s.Fresh w) : s.OpensNew w := by
  cases w with
  | create new stamp => exact h.1
  | register x => exact h
  | openLedger | append | reverse => trivial

/-- Histories in which all identifiers are new are among them. -/
theorem Reached.of_reachable {s : Store} (h : Reachable s) : Reached s := by
  induction h with
  | empty => exact .empty
  | write w _ hw ih => exact ih.write w hw.opensNew

/-- **What is named is there.** -/
structure Housed (s : Store) : Prop where
  ledger_of_subsidy : ∀ {u x}, s.subsidies.get? u = some x →
    ∃ l, s.ledgers.get? x.ledgerUuid = some l ∧ l.unit = x.unit
  stored_of_live : ∀ {k u}, s.liveKeys.get? k = some u → (s.transactions.get? u).isSome
  stored_of_order : ∀ {u}, u ∈ s.transactionOrder → (s.transactions.get? u).isSome

namespace Housed

variable {s : Store}

theorem empty : empty.Housed where
  ledger_of_subsidy := by simp [Store.empty]
  stored_of_live := by simp [Store.empty]
  stored_of_order := by simp [Store.empty]

/-! ## The changes -/

theorem entered (h : s.Housed) {x : Subsidy} (hl : s.ledgers.get? x.ledgerUuid = none) :
    (s.entered x).Housed := by
  refine { h with ledger_of_subsidy := ?_ }
  intro u y hy
  rcases Table.get?_insert_cases hy with ⟨-, rfl⟩ | ⟨-, hy⟩
  · exact ⟨_, Table.get?_insert_self .., rfl⟩
  · obtain ⟨l, hl', hunit⟩ := h.ledger_of_subsidy hy
    exact ⟨l, Table.get?_insert_of_get? hl hl' _, hunit⟩

theorem marked (h : s.Housed) {uuid : Uuid} {l : Ledger} (hl : s.ledgers.get? uuid = some l) :
    (s.marked uuid l).Housed := by
  refine { h with ledger_of_subsidy := ?_ }
  intro u x hx
  obtain ⟨r, hr, hunit⟩ := h.ledger_of_subsidy hx
  obtain ⟨r', hr', hunit'⟩ := exists_ledger_of_insert { l with isOpen := true } hl rfl hr
  exact ⟨r', hr', hunit'.trans hunit⟩

theorem recorded (h : s.Housed) {l : Ledger} {t : Transaction}
    (hl : s.ledgers.get? t.ledgerUuid = some l) : (s.recorded l t).Housed where
  ledger_of_subsidy := by
    intro u x hx
    obtain ⟨r, hr, hunit⟩ := h.ledger_of_subsidy hx
    obtain ⟨r', hr', hunit'⟩ := exists_ledger_of_insert
      { l with transactions := l.transactions ++ [t.uuid] } hl rfl hr
    exact ⟨r', hr', hunit'.trans hunit⟩
  stored_of_live := by
    intro k u hu
    rcases Table.get?_insert_cases hu with ⟨-, rfl⟩ | ⟨-, hu⟩
    · exact Option.isSome_of_eq_some (Table.get?_insert_self ..)
    · exact Table.isSome_get?_insert (h.stored_of_live hu) _ _
  stored_of_order := by
    intro u hu
    rcases List.mem_append.mp hu with hu | hu
    · exact Table.isSome_get?_insert (h.stored_of_order hu) _ _
    · obtain rfl := List.mem_singleton.mp hu
      exact Option.isSome_of_eq_some (Table.get?_insert_self ..)

theorem reversed (h : s.Housed) (u : Uuid) (t : Transaction) (stamp : Stamp) :
    (s.reversed u t stamp).Housed where
  ledger_of_subsidy := h.ledger_of_subsidy
  stored_of_live := fun hu => Table.isSome_get?_insert (h.stored_of_live hu) _ _
  stored_of_order := fun hu => Table.isSome_get?_insert (h.stored_of_order hu) _ _

/-! ## Writes -/

theorem openLedger (h : s.Housed) (subsidy : Uuid) (balance : Int) (stamp : Stamp) :
    (s.openLedger subsidy balance stamp).2.Housed := by
  rcases s.openLedger_cases subsidy balance stamp with ⟨e, he⟩ | ⟨x, l, hopen, ⟨e, -, -, he⟩ | ⟨-, he⟩⟩
  · rw [he]
    exact h
  · rw [he]
    exact h.marked hopen.ledger
  · rw [he]
    exact (h.marked hopen.ledger).recorded (Table.get?_insert_self ..)

theorem after (h : s.Housed) {w : Write} (hw : s.OpensNew w) : (s.after w).Housed := by
  cases w with
  | create new stamp =>
    rcases s.createSubsidy_cases new stamp with ⟨e, he⟩ | ⟨-, he⟩
    · rw [Store.after, he]
      exact h
    · rw [Store.after, he]
      have hl : s.ledgers.get? (subsidyOf new stamp).ledgerUuid = none := hw
      exact (h.entered hl).openLedger _ _ _
  | register x =>
    rcases s.register_cases x with ⟨e, he⟩ | ⟨-, he⟩
    · rw [Store.after, he]
      exact h
    · rw [Store.after, he]
      exact h.entered hw
  | openLedger subsidy balance stamp => exact h.openLedger subsidy balance stamp
  | append t =>
    rcases s.append_cases t with ⟨e, he⟩ | ⟨l, hadmits, -, he⟩
    · rw [Store.after, he]
      exact h
    · rw [Store.after, he]
      exact h.recorded hadmits.ledger
  | reverse u stamp =>
    rcases s.reverse_cases u stamp with ⟨e, he⟩ | ⟨t, -, -, he⟩
    · rw [Store.after, he]
      exact h
    · rw [Store.after, he]
      exact h.reversed u t stamp

theorem of_reached (h : Reached s) : s.Housed := by
  induction h with
  | empty => exact empty
  | write w _ hw ih => exact ih.after hw

/-! ## What it is good for -/

/-- A key that leads to no transaction is free. -/
theorem free_of_findByKey (h : s.Housed) {ledger : Uuid} {key : IdempotencyKey}
    (hfind : s.findByKey ledger key = none) : s.liveKeys.get? (ledger, key) = none := by
  cases hu : s.liveKeys.get? (ledger, key) with
  | none => rfl
  | some u =>
    obtain ⟨t, ht⟩ := Option.isSome_iff_exists.mp (h.stored_of_live hu)
    simp [findByKey, hu, ht] at hfind

/-- A recorded transaction stands at the end of every listing that it belongs to. -/
theorem listTransactions_recorded (h : s.Housed) {t : Transaction}
    (fresh : s.transactions.get? t.uuid = none) (l : Ledger) (q : TransactionQuery) :
    (s.recorded l t).listTransactions q = s.listTransactions q ++ [t].filter q.accepts := by
  -- what the order named before is not the new transaction, so it leads where it led
  have hold : s.transactionOrder.filterMap (s.recorded l t).transactions.get? =
      s.transactionOrder.filterMap s.transactions.get? := by
    refine List.filterMap_congr fun u hu => Table.get?_insert_of_ne _ ?_ _
    rintro rfl
    have hstored := h.stored_of_order hu
    rw [fresh] at hstored
    cases hstored
  have hnew : [t.uuid].filterMap (s.recorded l t).transactions.get? = [t] := by
    have hself : (s.recorded l t).transactions.get? t.uuid = some t := Table.get?_insert_self ..
    simp [hself]
  have horder : (s.recorded l t).transactionOrder = s.transactionOrder ++ [t.uuid] := rfl
  rw [listTransactions, horder, List.filterMap_append, hold, hnew, List.filter_append]
  rfl

end Housed
end Bursar.Store
