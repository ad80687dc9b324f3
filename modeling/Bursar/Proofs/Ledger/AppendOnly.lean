import Bursar.Proofs.Ledger.Writes

/-!
# What is stored stays

The ledger is append-only: what a write does to the records is to add one at the
end or to attach a reversal. `Store.addition?` reads off two consecutive stores
which record a write has added, and `after_cases` says what happened to all the
others.

A new record goes into the table under its own identifier, and nothing but its
ledger and key are asked to be new. So a write takes nothing away exactly when the
identifier of its record is not in use (`append_only_iff`); an appended transaction
that comes with the identifier of a stored one takes that one's place
(`not_appendOnly_seatResold`).
-/

namespace Bursar.Store

open Relation (ReflTransGen)

variable {s : Store}

/-- The transactions, their order and the live keys of two stores are the same. -/
structure SameRecords (s s' : Store) : Prop where
  transactions : s'.transactions = s.transactions
  transactionOrder : s'.transactionOrder = s.transactionOrder
  liveKeys : s'.liveKeys = s.liveKeys

theorem SameRecords.refl (s : Store) : s.SameRecords s := ⟨rfl, rfl, rfl⟩

/-- The record that a write adds: the last one, if there are more than before. -/
def addition? (s : Store) (w : Write) : Option Transaction :=
  if s.transactionOrder.length < (s.after w).transactionOrder.length then
    (s.after w).transactionOrder.getLast?.bind (s.after w).transaction?
  else none

theorem addition?_of_same_order {w : Write}
    (h : (s.after w).transactionOrder = s.transactionOrder) : s.addition? w = none := by
  simp [addition?, h]

theorem addition?_of_recorded {w : Write} {r : Store} {l : Ledger} {t : Transaction}
    (hr : s.SameRecords r) (h : s.after w = r.recorded l t) : s.addition? w = some t := by
  have horder : (s.after w).transactionOrder = s.transactionOrder ++ [t.uuid] := by
    rw [h, ← hr.transactionOrder]
    rfl
  have hstored : (s.after w).transaction? t.uuid = some t := by
    rw [h]
    exact Table.get?_insert_self ..
  simp [addition?, horder, hstored]

/-- A record is put under its own identifier, and its key must be free. -/
def RecordsInto (s s' : Store) : Prop :=
  ∃ r l t, s.SameRecords r ∧ s.liveKeys.get? (t.ledgerUuid, t.key) = none ∧ s' = r.recorded l t

theorem openLedger_records (s : Store) (subsidy : Uuid) (balance : Int) (stamp : Stamp) :
    s.SameRecords (s.openLedger subsidy balance stamp).2 ∨
      s.RecordsInto (s.openLedger subsidy balance stamp).2 := by
  rcases s.openLedger_cases subsidy balance stamp with
    ⟨e, he⟩ | ⟨x, l, ho, ⟨e, u, -, he⟩ | ⟨hk, he⟩⟩
  · rw [he]
    exact .inl (.refl s)
  · rw [he]
    exact .inl ⟨rfl, rfl, rfl⟩
  · rw [he]
    exact .inr ⟨s.marked x.ledgerUuid l, _, opening x balance stamp, ⟨rfl, rfl, rfl⟩, hk, rfl⟩

/-- **What a write does to the records**: nothing, or it attaches a reversal, or it puts a
record under its identifier. -/
theorem after_cases (s : Store) (w : Write) :
    s.SameRecords (s.after w) ∨
      (∃ u stamp t, w = .reverse u stamp ∧ s.Reversible u t ∧ s.after w = s.reversed u t stamp) ∨
      s.RecordsInto (s.after w) := by
  cases w with
  | create new stamp =>
    rcases s.createSubsidy_cases new stamp with ⟨e, he⟩ | ⟨-, he⟩
    · simp only [after, he]
      exact .inl (.refl s)
    · simp only [after, he]
      rcases (s.entered (subsidyOf new stamp)).openLedger_records (subsidyOf new stamp).uuid
        new.startingBalance stamp.deposit with h | ⟨r, l, t, hr, hk, h⟩
      · exact .inl ⟨h.transactions, h.transactionOrder, h.liveKeys⟩
      · exact .inr (.inr ⟨r, l, t, ⟨hr.transactions, hr.transactionOrder, hr.liveKeys⟩, hk, h⟩)
  | register x =>
    rcases s.register_cases x with ⟨e, he⟩ | ⟨-, he⟩
    · simp only [after, he]
      exact .inl (.refl s)
    · simp only [after, he]
      exact .inl ⟨rfl, rfl, rfl⟩
  | openLedger subsidy balance stamp =>
    rcases s.openLedger_records subsidy balance stamp with h | h
    · exact .inl h
    · exact .inr (.inr h)
  | append t =>
    rcases s.append_cases t with ⟨e, he⟩ | ⟨l, ht, -, he⟩
    · simp only [after, he]
      exact .inl (.refl s)
    · simp only [after, he]
      exact .inr (.inr ⟨s, l, t, .refl s, ht.free, rfl⟩)
  | reverse u stamp =>
    rcases s.reverse_cases u stamp with ⟨e, he⟩ | ⟨t, ht, -, he⟩
    · simp only [after, he]
      exact .inl (.refl s)
    · exact .inr (.inl ⟨u, stamp, t, rfl, ht, by simp only [after, he]⟩)

/-! ## Append-only writes -/

/-- **The write takes nothing away**: what was stored is stored unchanged, but that a
reversal may have been attached to a transaction without one; what stood in the
order of all transactions still stands there before anything new; and who held a
key holds it. -/
structure AppendOnly (s : Store) (w : Write) : Prop where
  kept : ∀ {u t}, s.transaction? u = some t →
    (s.after w).transaction? u = some t ∨
      ∃ stamp, w = .reverse u stamp ∧ t.reversal = none ∧
        (s.after w).transaction? u = some (withReversal t stamp)
  ordered : s.transactionOrder <+: (s.after w).transactionOrder
  held : ∀ {ledger key u}, s.liveKeys.get? (ledger, key) = some u →
    (s.after w).liveKeys.get? (ledger, key) = some u

theorem AppendOnly.keeps {w : Write} (h : s.AppendOnly w) : s.Keeps (s.after w) := by
  intro u t ht
  rcases h.kept ht with hs | ⟨stamp, -, hr, hs⟩
  · exact ⟨t, hs, .refl t⟩
  · exact ⟨_, hs, .inr ⟨hr, stamp, rfl⟩⟩

theorem appendOnly_of_sameRecords {w : Write} (h : s.SameRecords (s.after w)) :
    s.AppendOnly w where
  kept := by
    intro u t ht
    refine .inl ?_
    rw [transaction?, h.transactions]
    exact ht
  ordered := by rw [h.transactionOrder]
  held := by
    intro ledger key u hu
    rwa [h.liveKeys]

theorem appendOnly_reverse {u : Uuid} {t : Transaction} {stamp : Stamp} (ht : s.Reversible u t)
    (h : s.after (.reverse u stamp) = s.reversed u t stamp) : s.AppendOnly (.reverse u stamp) where
  kept := by
    intro v t' ht'
    rw [h]
    by_cases hv : v = u
    · subst hv
      obtain rfl := Option.some.inj (ht.stored.symm.trans ht')
      exact .inr ⟨stamp, rfl, ht.unreversed, Table.get?_insert_self ..⟩
    · exact .inl ((Table.get?_insert_of_ne _ hv _).trans ht')
  ordered := by
    rw [h]
    exact List.prefix_refl _
  held := by
    intro ledger key v hv
    rwa [h]

theorem appendOnly_of_recorded {w : Write} {r : Store} {l : Ledger} {t : Transaction}
    (hr : s.SameRecords r) (hk : s.liveKeys.get? (t.ledgerUuid, t.key) = none)
    (h : s.after w = r.recorded l t) (fresh : s.transaction? t.uuid = none) : s.AppendOnly w where
  kept := by
    intro u t' ht'
    refine .inl ?_
    rw [h]
    change (r.transactions.insert t.uuid t).get? u = some t'
    rw [hr.transactions]
    exact Table.get?_insert_of_get? fresh ht' t
  ordered := by
    rw [h]
    change s.transactionOrder <+: r.transactionOrder ++ [t.uuid]
    rw [hr.transactionOrder]
    exact List.prefix_append ..
  held := by
    intro ledger key u hu
    rw [h]
    change (r.liveKeys.insert (t.ledgerUuid, t.key) t.uuid).get? (ledger, key) = some u
    rw [hr.liveKeys]
    exact Table.get?_insert_of_get? hk hu t.uuid

/-- A record that comes with the identifier of a stored one takes its place: the two have
different keys, for the stored one holds its own. -/
theorem Grounded.not_appendOnly (hg : s.Grounded) {w : Write} {r : Store} {l : Ledger}
    {t t' : Transaction} (hk : s.liveKeys.get? (t.ledgerUuid, t.key) = none)
    (h : s.after w = r.recorded l t) (hw : ∀ u stamp, w ≠ .reverse u stamp)
    (ht' : s.transaction? t.uuid = some t') : ¬ s.AppendOnly w := by
  intro ha
  have hnew : (s.after w).transaction? t.uuid = some t := by
    rw [h]
    exact Table.get?_insert_self ..
  rcases ha.kept ht' with hs | ⟨stamp, hrev, -⟩
  · obtain rfl := Option.some.inj (hnew.symm.trans hs)
    have hheld := hg.held ht'
    rw [hk] at hheld
    cases hheld
  · exact hw _ stamp hrev

theorem reverse_ne_of_recorded {w : Write} {r : Store} {l : Ledger} {t : Transaction}
    (hr : s.SameRecords r) (h : s.after w = r.recorded l t) (u : Uuid) (stamp : Stamp) :
    w ≠ .reverse u stamp := by
  rintro rfl
  have hlength : (s.after (.reverse u stamp)).transactionOrder.length =
      s.transactionOrder.length + 1 := by
    rw [h, ← hr.transactionOrder]
    simp [recorded]
  rcases s.reverse_cases u stamp with ⟨e, he⟩ | ⟨t', -, -, he⟩
  · simp [after, he] at hlength
  · simp [after, he, reversed] at hlength

theorem Grounded.appendOnly_iff (hg : s.Grounded) (w : Write) :
    s.AppendOnly w ↔ ∀ t, s.addition? w = some t → s.transaction? t.uuid = none := by
  rcases s.after_cases w with h | ⟨u, stamp, t, rfl, ht, h⟩ | ⟨r, l, t, hr, hk, h⟩
  · simp [appendOnly_of_sameRecords h, addition?_of_same_order h.transactionOrder]
  · have horder : (s.after (.reverse u stamp)).transactionOrder = s.transactionOrder := by rw [h]; rfl
    simp [appendOnly_reverse ht h, addition?_of_same_order horder]
  · simp only [addition?_of_recorded hr h, Option.some.injEq, forall_eq']
    constructor
    · intro ha
      by_contra hstored
      obtain ⟨t', ht'⟩ := Option.ne_none_iff_exists'.mp hstored
      exact hg.not_appendOnly hk h (reverse_ne_of_recorded hr h) ht' ha
    · exact appendOnly_of_recorded hr hk h

/-- A write whose record, if it adds one, has an identifier that is not in use. -/
def Appends (s s' : Store) : Prop :=
  ∃ w, s' = s.after w ∧ ∀ t, s.addition? w = some t → s.transaction? t.uuid = none

theorem Written.of_appends {s' : Store} (h : Written s) (hs : ReflTransGen Appends s s') :
    Written s' := by
  induction hs with
  | refl => exact h
  | tail _ hs ih =>
    obtain ⟨w, rfl, -⟩ := hs
    exact ih.write w

/-- Along a run of such writes every stored transaction stays, and a reversal is attached
to it once at most. -/
theorem Written.keeps_of_appends {s' : Store} (h : Written s) (hs : ReflTransGen Appends s s') :
    s.Keeps s' := by
  induction hs with
  | refl => exact keeps_of_eq rfl
  | tail hs hstep ih =>
    obtain ⟨w, rfl, hw⟩ := hstep
    have ha := ((Grounded.of_written (h.of_appends hs)).appendOnly_iff w).mpr hw
    intro u t ht
    obtain ⟨t', ht', hb⟩ := ih ht
    obtain ⟨t'', ht'', hb'⟩ := ha.keeps ht'
    exact ⟨t'', ht'', hb.trans hb'⟩

/-- **A write takes nothing away exactly when the record that it adds, if it adds one, has
an identifier that is not in use**, whatever calls with whatever arguments came
before; and along any run of such writes every stored transaction stays what it
is, but for a reversal that is attached once. -/
theorem append_only_iff {s : Store} (h : Written s) :
    (∀ w, s.AppendOnly w ↔ ∀ t, s.addition? w = some t → s.transaction? t.uuid = none) ∧
      ∀ s', ReflTransGen Appends s s' → s.Keeps s' :=
  ⟨fun w => (Grounded.of_written h).appendOnly_iff w, fun _ hs => h.keeps_of_appends hs⟩

/-- Another seat taken, under the identifier of the first. -/
def seatResold : Transaction := { seatTaken with key := ⟨"order-43"⟩ }

theorem append_only_iff_seatTakenNext :
    seatsReturned.AppendOnly (.append seatTakenNext) ∧
      seatsReturned.Keeps (seatsReturned.after (.append seatTakenNext)) := by
  obtain ⟨hiff, hrun⟩ := append_only_iff (.of_reachable reachable_seatsReturned)
  have hfresh : ∀ t, seatsReturned.addition? (.append seatTakenNext) = some t →
      seatsReturned.transaction? t.uuid = none := by
    intro t ht
    obtain rfl : seatTakenNext = t := Option.some.inj ht
    rfl
  exact ⟨(hiff _).mpr hfresh, hrun _ (.single ⟨_, rfl, hfresh⟩)⟩

/-- **Appending is not append-only for every transaction**: one that comes with the
identifier of a stored transaction and a key of its own takes that one's place. -/
theorem not_appendOnly_seatResold :
    Written seatsReturned ∧ (seatsReturned.append seatResold).1 = .ok seatResold ∧
      ¬ seatsReturned.AppendOnly (.append seatResold) := by
  refine ⟨.of_reachable reachable_seatsReturned, rfl, fun h => ?_⟩
  have hold : seatsReturned.transaction? (.filled 4) =
      some (withReversal seatTaken ⟨.filled 5, ⟨0, 0⟩⟩) := rfl
  have hnew : (seatsReturned.after (.append seatResold)).transaction? (.filled 4) =
      some seatResold := rfl
  rcases h.kept hold with hs | ⟨stamp, hw, -⟩
  · have hkey := congrArg Transaction.key (Option.some.inj (hnew.symm.trans hs))
    exact absurd hkey (by decide)
  · cases hw

end Bursar.Store
