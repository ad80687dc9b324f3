import Bursar.Proofs.Ledger.Change
import Mathlib.Data.Finset.Card

/-!
# The records and their indexes agree

The store keeps the same facts more than once: the transactions stand in a table,
in the order of all transactions, in the list of their ledger and under their
live key, the subsidies in a table and an order, and a ledger names no subsidy
although it belongs to one. `Store.Coherent` says that all of these agree. The
empty store is coherent, and each of the four changes of a store keeps it so
(`Coherent.entered`, `Coherent.marked`, `Coherent.recorded`,
`Coherent.reversed`), given that a new ledger and a new transaction come with
identifiers that are not in use.
-/

namespace Bursar.Store

/-- Whether the transaction of that identifier is stored and on the ledger. -/
def isOn (s : Store) (ledger u : Uuid) : Bool :=
  match s.transactions.get? u with
  | some t => t.ledgerUuid = ledger
  | none => false

/-- **The orders agree with the records.** The order of all transactions lists each
stored one once, and the list of a ledger is that order without the
transactions of other ledgers. -/
structure Ordered (s : Store) : Prop where
  nodup_transactions : s.transactions.keys.Nodup
  transactionOrder_eq : s.transactionOrder = s.transactions.keys
  uuid_eq : ∀ {u t}, s.transactions.get? u = some t → t.uuid = u
  ledger_list : ∀ {uuid l}, s.ledgers.get? uuid = some l →
    l.transactions = s.transactionOrder.filter (s.isOn uuid)

/-- **The live keys agree with the records.** Every stored transaction holds its
key on its ledger, and no other key is held. -/
structure Indexed (s : Store) : Prop where
  liveKeys_iff : ∀ {ledger key u}, s.liveKeys.get? (ledger, key) = some u ↔
    ∃ t, s.transactions.get? u = some t ∧ t.ledgerUuid = ledger ∧ t.key = key

/-- **The records are settled.** Every stored transaction is committed under a key
that is not blank, on a ledger that counts the same. -/
structure Settled (s : Store) : Prop where
  committed : ∀ {u t}, s.transactions.get? u = some t → t.state = .committed
  keyed : ∀ {u t}, s.transactions.get? u = some t → t.key.isEmpty = false
  ledger : ∀ {u t}, s.transactions.get? u = some t →
    ∃ l, s.ledgers.get? t.ledgerUuid = some l ∧ l.unit = t.unit

/-- **Subsidies and ledgers are paired.** The order of the subsidies lists each of
them once; every subsidy has a ledger of its own, which counts the same, and
every ledger has a subsidy. -/
structure Paired (s : Store) : Prop where
  nodup_subsidies : s.subsidies.keys.Nodup
  subsidyOrder_eq : s.subsidyOrder = s.subsidies.keys
  subsidy_uuid_eq : ∀ {u x}, s.subsidies.get? u = some x → x.uuid = u
  ledger_of_subsidy : ∀ {u x}, s.subsidies.get? u = some x →
    ∃ l, s.ledgers.get? x.ledgerUuid = some l ∧ l.unit = x.unit
  subsidy_of_ledger : ∀ {uuid l}, s.ledgers.get? uuid = some l →
    ∃ u x, s.subsidies.get? u = some x ∧ x.ledgerUuid = uuid
  ledger_injective : ∀ {u v x y}, s.subsidies.get? u = some x → s.subsidies.get? v = some y →
    x.ledgerUuid = y.ledgerUuid → x = y

/-- **The representation invariant** of the store. -/
structure Coherent (s : Store) : Prop extends Ordered s, Indexed s, Settled s, Paired s

theorem coherent_empty : empty.Coherent where
  nodup_transactions := List.nodup_nil
  transactionOrder_eq := rfl
  uuid_eq := by simp [empty]
  ledger_list := by simp [empty]
  liveKeys_iff := by simp [empty]
  committed := by simp [empty]
  keyed := by simp [empty]
  ledger := by simp [empty]
  nodup_subsidies := List.nodup_nil
  subsidyOrder_eq := rfl
  subsidy_uuid_eq := by simp [empty]
  ledger_of_subsidy := by simp [empty]
  subsidy_of_ledger := by simp [empty]
  ledger_injective := by simp [empty]

variable {s : Store}

/-- A ledger that is not there has no transactions. -/
theorem Settled.isOn_of_no_ledger (h : s.Settled) {ledger : Uuid}
    (hl : s.ledgers.get? ledger = none) (u : Uuid) : s.isOn ledger u = false := by
  unfold isOn
  cases ht : s.transactions.get? u with
  | none => rfl
  | some t =>
    obtain ⟨l, hl', -⟩ := h.ledger ht
    refine decide_eq_false ?_
    rintro rfl
    rw [hl] at hl'
    cases hl'

/-- Where one ledger is rewritten, every ledger is still there and counts what it counted. -/
theorem exists_ledger_of_insert {ledgers : Table Uuid Ledger} {uuid v : Uuid} {l r : Ledger}
    (l' : Ledger) (hl : ledgers.get? uuid = some l) (hunit : l'.unit = l.unit)
    (hr : ledgers.get? v = some r) :
    ∃ r', (ledgers.insert uuid l').get? v = some r' ∧ r'.unit = r.unit := by
  by_cases hv : v = uuid
  · subst hv
    obtain rfl := Option.some.inj (hl.symm.trans hr)
    exact ⟨l', Table.get?_insert_self .., hunit⟩
  · exact ⟨r, (Table.get?_insert_of_ne _ hv _).trans hr, rfl⟩

/-! ## The orders -/

namespace Ordered

theorem entered (h : s.Ordered) {x : Subsidy} (hon : ∀ u, s.isOn x.ledgerUuid u = false) :
    (s.entered x).Ordered := by
  refine { h with ledger_list := ?_ }
  intro uuid l hl
  rcases Table.get?_insert_cases hl with ⟨rfl, rfl⟩ | ⟨-, hl⟩
  · -- the new ledger has no list yet, and no transaction was on it before it was there
    refine (List.filter_eq_nil_iff.mpr fun u _ => ?_).symm
    rw [show (s.entered x).isOn x.ledgerUuid u = false from hon u]
    exact Bool.false_ne_true
  · exact h.ledger_list hl

theorem marked (h : s.Ordered) {uuid : Uuid} {l : Ledger} (hl : s.ledgers.get? uuid = some l) :
    (s.marked uuid l).Ordered := by
  refine { h with ledger_list := ?_ }
  intro v r hr
  rcases Table.get?_insert_cases hr with ⟨rfl, rfl⟩ | ⟨-, hr⟩
  · exact h.ledger_list (l := l) hl
  · exact h.ledger_list hr

/-- The part of the longer order that is on a ledger is the old part, and `t` on its own
ledger. -/
theorem filter_recorded (h : s.Ordered) {l : Ledger} {t : Transaction}
    (fresh : s.transactions.get? t.uuid = none) (v : Uuid) :
    (s.recorded l t).transactionOrder.filter ((s.recorded l t).isOn v) =
      s.transactionOrder.filter (s.isOn v) ++ if t.ledgerUuid = v then [t.uuid] else [] := by
  change (s.transactionOrder ++ [t.uuid]).filter _ = _
  rw [List.filter_append]
  congr 1
  · refine List.filter_congr fun u hu => ?_
    have hne : u ≠ t.uuid := by
      rintro rfl
      rw [h.transactionOrder_eq] at hu
      exact Table.get?_eq_none_iff.mp fresh hu
    have hsame : (s.recorded l t).transactions.get? u = s.transactions.get? u :=
      Table.get?_insert_of_ne _ hne _
    simp only [isOn, hsame]
  · have hself : (s.recorded l t).transactions.get? t.uuid = some t := Table.get?_insert_self ..
    by_cases hv : t.ledgerUuid = v <;> simp [isOn, hself, hv]

theorem recorded (h : s.Ordered) {l : Ledger} {t : Transaction}
    (fresh : s.transactions.get? t.uuid = none) (hl : s.ledgers.get? t.ledgerUuid = some l) :
    (s.recorded l t).Ordered where
  nodup_transactions := Table.nodup_keys_insert h.nodup_transactions _ _
  transactionOrder_eq := by
    change s.transactionOrder ++ [t.uuid] = (s.transactions.insert t.uuid t).keys
    rw [Table.keys_insert_of_none fresh, h.transactionOrder_eq]
  uuid_eq := by
    intro u t' ht'
    rcases Table.get?_insert_cases ht' with ⟨rfl, rfl⟩ | ⟨-, ht'⟩
    · rfl
    · exact h.uuid_eq ht'
  ledger_list := by
    intro v r hr
    rw [h.filter_recorded fresh]
    rcases Table.get?_insert_cases hr with ⟨rfl, rfl⟩ | ⟨hv, hr⟩
    · rw [if_pos rfl, ← h.ledger_list hl]
    · rw [if_neg (Ne.symm hv), List.append_nil]
      exact h.ledger_list hr

/-- A reversal takes no transaction from its ledger. -/
theorem isOn_reversed {uuid : Uuid} {t : Transaction} (ht : s.transactions.get? uuid = some t)
    (stamp : Stamp) (v : Uuid) : (s.reversed uuid t stamp).isOn v = s.isOn v := by
  funext u
  change (match (s.transactions.insert uuid _).get? u with | some t => _ | none => _) = _
  by_cases hu : u = uuid
  · subst hu
    simp [isOn, Table.get?_insert_self, ht, withReversal]
  · simp [isOn, Table.get?_insert_of_ne _ hu]

theorem reversed (h : s.Ordered) {uuid : Uuid} {t : Transaction}
    (ht : s.transactions.get? uuid = some t) (stamp : Stamp) :
    (s.reversed uuid t stamp).Ordered where
  nodup_transactions := Table.nodup_keys_insert h.nodup_transactions _ _
  transactionOrder_eq := by
    change s.transactionOrder = (s.transactions.insert uuid _).keys
    rw [Table.keys_insert_of_some ht, h.transactionOrder_eq]
  uuid_eq := by
    intro u t' ht'
    rcases Table.get?_insert_cases ht' with ⟨rfl, rfl⟩ | ⟨-, ht'⟩
    · exact h.uuid_eq (t := t) ht
    · exact h.uuid_eq ht'
  ledger_list := by
    intro v r hr
    rw [isOn_reversed ht]
    exact h.ledger_list hr

end Ordered

/-! ## The live keys -/

namespace Indexed

theorem recorded (h : s.Indexed) {l : Ledger} {t : Transaction}
    (fresh : s.transactions.get? t.uuid = none)
    (free : s.liveKeys.get? (t.ledgerUuid, t.key) = none) : (s.recorded l t).Indexed := by
  constructor
  intro v key u
  constructor
  · intro hu
    rcases Table.get?_insert_cases hu with ⟨hk, rfl⟩ | ⟨-, hu⟩
    · obtain ⟨rfl, rfl⟩ := Prod.mk.inj hk
      exact ⟨t, Table.get?_insert_self .., rfl, rfl⟩
    · obtain ⟨t', ht', hv, hkey⟩ := h.liveKeys_iff.mp hu
      exact ⟨t', Table.get?_insert_of_get? fresh ht' _, hv, hkey⟩
  · rintro ⟨t', ht', rfl, rfl⟩
    rcases Table.get?_insert_cases ht' with ⟨rfl, rfl⟩ | ⟨-, ht'⟩
    · exact Table.get?_insert_self ..
    · -- the key of an old transaction was held already, so it is not the new one
      exact Table.get?_insert_of_get? free (h.liveKeys_iff.mpr ⟨t', ht', rfl, rfl⟩) _

theorem reversed (h : s.Indexed) {uuid : Uuid} {t : Transaction}
    (ht : s.transactions.get? uuid = some t) (stamp : Stamp) :
    (s.reversed uuid t stamp).Indexed := by
  constructor
  intro v key u
  refine h.liveKeys_iff.trans ⟨?_, ?_⟩
  · rintro ⟨t', ht', hv, hk⟩
    by_cases hu : u = uuid
    · subst hu
      obtain rfl := Option.some.inj (ht.symm.trans ht')
      exact ⟨_, Table.get?_insert_self .., hv, hk⟩
    · exact ⟨t', (Table.get?_insert_of_ne _ hu _).trans ht', hv, hk⟩
  · rintro ⟨t', ht', hv, hk⟩
    rcases Table.get?_insert_cases ht' with ⟨rfl, rfl⟩ | ⟨-, ht'⟩
    · exact ⟨t, ht, hv, hk⟩
    · exact ⟨t', ht', hv, hk⟩

end Indexed

/-! ## The transactions on their ledgers -/

namespace Settled

theorem entered (h : s.Settled) {x : Subsidy} (hl : s.ledgers.get? x.ledgerUuid = none) :
    (s.entered x).Settled := by
  refine { h with ledger := ?_ }
  intro u t ht
  obtain ⟨l, hl', hunit⟩ := h.ledger ht
  exact ⟨l, Table.get?_insert_of_get? hl hl' _, hunit⟩

theorem marked (h : s.Settled) {uuid : Uuid} {l : Ledger} (hl : s.ledgers.get? uuid = some l) :
    (s.marked uuid l).Settled := by
  refine { h with ledger := ?_ }
  intro u t ht
  obtain ⟨r, hr, hunit⟩ := h.ledger ht
  obtain ⟨r', hr', hunit'⟩ := exists_ledger_of_insert { l with isOpen := true } hl rfl hr
  exact ⟨r', hr', hunit'.trans hunit⟩

theorem recorded (h : s.Settled) {l : Ledger} {t : Transaction} (ht : s.Admits l t) :
    (s.recorded l t).Settled where
  committed := by
    intro u t' ht'
    rcases Table.get?_insert_cases ht' with ⟨-, rfl⟩ | ⟨-, ht'⟩
    · exact ht.committed
    · exact h.committed ht'
  keyed := by
    intro u t' ht'
    rcases Table.get?_insert_cases ht' with ⟨-, rfl⟩ | ⟨-, ht'⟩
    · exact ht.keyed
    · exact h.keyed ht'
  ledger := by
    intro u t' ht'
    rcases Table.get?_insert_cases ht' with ⟨-, rfl⟩ | ⟨-, ht'⟩
    · exact ⟨_, Table.get?_insert_self .., ht.unit⟩
    · obtain ⟨r, hr, hunit⟩ := h.ledger ht'
      obtain ⟨r', hr', hunit'⟩ := exists_ledger_of_insert
        { l with transactions := l.transactions ++ [t.uuid] } ht.ledger rfl hr
      exact ⟨r', hr', hunit'.trans hunit⟩

theorem reversed (h : s.Settled) {uuid : Uuid} {t : Transaction}
    (ht : s.transactions.get? uuid = some t) (stamp : Stamp) :
    (s.reversed uuid t stamp).Settled where
  committed := by
    intro u t' ht'
    rcases Table.get?_insert_cases ht' with ⟨-, rfl⟩ | ⟨-, ht'⟩
    · exact h.committed (t := t) ht
    · exact h.committed ht'
  keyed := by
    intro u t' ht'
    rcases Table.get?_insert_cases ht' with ⟨-, rfl⟩ | ⟨-, ht'⟩
    · exact h.keyed (t := t) ht
    · exact h.keyed ht'
  ledger := by
    intro u t' ht'
    rcases Table.get?_insert_cases ht' with ⟨-, rfl⟩ | ⟨-, ht'⟩
    · exact h.ledger (t := t) ht
    · exact h.ledger ht'

end Settled

/-! ## The subsidies and their ledgers -/

namespace Paired

theorem entered (h : s.Paired) {x : Subsidy} (hx : s.subsidies.get? x.uuid = none)
    (hl : s.ledgers.get? x.ledgerUuid = none) : (s.entered x).Paired where
  nodup_subsidies := Table.nodup_keys_insert h.nodup_subsidies _ _
  subsidyOrder_eq := by
    change s.subsidyOrder ++ [x.uuid] = (s.subsidies.insert x.uuid x).keys
    rw [Table.keys_insert_of_none hx, h.subsidyOrder_eq]
  subsidy_uuid_eq := by
    intro u y hy
    rcases Table.get?_insert_cases hy with ⟨rfl, rfl⟩ | ⟨-, hy⟩
    · rfl
    · exact h.subsidy_uuid_eq hy
  ledger_of_subsidy := by
    intro u y hy
    rcases Table.get?_insert_cases hy with ⟨rfl, rfl⟩ | ⟨-, hy⟩
    · exact ⟨_, Table.get?_insert_self .., rfl⟩
    · obtain ⟨l, hl', hunit⟩ := h.ledger_of_subsidy hy
      exact ⟨l, Table.get?_insert_of_get? hl hl' _, hunit⟩
  subsidy_of_ledger := by
    intro uuid l hl'
    rcases Table.get?_insert_cases hl' with ⟨rfl, -⟩ | ⟨-, hl'⟩
    · exact ⟨x.uuid, x, Table.get?_insert_self .., rfl⟩
    · obtain ⟨u, y, hy, he⟩ := h.subsidy_of_ledger hl'
      exact ⟨u, y, Table.get?_insert_of_get? hx hy _, he⟩
  ledger_injective := by
    -- the ledgers of old subsidies are there, so none of them is the new one
    have distinct {u y} (hy : s.subsidies.get? u = some y) : y.ledgerUuid ≠ x.ledgerUuid := by
      intro he
      obtain ⟨l, hl', -⟩ := h.ledger_of_subsidy hy
      rw [he, hl] at hl'
      cases hl'
    intro u v y z hy hz he
    rcases Table.get?_insert_cases hy with ⟨-, hyx⟩ | ⟨-, hy⟩ <;>
      rcases Table.get?_insert_cases hz with ⟨-, hzx⟩ | ⟨-, hz⟩
    · rw [hyx, hzx]
    · exact absurd (hyx ▸ he.symm) (distinct hz)
    · exact absurd (hzx ▸ he) (distinct hy)
    · exact h.ledger_injective hy hz he

/-- A ledger may be rewritten as long as it counts the same. -/
theorem insert_ledger (h : s.Paired) {uuid : Uuid} {l : Ledger} (l' : Ledger)
    (hl : s.ledgers.get? uuid = some l) (hunit : l'.unit = l.unit) :
    Paired { s with ledgers := s.ledgers.insert uuid l' } := by
  refine { h with ledger_of_subsidy := ?_, subsidy_of_ledger := ?_ }
  · intro u x hx
    obtain ⟨r, hr, hunit'⟩ := h.ledger_of_subsidy hx
    obtain ⟨r', hr', hunit''⟩ := exists_ledger_of_insert l' hl hunit hr
    exact ⟨r', hr', hunit''.trans hunit'⟩
  · intro v r hr
    rcases Table.get?_insert_cases hr with ⟨rfl, -⟩ | ⟨-, hr⟩
    · exact h.subsidy_of_ledger hl
    · exact h.subsidy_of_ledger hr

end Paired

/-! ## The changes -/

namespace Coherent

theorem entered (h : s.Coherent) {x : Subsidy} (hx : s.subsidies.get? x.uuid = none)
    (hl : s.ledgers.get? x.ledgerUuid = none) : (s.entered x).Coherent where
  toOrdered := h.toOrdered.entered (h.isOn_of_no_ledger hl)
  toIndexed := ⟨h.liveKeys_iff⟩
  toSettled := h.toSettled.entered hl
  toPaired := h.toPaired.entered hx hl

theorem marked (h : s.Coherent) {uuid : Uuid} {l : Ledger} (hl : s.ledgers.get? uuid = some l) :
    (s.marked uuid l).Coherent where
  toOrdered := h.toOrdered.marked hl
  toIndexed := ⟨h.liveKeys_iff⟩
  toSettled := h.toSettled.marked hl
  toPaired := h.toPaired.insert_ledger { l with isOpen := true } hl rfl

theorem recorded (h : s.Coherent) {l : Ledger} {t : Transaction} (ht : s.Admits l t)
    (fresh : s.transactions.get? t.uuid = none) : (s.recorded l t).Coherent where
  toOrdered := h.toOrdered.recorded fresh ht.ledger
  toIndexed := h.toIndexed.recorded fresh ht.free
  toSettled := h.toSettled.recorded ht
  toPaired :=
    { h.toPaired.insert_ledger { l with transactions := l.transactions ++ [t.uuid] } ht.ledger rfl with }

theorem reversed (h : s.Coherent) {uuid : Uuid} {t : Transaction}
    (ht : s.transactions.get? uuid = some t) (stamp : Stamp) :
    (s.reversed uuid t stamp).Coherent where
  toOrdered := h.toOrdered.reversed ht stamp
  toIndexed := h.toIndexed.reversed ht stamp
  toSettled := h.toSettled.reversed ht stamp
  toPaired := { h.toPaired with }

/-! ## Looking up -/

/-- Under a key stands the transaction of the ledger that holds it. -/
theorem findByKey_eq_some_iff (h : s.Coherent) {ledger : Uuid} {key : IdempotencyKey}
    {t : Transaction} : s.findByKey ledger key = some t ↔
      s.transactions.get? t.uuid = some t ∧ t.ledgerUuid = ledger ∧ t.key = key := by
  rw [findByKey, Option.bind_eq_some_iff]
  constructor
  · -- the index gives an identifier, the table what stands under it
    rintro ⟨u, hu, ht⟩
    obtain ⟨t', ht', hl, hk⟩ := h.liveKeys_iff.mp hu
    obtain rfl := Option.some.inj (ht.symm.trans ht')
    exact ⟨by rwa [h.uuid_eq ht], hl, hk⟩
  · rintro ⟨ht, hl, hk⟩
    exact ⟨t.uuid, h.liveKeys_iff.mpr ⟨t, ht, hl, hk⟩, ht⟩

theorem findByKey_eq_none_iff (h : s.Coherent) {ledger : Uuid} {key : IdempotencyKey} :
    s.findByKey ledger key = none ↔ s.liveKeys.get? (ledger, key) = none := by
  cases hk : s.liveKeys.get? (ledger, key) with
  | none => simp [findByKey, hk]
  | some u =>
    obtain ⟨t, ht, -⟩ := h.liveKeys_iff.mp hk
    simp [findByKey, hk, ht]

/-- No two stored transactions of a ledger share a key. -/
theorem eq_of_same_key (h : s.Coherent) {u v : Uuid} {t t' : Transaction}
    (ht : s.transactions.get? u = some t) (ht' : s.transactions.get? v = some t')
    (hl : t.ledgerUuid = t'.ledgerUuid) (hk : t.key = t'.key) : t = t' := by
  have hu := h.liveKeys_iff.mpr ⟨t, ht, hl, hk⟩
  have hv := h.liveKeys_iff.mpr ⟨t', ht', rfl, rfl⟩
  obtain rfl := Option.some.inj (hu.symm.trans hv)
  exact Option.some.inj (ht.symm.trans ht')

/-- The subsidy of a ledger is the one that names it. -/
theorem subsidyOfLedger?_eq_some_iff (h : s.Coherent) {ledger : Uuid} {x : Subsidy} :
    s.subsidyOfLedger? ledger = some x ↔
      s.subsidies.get? x.uuid = some x ∧ x.ledgerUuid = ledger := by
  constructor
  · intro hx
    obtain ⟨u, hu⟩ := (Table.mem_values_iff h.nodup_subsidies).mp (List.mem_of_find?_eq_some hx)
    exact ⟨by rwa [h.subsidy_uuid_eq hu], by simpa using List.find?_some hx⟩
  · rintro ⟨hx, hl⟩
    have hmem : x ∈ s.subsidies.values := (Table.mem_values_iff h.nodup_subsidies).mpr ⟨_, hx⟩
    cases hf : s.subsidyOfLedger? ledger with
    | none => exact absurd (decide_eq_true hl) (List.find?_eq_none.mp hf x hmem)
    | some y =>
      obtain ⟨v, hv⟩ := (Table.mem_values_iff h.nodup_subsidies).mp (List.mem_of_find?_eq_some hf)
      have hy : y.ledgerUuid = ledger := by simpa using List.find?_some hf
      rw [h.ledger_injective hv hx (hy.trans hl.symm)]

/-- A ledger has at most one subsidy to choose from. -/
theorem length_owners_le_one (h : s.Coherent) (ledger : Uuid) :
    (s.subsidies.values.filter fun x => x.ledgerUuid = ledger).length ≤ 1 := by
  have hnodup : s.subsidies.values.Nodup := by
    refine List.Nodup.of_map Subsidy.uuid ?_
    rw [Table.map_values h.nodup_subsidies h.subsidy_uuid_eq]
    exact h.nodup_subsidies
  have huniq {x y : Subsidy} (hx : x ∈ s.subsidies.values.filter fun x => x.ledgerUuid = ledger)
      (hy : y ∈ s.subsidies.values.filter fun x => x.ledgerUuid = ledger) : x = y := by
    rw [List.mem_filter, Table.mem_values_iff h.nodup_subsidies, decide_eq_true_eq] at hx hy
    obtain ⟨⟨u, hu⟩, hxl⟩ := hx
    obtain ⟨⟨v, hv⟩, hyl⟩ := hy
    exact h.ledger_injective hu hv (hxl.trans hyl.symm)
  rw [← List.toFinset_card_of_nodup (hnodup.filter _), Finset.card_le_one]
  intro x hx y hy
  exact huniq (List.mem_toFinset.mp hx) (List.mem_toFinset.mp hy)

end Coherent
end Bursar.Store
