import Bursar.Ledger.Store
import Bursar.Proofs.Table

/-!
# What a call does to the store

A call of the store either is refused and leaves the store alone, or makes one of
four changes: a subsidy is entered (`Store.entered`), a ledger is marked as open
(`Store.marked`), a transaction is recorded (`Store.recorded`), a reversal is
attached (`Store.reversed`). The lemmas `register_cases`, `openLedger_cases`,
`append_cases` and `reverse_cases` say which, and on what condition. All that is
proved about histories of the store rests on these four.

One refusal does leave a trace: a ledger is marked as open before its deposit is
recorded, and stays marked if the key of the deposit is taken.
-/

namespace Bursar.Store

/-! ## The four changes -/

/-- The store with a subsidy and its ledger, which is not open yet. -/
def entered (s : Store) (x : Subsidy) : Store :=
  { s with
    ledgers := s.ledgers.insert x.ledgerUuid { unit := x.unit, isOpen := false, transactions := [] }
    subsidyOrder := s.subsidyOrder ++ [x.uuid]
    subsidies := s.subsidies.insert x.uuid x }

/-- The store with the ledger `l` marked as open. -/
def marked (s : Store) (uuid : Uuid) (l : Ledger) : Store :=
  { s with ledgers := s.ledgers.insert uuid { l with isOpen := true } }

/-- The store with a transaction at the end of its ledger `l`. -/
def recorded (s : Store) (l : Ledger) (t : Transaction) : Store :=
  { s with
    ledgers := s.ledgers.insert t.ledgerUuid { l with transactions := l.transactions ++ [t.uuid] }
    liveKeys := s.liveKeys.insert (t.ledgerUuid, t.key) t.uuid
    transactionOrder := s.transactionOrder ++ [t.uuid]
    transactions := s.transactions.insert t.uuid t }

/-- The store with a reversal attached to the transaction `t`. -/
def reversed (s : Store) (uuid : Uuid) (t : Transaction) (stamp : Stamp) : Store :=
  { s with transactions := s.transactions.insert uuid (withReversal t stamp) }

/-- What makes `t` fit for its ledger `l`: it is committed under a key that is not
blank and not taken, and counts what the ledger counts. -/
structure Admits (s : Store) (l : Ledger) (t : Transaction) : Prop where
  committed : t.state = .committed
  keyed : t.key.isEmpty = false
  ledger : s.ledgers.get? t.ledgerUuid = some l
  unit : l.unit = t.unit
  free : s.liveKeys.get? (t.ledgerUuid, t.key) = none

/-- What makes `t` one that can be reversed, the balance aside. -/
structure Reversible (s : Store) (uuid : Uuid) (t : Transaction) : Prop where
  stored : s.transactions.get? uuid = some t
  committed : t.state = .committed
  unreversed : t.reversal = none

/-! ## The checks -/

/-- A balance covers every quantity that is not a debit, and a debit up to itself. -/
theorem checkSufficient_eq_ok_iff {s : Store} {ledger : Uuid} {quantity : Int} :
    s.checkSufficient ledger quantity = .ok () ↔
      ∃ b, s.balance ledger = .ok b ∧ (quantity < 0 → 0 ≤ b + quantity) := by
  refine bind_eq_ok_iff.trans (exists_congr fun b => and_congr_right fun _ => ?_)
  by_cases h : quantity < 0 ∧ b + quantity < 0
  · simp [h]
  · simp only [h, if_false, true_iff]
    omega

theorem checkStartingBalance_eq_ok_iff {b : Int} : checkStartingBalance b = .ok () ↔ 0 ≤ b := by
  unfold checkStartingBalance
  by_cases h : b < 0
  · simp [h]
  · simp only [h, if_false, true_iff]
    omega

theorem checkAppended_eq_ok_iff {t : Transaction} :
    checkAppended t = .ok () ↔ t.state = .committed ∧ t.key.isEmpty = false := by
  unfold checkAppended
  by_cases hs : t.state = .committed <;> by_cases hk : t.key.isEmpty <;> simp [hs, hk]

theorem checkFits_eq_ok_iff {s : Store} {t : Transaction} :
    s.checkFits t = .ok () ↔ ∃ l, s.ledgers.get? t.ledgerUuid = some l ∧ l.unit = t.unit ∧
      s.checkSufficient t.ledgerUuid t.quantity = .ok () := by
  unfold checkFits
  cases s.ledgers.get? t.ledgerUuid with
  | none => simp
  | some l => by_cases h : l.unit = t.unit <;> simp [h]

theorem record_of_taken {s : Store} {t : Transaction} {u : Uuid}
    (h : s.liveKeys.get? (t.ledgerUuid, t.key) = some u) :
    s.record t = (.error (.duplicateKey t.key.text), s) := by
  rw [record, if_pos (by simp [Table.contains, h])]

theorem record_of_free {s : Store} {l : Ledger} {t : Transaction} (ht : t.state = .committed)
    (hl : s.ledgers.get? t.ledgerUuid = some l)
    (hk : s.liveKeys.get? (t.ledgerUuid, t.key) = none) :
    s.record t = (.ok t, s.recorded l t) := by
  have hlive : t.isLive = true := by simp [Transaction.isLive, ht]
  rw [record, if_neg (by simp [Table.contains, hk])]
  simp only [hl, hlive, if_true, recorded]

/-! ## The calls -/

/-- **Entering a subsidy.** -/
theorem register_cases (s : Store) (x : Subsidy) :
    (∃ e, s.register x = (.error e, s)) ∨
      (s.subsidies.get? x.uuid = none ∧ s.register x = (.ok (), s.entered x)) := by
  unfold register
  cases hx : s.subsidies.contains x.uuid with
  | true => exact .inl ⟨_, rfl⟩
  | false => exact .inr ⟨Table.contains_eq_false_iff.mp hx, rfl⟩

/-- The deposit that opens the ledger of a subsidy. -/
def opening (x : Subsidy) (balance : Int) (stamp : Stamp) : Transaction :=
  { Transaction.pending stamp x.ledgerUuid x.unit (.ofDeposit x.ledgerUuid) balance with
    state := .committed }

/-- What makes the ledger `l` of the subsidy `x` one that can be opened. -/
structure Openable (s : Store) (subsidy : Uuid) (balance : Int) (x : Subsidy) (l : Ledger) : Prop where
  covered : 0 ≤ balance
  stored : s.subsidies.get? subsidy = some x
  ledger : s.ledgers.get? x.ledgerUuid = some l
  closed : l.isOpen = false

/-- The store with a ledger marked as open and its deposit recorded. -/
def opened (s : Store) (x : Subsidy) (l : Ledger) (balance : Int) (stamp : Stamp) : Store :=
  (s.marked x.ledgerUuid l).recorded { l with isOpen := true } (opening x balance stamp)

theorem deposit_eq (x : Subsidy) (balance : Int) (stamp : Stamp) :
    deposit x balance stamp = .ok (opening x balance stamp) := rfl

/-- A ledger that can be opened gets its deposit unless the key of the deposit is
taken, and is marked as open in both cases. -/
theorem openLedger_of_openable {s : Store} {subsidy : Uuid} {balance : Int} {x : Subsidy}
    {l : Ledger} (h : s.Openable subsidy balance x l) (stamp : Stamp) :
    (∃ e u, s.liveKeys.get? (x.ledgerUuid, .ofDeposit x.ledgerUuid) = some u ∧
        s.openLedger subsidy balance stamp = (.error e, s.marked x.ledgerUuid l)) ∨
      (s.liveKeys.get? (x.ledgerUuid, .ofDeposit x.ledgerUuid) = none ∧
        s.openLedger subsidy balance stamp =
          (.ok (opening x balance stamp), s.opened x l balance stamp)) := by
  have hb : checkStartingBalance balance = .ok () := checkStartingBalance_eq_ok_iff.mpr h.covered
  have heq : s.openLedger subsidy balance stamp =
      (s.marked x.ledgerUuid l).record (opening x balance stamp) := by
    simp only [openLedger, hb, h.stored, h.ledger, h.closed, Bool.false_eq_true, if_false,
      deposit_eq]
    rfl
  rw [heq]
  cases hk : s.liveKeys.get? (x.ledgerUuid, .ofDeposit x.ledgerUuid) with
  | some u => exact .inl ⟨_, u, rfl, record_of_taken hk⟩
  | none => exact .inr ⟨rfl, record_of_free rfl (Table.get?_insert_self ..) hk⟩

/-- **Opening a ledger.** -/
theorem openLedger_cases (s : Store) (subsidy : Uuid) (balance : Int) (stamp : Stamp) :
    (∃ e, s.openLedger subsidy balance stamp = (.error e, s)) ∨
      ∃ x l, s.Openable subsidy balance x l ∧
        ((∃ e u, s.liveKeys.get? (x.ledgerUuid, .ofDeposit x.ledgerUuid) = some u ∧
            s.openLedger subsidy balance stamp = (.error e, s.marked x.ledgerUuid l)) ∨
          (s.liveKeys.get? (x.ledgerUuid, .ofDeposit x.ledgerUuid) = none ∧
            s.openLedger subsidy balance stamp =
              (.ok (opening x balance stamp), s.opened x l balance stamp))) := by
  cases hb : checkStartingBalance balance with
  | error e => exact .inl ⟨e, by simp only [openLedger, hb]⟩
  | ok _ =>
    cases hx : s.subsidies.get? subsidy with
    | none => exact .inl ⟨noSubsidy subsidy, by simp only [openLedger, hb, hx]⟩
    | some x =>
      cases hl : s.ledgers.get? x.ledgerUuid with
      | none => exact .inl ⟨noLedger x.ledgerUuid, by simp only [openLedger, hb, hx, hl]⟩
      | some l =>
        cases ho : l.isOpen with
        | true => exact .inl ⟨_, by simp only [openLedger, hb, hx, hl, ho, if_true]; rfl⟩
        | false =>
          have h : s.Openable subsidy balance x l :=
            ⟨checkStartingBalance_eq_ok_iff.mp hb, hx, hl, ho⟩
          exact .inr ⟨x, l, h, openLedger_of_openable h stamp⟩

/-- None of the six refusals is left once the ledger admits the transaction and covers it. -/
theorem append_eq_ok {s : Store} {l : Ledger} {t : Transaction} (h : s.Admits l t)
    (hq : s.checkSufficient t.ledgerUuid t.quantity = .ok ()) :
    s.append t = (.ok t, s.recorded l t) := by
  have ha : checkAppended t = .ok () := checkAppended_eq_ok_iff.mpr ⟨h.committed, h.keyed⟩
  have hf : s.checkFits t = .ok () := checkFits_eq_ok_iff.mpr ⟨l, h.ledger, h.unit, hq⟩
  simp only [append, ha, hf]
  exact record_of_free h.committed h.ledger h.free

/-- **Appending a transaction.** -/
theorem append_cases (s : Store) (t : Transaction) :
    (∃ e, s.append t = (.error e, s)) ∨
      ∃ l, s.Admits l t ∧ s.checkSufficient t.ledgerUuid t.quantity = .ok () ∧
        s.append t = (.ok t, s.recorded l t) := by
  cases ha : checkAppended t with
  | error e => exact .inl ⟨e, by simp only [append, ha]⟩
  | ok _ =>
    obtain ⟨hs, hk⟩ := checkAppended_eq_ok_iff.mp ha
    cases hf : s.checkFits t with
    | error e => exact .inl ⟨e, by simp only [append, ha, hf]⟩
    | ok _ =>
      obtain ⟨l, hl, hu, hq⟩ := checkFits_eq_ok_iff.mp hf
      cases hfree : s.liveKeys.get? (t.ledgerUuid, t.key) with
      | some u =>
        exact .inl ⟨_, by simp only [append, ha, hf]; exact record_of_taken hfree⟩
      | none =>
        have h : s.Admits l t := ⟨hs, hk, hl, hu, hfree⟩
        exact .inr ⟨l, h, hq, append_eq_ok h hq⟩

theorem recorded_of_append {s s' : Store} {t t' : Transaction} (h : s.append t = (.ok t', s')) :
    t' = t ∧ ∃ l, s.Admits l t ∧ s' = s.recorded l t := by
  rcases s.append_cases t with ⟨e, he⟩ | ⟨l, ht, -, he⟩
  · cases (Prod.mk.inj (h.symm.trans he)).1
  · obtain ⟨ht', hs'⟩ := Prod.mk.inj (h.symm.trans he)
    exact ⟨Except.ok.inj ht', l, ht, hs'⟩

theorem same_of_append_error {s s' : Store} {t : Transaction} {e : LedgerError}
    (h : s.append t = (.error e, s')) : s' = s := by
  rcases s.append_cases t with ⟨e', he⟩ | ⟨l, -, -, he⟩
  · exact (Prod.mk.inj (h.symm.trans he)).2
  · cases (Prod.mk.inj (h.symm.trans he)).1

/-- **Reversing a transaction.** -/
theorem reverse_cases (s : Store) (uuid : Uuid) (stamp : Stamp) :
    (∃ e, s.reverse uuid stamp = (.error e, s)) ∨
      ∃ t, s.Reversible uuid t ∧ s.checkSufficient t.ledgerUuid (-t.quantity) = .ok () ∧
        s.reverse uuid stamp = (.ok (withReversal t stamp), s.reversed uuid t stamp) := by
  unfold reverse
  cases ht : s.transactions.get? uuid with
  | none => exact .inl ⟨_, rfl⟩
  | some t =>
    by_cases hs : t.state = .committed
    · cases hr : t.reversal with
      | some r =>
        refine .inl ⟨.alreadyExists ("Reversal for transaction " ++ uuid.toString), ?_⟩
        simp [hs, hr]
      | none =>
        cases hq : s.checkSufficient t.ledgerUuid (-t.quantity) with
        | error e => exact .inl ⟨e, by simp [hs, hr, hq]⟩
        | ok _ => exact .inr ⟨t, ⟨ht, hs, hr⟩, hq, by simp [hs, hr, hq, reversed]⟩
    · exact .inl ⟨_, by simp only [hs, ne_eq, not_false_eq_true, if_true]; rfl⟩

theorem reversed_of_reverse {s s' : Store} {uuid : Uuid} {stamp : Stamp} {t' : Transaction}
    (h : s.reverse uuid stamp = (.ok t', s')) :
    ∃ t, s.Reversible uuid t ∧ t' = withReversal t stamp ∧ s' = s.reversed uuid t stamp := by
  rcases s.reverse_cases uuid stamp with ⟨e, he⟩ | ⟨t, ht, -, he⟩
  · cases (Prod.mk.inj (h.symm.trans he)).1
  · obtain ⟨ht', hs'⟩ := Prod.mk.inj (h.symm.trans he)
    exact ⟨t, ht, Except.ok.inj ht', hs'⟩

theorem same_of_reverse_error {s s' : Store} {uuid : Uuid} {stamp : Stamp} {e : LedgerError}
    (h : s.reverse uuid stamp = (.error e, s')) : s' = s := by
  rcases s.reverse_cases uuid stamp with ⟨e', he⟩ | ⟨t, -, -, he⟩
  · exact (Prod.mk.inj (h.symm.trans he)).2
  · cases (Prod.mk.inj (h.symm.trans he)).1

end Bursar.Store

namespace Bursar

/-! ## What stays -/

/-- `t'` is the transaction `t`, perhaps with a reversal attached since. -/
def Transaction.Becomes (t t' : Transaction) : Prop :=
  t' = t ∨ t.reversal = none ∧ ∃ stamp, t' = Store.withReversal t stamp

namespace Transaction.Becomes

variable {t t' t'' : Transaction}

theorem refl (t : Transaction) : t.Becomes t := .inl rfl

theorem uuid_eq (h : t.Becomes t') : t'.uuid = t.uuid := by
  rcases h with rfl | ⟨-, stamp, rfl⟩ <;> rfl

theorem ledgerUuid_eq (h : t.Becomes t') : t'.ledgerUuid = t.ledgerUuid := by
  rcases h with rfl | ⟨-, stamp, rfl⟩ <;> rfl

theorem key_eq (h : t.Becomes t') : t'.key = t.key := by
  rcases h with rfl | ⟨-, stamp, rfl⟩ <;> rfl

/-- A reversal is attached once. -/
theorem trans (h : t.Becomes t') (h' : t'.Becomes t'') : t.Becomes t'' := by
  rcases h with rfl | ⟨hr, stamp, rfl⟩
  · exact h'
  · rcases h' with rfl | ⟨hr', -⟩
    · exact .inr ⟨hr, stamp, rfl⟩
    · cases hr'

end Transaction.Becomes

namespace Store

/-- Every transaction of `s` is still in `s'`, the same but for a reversal. -/
def Keeps (s s' : Store) : Prop :=
  ∀ {u t}, s.transactions.get? u = some t →
    ∃ t', s'.transactions.get? u = some t' ∧ t.Becomes t'

variable {s : Store}

theorem keeps_of_eq {s' : Store} (h : s'.transactions = s.transactions) : s.Keeps s' := by
  intro u t ht
  exact ⟨t, by rw [h]; exact ht, .refl t⟩

theorem keeps_recorded {l : Ledger} {t : Transaction} (fresh : s.transactions.get? t.uuid = none) :
    s.Keeps (s.recorded l t) := by
  intro u t' ht'
  exact ⟨t', Table.get?_insert_of_get? fresh ht' _, .refl t'⟩

theorem keeps_reversed {uuid : Uuid} {t : Transaction} (ht : s.Reversible uuid t) (stamp : Stamp) :
    s.Keeps (s.reversed uuid t stamp) := by
  intro u t' ht'
  by_cases hu : u = uuid
  · subst hu
    obtain rfl := Option.some.inj (ht.stored.symm.trans ht')
    exact ⟨_, Table.get?_insert_self .., .inr ⟨ht.unreversed, stamp, rfl⟩⟩
  · exact ⟨t', (Table.get?_insert_of_ne _ hu _).trans ht', .refl t'⟩

end Store
end Bursar
