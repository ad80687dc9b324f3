import Bursar.Proofs.Ledger.Key
import Bursar.Proofs.Spend.Exclusion

/-!
# Ready to record

A spend finds its key free and its debit covered, and only then asks for the
enrollment. While it waits for the answers other tasks make their steps. Still
what it found is true when it records its transaction (`System.Ready`): a step
changes the keys and the total of a ledger only under the lock of the ledger's
subsidy, and that lock is held by the spend. So the store takes the transaction
of every spend that comes to record one (`Ready.append_eq_ok`).
-/

namespace Bursar

/-! ## Steps that leave a ledger alone -/

namespace Store

/-- The ledger has the same keys in `s'` as in `s`, and its transactions come to the same. -/
structure SameOn (s s' : Store) (ledger : Uuid) : Prop where
  liveKeys : ∀ key, s'.liveKeys.get? (ledger, key) = s.liveKeys.get? (ledger, key)
  total : s'.total ledger = s.total ledger

variable {s : Store} {ledger : Uuid}

theorem SameOn.refl (s : Store) (ledger : Uuid) : s.SameOn s ledger := ⟨fun _ => rfl, rfl⟩

theorem sameOn_recorded {l : Ledger} {t : Transaction}
    (fresh : s.transactions.get? t.uuid = none) (h : t.ledgerUuid ≠ ledger) :
    s.SameOn (s.recorded l t) ledger where
  liveKeys := fun _ => Table.get?_insert_of_ne _ (fun he => h (Prod.mk.inj he).1.symm) _
  total := by rw [total_recorded fresh, if_neg h, Int.add_zero]

theorem sameOn_reversed {uuid : Uuid} {t : Transaction} (ht : s.Reversible uuid t) (stamp : Stamp)
    (h : t.ledgerUuid ≠ ledger) : s.SameOn (s.reversed uuid t stamp) ledger where
  liveKeys := fun _ => rfl
  total := by rw [total_reversed ht, if_neg h, Int.sub_zero]

end Store

/-- A spend leaves every ledger alone but that of its transaction. -/
theorem SpendRun.Move.sameOn {p : Nat} {s s' : Shared} {run run' : SpendRun} {input : StepInput}
    (hm : SpendRun.Move p s run input s' run')
    (hb : ∀ {t}, run.bill? = some t → s.store.transactions.get? t.uuid = none) {ledger : Uuid}
    (hne : ∀ {t}, run.bill? = some t → t.ledgerUuid ≠ ledger) : s.store.SameOn s'.store ledger := by
  rcases hm.store_cases with he | ⟨lock, t, l, rfl, -, he⟩
  · rw [he]
    exact .refl _ _
  · rw [he]
    exact Store.sameOn_recorded (hb rfl) (hne rfl)

/-- A reversal leaves every ledger alone but that of the transaction it reverses. -/
theorem ReverseRun.Move.sameOn {p : Nat} {s s' : Shared} {run run' : ReverseRun} {stamp : Stamp}
    (hm : ReverseRun.Move p s run stamp s' run') {ledger : Uuid}
    (hne : ∀ {u lock t}, run = .reversing u lock → s.store.transactions.get? u = some t →
      t.ledgerUuid ≠ ledger) : s.store.SameOn s'.store ledger := by
  rcases hm.store_cases with he | ⟨u, lock, t, rfl, ht, he⟩
  · rw [he]
    exact .refl _ _
  · rw [he]
    exact Store.sameOn_reversed ht stamp (hne rfl ht.stored)

/-! ## What was found stays true -/

namespace System

/-- **What a spend found is still true**: the key it found free is free, and its debit is
covered. -/
structure Ready (c : System) : Prop where
  free : ∀ {p ledger key}, (c.work p).claim? = some (ledger, key) →
    c.store.liveKeys.get? (ledger, key) = none
  covered : ∀ {p t}, (c.work p).bill? = some t → 0 ≤ c.store.total t.ledgerUuid + t.quantity

namespace Ready

variable {c : System} {p : Nat}

theorem update (h : c.Ready) (hg : c.Guarded) {shared : Shared} {w : Work}
    (hothers : ∀ {q ledger}, q ≠ p → c.Holds q ledger → c.store.SameOn shared.store ledger)
    (hfree : ∀ {ledger key}, w.claim? = some (ledger, key) →
      shared.store.liveKeys.get? (ledger, key) = none)
    (hcovered : ∀ {t}, w.bill? = some t → 0 ≤ shared.store.total t.ledgerUuid + t.quantity) :
    (c.update p shared w).Ready := by
  constructor
  · intro q ledger key hk
    by_cases hq : q = p
    · rw [hq, update_work_self] at hk
      exact hfree hk
    · rw [c.update_work_of_ne hq] at hk
      exact ((hothers hq (hg.holds_of_claim hk)).liveKeys key).trans (h.free hk)
  · intro q t ht
    by_cases hq : q = p
    · rw [hq, update_work_self] at ht
      exact hcovered ht
    · rw [c.update_work_of_ne hq] at ht
      rw [update_store, (hothers hq (hg.holds_of_bill ht)).total]
      exact h.covered ht

/-- A task that leaves the store alone and has no claim afterwards. -/
theorem update_idle (h : c.Ready) (hg : c.Guarded) {shared : Shared} {w : Work}
    (hs : shared.store = c.store) (hk : w.claim? = none) (hb : w.bill? = none) :
    (c.update p shared w).Ready :=
  h.update hg (fun _ _ => by rw [hs]; exact .refl _ _) (by simp [hk]) (by simp [hb])

theorem granting (h : c.Ready) (f : Option Fulfillment) : (c.granting f).Ready :=
  ⟨h.free, h.covered⟩

theorem spend (h : c.Ready) (hg : c.Guarded) (hs : c.Sound) {cmd : SpendCommand}
    {run run' : SpendRun} {input : StepInput} {shared : Shared} (hw : c.work p = .spend cmd run)
    (hm : SpendRun.Move p c.shared run input shared run') :
    (c.update p shared (.spend cmd run')).Ready := by
  have hclaim {ledger key} (hk : run.claim? = some (ledger, key)) :
      c.store.liveKeys.get? (ledger, key) = none := h.free (p := p) (by rw [hw]; exact hk)
  have hbill {t} (ht : run.bill? = some t) : 0 ≤ c.store.total t.ledgerUuid + t.quantity :=
    h.covered (p := p) (by rw [hw]; exact ht)
  -- whoever holds another ledger's lock finds that ledger as it was
  have hothers {q ledger} (hq : q ≠ p) (hl : c.Holds q ledger) :
      c.store.SameOn shared.store ledger := by
    refine hm.sameOn (fun ht => (hs.bill hw ht).1.1) fun {t} ht => ?_
    rintro rfl
    have hp : c.Holds p t.ledgerUuid := hg.holds_of_bill (by rw [hw]; exact ht)
    exact hq (hg.exclusive hs.store.toCoherent hl hp)
  cases hm with
  | lost | located | fetched | acquired | replayed | unsettled | recorded | refused | gaveUp =>
    exact h.update hg hothers nofun nofun
  | missed hmiss =>
    refine h.update hg hothers ?_ nofun
    intro ledger key hk
    obtain ⟨rfl, rfl⟩ := Prod.mk.inj (Option.some.inj hk)
    exact hs.store.findByKey_eq_none_iff.mp hmiss
  | priced => exact h.update hg hothers hclaim nofun
  | covered hb hq =>
    refine h.update hg hothers hclaim ?_
    intro t ht
    obtain rfl := Option.some.inj ht
    obtain rfl := hs.store.eq_total hb
    exact hq
  | @fulfilled _ _ _ pending _ _ _ hcommit =>
    obtain ⟨-, rfl⟩ := Transaction.commit_eq_ok hcommit
    refine h.update hg hothers hclaim ?_
    intro t ht
    obtain rfl := Option.some.inj ht
    exact hbill (t := pending) rfl

theorem reverse (h : c.Ready) (hg : c.Guarded) (hs : c.Sound) {u : Uuid} {run run' : ReverseRun}
    {stamp : Stamp} {shared : Shared} (hw : c.work p = .reverse u run)
    (hm : ReverseRun.Move p c.shared run stamp shared run') :
    (c.update p shared (.reverse u run')).Ready := by
  refine h.update hg ?_ nofun nofun
  intro q ledger hq hl
  refine hm.sameOn fun hrun ht => ?_
  rintro rfl
  subst hrun
  exact hq (hg.exclusive hs.store.toCoherent hl (hg.holds_of_reversing hw ht))

/-- **Every step of a spend or a reversal keeps the others ready.** -/
theorem step {d : System} (h : c.Ready) (hg : c.Guarded) (hs : c.Sound) (hstep : WorkStep c d) :
    d.Ready := by
  cases hstep with
  | spendArrives | reverseArrives => exact h.update_idle hg rfl rfl rfl
  | spend hw fresh hstep => exact (h.spend hg hs hw (SpendRun.move_of_step hstep)).granting _
  | reverse hw hstep => exact h.reverse hg hs hw (ReverseRun.move_of_step hstep)

/-- **The store takes the transaction of a spend that comes to record it.** None of the
refusals of `Store.append` is possible. -/
theorem append_eq_ok (h : c.Ready) (hg : c.Guarded) (hs : c.Sound) {cmd : SpendCommand}
    {lock : Nat} {t : Transaction} (hw : c.work p = .spend cmd (.recording lock t)) :
    ∃ l, c.store.Admits l t ∧ c.store.append t = (.ok t, c.store.recorded l t) := by
  have hplaced := hg.placed p
  rw [hw] at hplaced
  obtain ⟨x, -, ⟨hx, -⟩, hbills, hcommitted⟩ := hplaced
  obtain ⟨l, hl, hunit⟩ := hs.store.ledger_of_subsidy hx
  have hledger : c.store.ledgers.get? t.ledgerUuid = some l := by rw [hbills.ledger]; exact hl
  have hadmits : c.store.Admits l t :=
    { committed := hcommitted
      keyed := by rw [hbills.key]; exact cmd.isEmpty_resolveKey _
      ledger := hledger
      unit := hunit.trans hbills.unit.symm
      free := h.free (p := p) (by rw [hw]; rfl) }
  have hcovers : c.store.checkSufficient t.ledgerUuid t.quantity = .ok () :=
    Store.checkSufficient_eq_ok_iff.mpr
      ⟨_, hs.store.balance_of_ledger hledger, fun _ => h.covered (p := p) (by rw [hw]; rfl)⟩
  exact ⟨l, hadmits, Store.append_eq_ok hadmits hcovers⟩

end Ready
end System
end Bursar
