import Bursar.Proofs.Spend.Accounting

/-!
# Paid enrollments are always recorded

The invariants of the last modules hold together in every system that spends and
reversals lead to from a provisioned one (`Provisioned.orderly`). With all of them
a spend whose learner is enrolled cannot fail any more: either it has recorded
its transaction, which is found under its key since, or its next step records it
(`enrolled_is_recorded`).
-/

namespace Bursar

open Relation (ReflTransGen)

theorem Store.findByKey_recorded (s : Store) (l : Ledger) (t : Transaction) :
    (s.recorded l t).findByKey t.ledgerUuid t.key = some t := by
  simp [findByKey, recorded, Table.get?_insert_self]

/-- A spend that records a transaction which the store takes comes to it. -/
theorem SpendRun.step_recording {p lock : Nat} {s : Shared} {l : Ledger} {t : Transaction}
    (h : s.store.append t = (.ok t, s.store.recorded l t)) (stamp : Stamp) :
    SpendRun.step p s (.recording lock t) (.proceed stamp) =
      some ({ s with store := s.store.recorded l t }.released lock, .finished (.ok (.created t))) := by
  simp [SpendRun.step, h, SpendRun.finish, Shared.released]

namespace System

/-- **The invariants together.** -/
structure Orderly (c : System) : Prop where
  sound : c.Sound
  guarded : c.Guarded
  ready : c.Ready
  accounted : c.Accounted

namespace Orderly

variable {c d : System}

theorem step (h : c.Orderly) (hstep : WorkStep c d) : d.Orderly where
  sound := h.sound.step (.inl hstep)
  guarded := h.guarded.step h.sound hstep
  ready := h.ready.step h.guarded h.sound hstep
  accounted := h.accounted.step h.ready h.guarded h.sound hstep

theorem steps (h : c.Orderly) (hsteps : ReflTransGen WorkStep c d) : d.Orderly := by
  induction hsteps with
  | refl => exact h
  | tail _ hstep ih => exact ih.step hstep

/-- A task that came to a transaction finds it under the key of its command. -/
theorem findByKey_of_finished (h : c.Orderly) {p : Nat} {cmd : SpendCommand} {o : SpendOutcome}
    (hw : c.work p = .spend cmd (.finished (.ok o))) :
    ∃ t, c.store.findByKey t.ledgerUuid t.key = some t ∧ o.transaction.Becomes t ∧
      cmd.IsFor c.store t.ledgerUuid t.key := by
  have ha := h.accounted.answered p
  rw [hw] at ha
  obtain ⟨t, ht, hb, hfor⟩ := ha
  have huuid : t.uuid = o.transaction.uuid := hb.uuid_eq
  refine ⟨t, h.sound.store.findByKey_eq_some_iff.mpr ⟨?_, rfl, rfl⟩, hb, hfor⟩
  rw [huuid]
  exact ht

end Orderly

theorem Provisioned.orderly {c : System} (h : c.Provisioned) : c.Orderly where
  sound := h.sound
  guarded := by
    constructor
    · intro p
      rcases h.work_cases p with hw | ⟨new, result, hw⟩ <;> simp [hw, Work.Placed]
    · intro p lock hl
      rcases h.work_cases p with hw | ⟨new, result, hw⟩ <;> simp [hw, Work.lock?] at hl
  ready := by
    constructor
    · intro p ledger key hk
      rcases h.work_cases p with hw | ⟨new, result, hw⟩ <;> simp [hw, Work.claim?] at hk
    · intro p t ht
      rcases h.work_cases p with hw | ⟨new, result, hw⟩ <;> simp [hw, Work.bill?] at ht
  accounted := h.accounted

/-- **Paid enrollments are always recorded**, whatever spends and reversals do side by
side. A task whose enrollment was granted either is about to record the transaction
that it asked with, and the store takes it whenever the task goes on; or it is over,
came to that transaction, and the transaction is found under its key, the same
but for a reversal. -/
theorem enrolled_is_recorded {c₀ c : System} (h₀ : c₀.Provisioned)
    (h : ReflTransGen WorkStep c₀ c) {f : Fulfillment} (hf : f ∈ c.fulfilled) :
    ∃ cmd t, f.PaidBy t ∧
      ((∃ lock, c.work f.task = .spend cmd (.recording lock t) ∧
          ∀ stamp, ∃ shared, SpendRun.step f.task c.shared (.recording lock t) (.proceed stamp) =
              some (shared, .finished (.ok (.created t))) ∧
            shared.store.findByKey t.ledgerUuid t.key = some t) ∨
        (c.work f.task = .spend cmd (.finished (.ok (.created t))) ∧
          ∃ t', c.store.findByKey t.ledgerUuid t.key = some t' ∧ t.Becomes t')) := by
  have ho := h₀.orderly.steps h
  obtain ⟨t, hpaid, hby⟩ := (ho.accounted.pays hf).paid
  obtain ⟨cmd, ⟨lock, hw⟩ | hw⟩ := Work.paid?_cases hpaid
  · obtain ⟨l, -, happend⟩ := ho.ready.append_eq_ok ho.guarded ho.sound hw
    refine ⟨cmd, t, hby, .inl ⟨lock, hw, fun stamp => ?_⟩⟩
    exact ⟨_, SpendRun.step_recording happend stamp, Store.findByKey_recorded ..⟩
  · obtain ⟨t', hfind, hb, -⟩ := ho.findByKey_of_finished hw
    refine ⟨cmd, t, hby, .inr ⟨hw, t', ?_, hb⟩⟩
    have hledger : t'.ledgerUuid = t.ledgerUuid := hb.ledgerUuid_eq
    have hkey : t'.key = t.key := hb.key_eq
    rwa [hledger, hkey] at hfind

/-! ### A seat is sold -/

theorem provisioned_seatsProvided : seatsProvided.Provisioned where
  provided := steps_seatsProvided
  atRest := by
    intro p
    by_cases hp : p = 0
    · rw [hp]
      rfl
    · rw [seatsProvided, update_work_of_ne _ hp]
      rfl

theorem enrolled_is_recorded_seatGranted :
    seatGranted ∈ seatEnrolled.fulfilled ∧
      ∃ cmd t, seatGranted.PaidBy t ∧
        ((∃ lock, seatEnrolled.work 1 = .spend cmd (.recording lock t) ∧
            ∀ stamp, ∃ shared,
              SpendRun.step 1 seatEnrolled.shared (.recording lock t) (.proceed stamp) =
                some (shared, .finished (.ok (.created t))) ∧
              shared.store.findByKey t.ledgerUuid t.key = some t) ∨
          (seatEnrolled.work 1 = .spend cmd (.finished (.ok (.created t))) ∧
            ∃ t', seatEnrolled.store.findByKey t.ledgerUuid t.key = some t' ∧ t.Becomes t')) :=
  ⟨List.mem_singleton_self _,
    enrolled_is_recorded provisioned_seatsProvided steps_seatEnrolled (List.mem_singleton_self _)⟩

end System
end Bursar
