import Bursar.Proofs.Spend.Soundness

/-!
# Before the first spend

Spends and reversals work on subsidies that have been provided. A system is
*provisioned* when nothing but provisions have taken steps in it, any number of
them side by side, and all of them are over (`System.Provisioned`).

In such a system every ledger has its deposit (`Provisioned.funded`) and nothing
but deposits is stored (`Provisioned.deposit`). A provision that entered its
subsidy cannot fail any more: the key of a ledger's deposit is free until the
ledger is opened (`Store.Founded`).
-/

namespace Bursar

open Relation (ReflTransGen)

namespace Store

/-- The key of the ledger's deposit is held. -/
def Funded (s : Store) (ledger : Uuid) : Prop :=
  ∃ u, s.liveKeys.get? (ledger, .ofDeposit ledger) = some u

/-- Nothing but deposits is stored, and an open ledger has its deposit. -/
structure Founded (s : Store) : Prop where
  deposit : ∀ {u t}, s.transactions.get? u = some t → t.key = .ofDeposit t.ledgerUuid
  funded : ∀ {uuid l}, s.ledgers.get? uuid = some l → l.isOpen = true → s.Funded uuid

variable {s : Store}

/-- A key that is held stays held. -/
theorem Funded.recorded {ledger : Uuid} (h : s.Funded ledger) (l : Ledger) (t : Transaction) :
    (s.recorded l t).Funded ledger := by
  obtain ⟨u, hu⟩ := h
  by_cases hk : (ledger, IdempotencyKey.ofDeposit ledger) = (t.ledgerUuid, t.key)
  · exact ⟨t.uuid, (Table.get?_insert ..).trans (if_pos hk)⟩
  · exact ⟨u, (Table.get?_insert_of_ne _ hk _).trans hu⟩

theorem Funded.openLedger {ledger : Uuid} (h : s.Funded ledger) (subsidy : Uuid) (b : Int)
    (stamp : Stamp) : (s.openLedger subsidy b stamp).2.Funded ledger := by
  rcases s.openLedger_cases subsidy b stamp with ⟨e, he⟩ | ⟨x, l, -, ⟨e, u, -, he⟩ | ⟨-, he⟩⟩
  · rw [he]
    exact h
  · rw [he]
    exact h
  · rw [he]
    exact h.recorded (s := s.marked x.ledgerUuid l) _ _

/-- Opening a ledger leaves the subsidies alone. -/
theorem subsidies_openLedger (s : Store) (subsidy : Uuid) (b : Int) (stamp : Stamp) :
    (s.openLedger subsidy b stamp).2.subsidies = s.subsidies := by
  rcases s.openLedger_cases subsidy b stamp with ⟨e, he⟩ | ⟨x, l, -, ⟨e, u, -, he⟩ | ⟨-, he⟩⟩ <;>
    rw [he] <;> rfl

theorem funded_opened (s : Store) (x : Subsidy) (l : Ledger) (b : Int) (stamp : Stamp) :
    (s.opened x l b stamp).Funded x.ledgerUuid :=
  ⟨_, Table.get?_insert_self ..⟩

namespace Founded

theorem entered (h : s.Founded) (x : Subsidy) : (s.entered x).Founded where
  deposit := h.deposit
  funded := by
    intro uuid l hl ho
    rcases Table.get?_insert_cases hl with ⟨-, rfl⟩ | ⟨-, hl⟩
    · cases ho
    · exact h.funded hl ho

theorem marked (h : s.Founded) {uuid : Uuid} (l : Ledger) (hk : s.Funded uuid) :
    (s.marked uuid l).Founded where
  deposit := h.deposit
  funded := by
    intro v r hr ho
    rcases Table.get?_insert_cases hr with ⟨rfl, -⟩ | ⟨-, hr⟩
    · exact hk
    · exact h.funded hr ho

theorem opened (h : s.Founded) (x : Subsidy) (l : Ledger) (b : Int) (stamp : Stamp) :
    (s.opened x l b stamp).Founded where
  deposit := by
    intro u t ht
    rcases Table.get?_insert_cases ht with ⟨-, rfl⟩ | ⟨-, ht⟩
    · rfl
    · exact h.deposit ht
  funded := by
    intro v r hr ho
    rcases Table.get?_insert_cases hr with ⟨rfl, -⟩ | ⟨hv, hr⟩
    · exact funded_opened ..
    · rcases Table.get?_insert_cases hr with ⟨hv', -⟩ | ⟨-, hr⟩
      · exact absurd hv' hv
      · exact (h.funded hr ho).recorded { l with isOpen := true } (opening x b stamp)

/-- After an attempt to open the ledger of a stored subsidy the ledger has its deposit. -/
theorem openLedger (h : s.Founded) (hs : s.Coherent) {x : Subsidy} {b : Int} (hb : 0 ≤ b)
    (hx : s.subsidies.get? x.uuid = some x) (stamp : Stamp) :
    (s.openLedger x.uuid b stamp).2.Founded ∧
      (s.openLedger x.uuid b stamp).2.Funded x.ledgerUuid := by
  obtain ⟨l, hl, -⟩ := hs.ledger_of_subsidy hx
  cases ho : l.isOpen with
  | true =>
    -- the call is refused, but what is open has its deposit
    have he : (s.openLedger x.uuid b stamp).2 = s := by
      have hc := checkStartingBalance_eq_ok_iff.mpr hb
      simp only [Store.openLedger, hc, hx, hl, ho, if_true]
    rw [he]
    exact ⟨h, h.funded hl ho⟩
  | false =>
    rcases openLedger_of_openable ⟨hb, hx, hl, ho⟩ stamp with ⟨e, u, hk, he⟩ | ⟨-, he⟩
    · rw [he]
      exact ⟨h.marked l ⟨u, hk⟩, ⟨u, hk⟩⟩
    · rw [he]
      exact ⟨h.opened x l b stamp, funded_opened ..⟩

end Founded
end Store

/-- What is true of a task at its station while nothing but provisions are at work. -/
def Work.Founding (s : Store) : Work → Prop
  | .idle | .provide _ (.arrived _) | .provide _ (.finished _) => True
  | .provide _ (.registering _ b) => 0 ≤ b
  | .provide _ (.opening x b) => 0 ≤ b ∧ s.subsidies.get? x.uuid = some x
  | .spend _ _ | .reverse _ _ => False

/-- The task is about to open the ledger of the subsidy `x`. -/
def Work.Opens (x : Subsidy) (w : Work) : Prop := ∃ new b, w = .provide new (.opening x b)

namespace System

/-- **What provisions keep**: a stored subsidy has its deposit, or a task is about to
make it. -/
structure Founding (c : System) : Prop where
  store : c.store.Founded
  work : ∀ p, (c.work p).Founding c.store
  locks : c.locks = .empty
  fulfilled : c.fulfilled = []
  pending : ∀ {u x}, c.store.subsidies.get? u = some x →
    c.store.Funded x.ledgerUuid ∨ ∃ p, (c.work p).Opens x

theorem founding_start : start.Founding where
  store := ⟨by simp [start, System.store, Store.empty], by simp [start, System.store, Store.empty]⟩
  work := fun _ => trivial
  locks := rfl
  fulfilled := rfl
  pending := by simp [start, System.store, Store.empty]

namespace Founding

variable {c : System} {p : Nat}

theorem update (h : c.Founding) {store : Store} {w : Work} (hstore : store.Founded)
    (hkeep : ∀ {u x}, c.store.subsidies.get? u = some x → store.subsidies.get? u = some x)
    (hown : w.Founding store)
    (hpending : ∀ {u x}, store.subsidies.get? u = some x →
      store.Funded x.ledgerUuid ∨ w.Opens x ∨ ∃ q, q ≠ p ∧ (c.work q).Opens x) :
    (c.update p { c.shared with store } w).Founding where
  store := hstore
  work := by
    intro q
    by_cases hq : q = p
    · rw [hq, update_work_self]
      exact hown
    · rw [c.update_work_of_ne hq]
      have hw := h.work q
      revert hw
      cases c.work q with
      | idle => exact id
      | spend | reverse => exact False.elim
      | provide new run =>
        cases run with
        | arrived | registering | finished => exact id
        | opening => exact fun hw => ⟨hw.1, hkeep hw.2⟩
  locks := h.locks
  fulfilled := h.fulfilled
  pending := by
    intro u x hx
    rcases hpending hx with hf | hw | ⟨q, hq, hw⟩
    · exact .inl hf
    · exact .inr ⟨p, by rwa [update_work_self]⟩
    · exact .inr ⟨q, by rwa [c.update_work_of_ne hq]⟩

/-- A task that leaves the store alone and was not about to open a ledger. -/
theorem update_of_same_store (h : c.Founding) {w : Work} (hown : w.Founding c.store)
    (hnot : ∀ x, ¬ (c.work p).Opens x) : (c.update p c.shared w).Founding := by
  refine h.update h.store id hown fun hx => ?_
  rcases h.pending hx with hf | ⟨q, hq⟩
  · exact .inl hf
  · exact .inr (.inr ⟨q, fun he => hnot _ (he ▸ hq), hq⟩)

theorem provide (h : c.Founding) (hs : c.Sound) {new : NewSubsidy} {run run' : ProvisionRun}
    {stamp : ProvisionStamp} {store : Store} (hw : c.work p = .provide new run)
    (hm : ProvisionRun.Move c.store stamp run store run') :
    (c.update p { c.shared with store } (.provide new run')).Founding := by
  have hown := h.work p
  rw [hw] at hown
  have hnot (hr : ∀ x b, run ≠ .opening x b) (x : Subsidy) : ¬ (c.work p).Opens x := by
    rintro ⟨new', b, hx⟩
    rw [hw] at hx
    exact hr x b (Work.provide.inj hx).2
  cases hm with
  | declined | refused => exact h.update_of_same_store trivial (hnot nofun)
  | accepted hb => exact h.update_of_same_store hb (hnot nofun)
  | @entered x b hx =>
    refine h.update (h.store.entered x) ?_ ⟨hown, Table.get?_insert_self ..⟩ fun hy => ?_
    · exact fun hy => Table.get?_insert_of_get? hx hy _
    · rcases Table.get?_insert_cases hy with ⟨-, rfl⟩ | ⟨-, hy⟩
      · exact .inr (.inl ⟨new, b, rfl⟩)
      · rcases h.pending hy with hf | ⟨q, hq⟩
        · exact .inl hf
        · exact .inr (.inr ⟨q, fun he => hnot nofun _ (he ▸ hq), hq⟩)
  | @opened x b result =>
    obtain ⟨hfounded, hfunded⟩ := h.store.openLedger hs.store.toCoherent hown.1 hown.2 stamp.deposit
    have hsame := c.store.subsidies_openLedger x.uuid b stamp.deposit
    refine h.update hfounded (fun hy => by rwa [hsame]) trivial fun {u y} hy => ?_
    -- `x` has its deposit now, and whoever opens another ledger still does
    by_cases hyx : y = x
    · exact .inl (hyx ▸ hfunded)
    · rcases h.pending (by rwa [hsame] at hy) with hf | ⟨q, hq⟩
      · exact .inl (hf.openLedger _ _ _)
      · refine .inr (.inr ⟨q, ?_, hq⟩)
        rintro rfl
        obtain ⟨new', b', hq⟩ := hq
        rw [hw] at hq
        exact hyx (ProvisionRun.opening.inj (Work.provide.inj hq).2).1.symm

/-- **Every step of a provision keeps what provisions keep.** -/
theorem step {d : System} (h : c.Founding) (hs : c.Sound) (hstep : ProvisionStep c d) :
    d.Founding := by
  cases hstep with
  | arrives new hw =>
    refine h.update_of_same_store trivial fun x hx => ?_
    obtain ⟨new', b, hx⟩ := hx
    rw [hw] at hx
    cases hx
  | step hw _ hstep => exact h.provide hs hw (ProvisionRun.move_of_step hstep)

theorem of_provided (h : ReflTransGen ProvisionStep start c) : c.Sound ∧ c.Founding := by
  induction h with
  | refl => exact ⟨sound_start, founding_start⟩
  | tail _ hs ih => exact ⟨ih.1.step (.inr hs), ih.2.step ih.1 hs⟩

end Founding

/-- **Subsidies have been provided, and nothing is at work**: provisions alone led here,
and all of them are over. -/
structure Provisioned (c : System) : Prop where
  provided : ReflTransGen ProvisionStep start c
  atRest : ∀ p, (c.work p).isAtRest = true

namespace Provisioned

variable {c : System}

theorem sound (h : c.Provisioned) : c.Sound := (Founding.of_provided h.provided).1

theorem founding (h : c.Provisioned) : c.Founding := (Founding.of_provided h.provided).2

/-- Every ledger has its deposit. -/
theorem funded (h : c.Provisioned) {uuid : Uuid} {l : Ledger}
    (hl : c.store.ledgers.get? uuid = some l) : c.store.Funded uuid := by
  obtain ⟨u, x, hx, rfl⟩ := h.sound.store.subsidy_of_ledger hl
  rcases h.founding.pending hx with hf | ⟨p, new, b, hp⟩
  · exact hf
  · have hrest := h.atRest p
    rw [hp] at hrest
    cases hrest

/-- No spend and no reversal has arrived. -/
theorem work_cases (h : c.Provisioned) (p : Nat) :
    c.work p = .idle ∨ ∃ new result, c.work p = .provide new (.finished result) := by
  have hf := h.founding.work p
  have hr := h.atRest p
  revert hf hr
  cases c.work p with
  | idle => exact fun _ _ => .inl rfl
  | spend | reverse => exact fun hf => False.elim hf
  | provide new run =>
    cases run with
    | arrived | registering | opening => exact fun _ hr => nomatch hr
    | finished result => exact fun _ _ => .inr ⟨new, result, rfl⟩

end Provisioned
end System
end Bursar
