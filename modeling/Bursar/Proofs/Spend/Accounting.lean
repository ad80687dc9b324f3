import Bursar.Proofs.Spend.Founding
import Bursar.Proofs.Spend.Readiness

/-!
# Every enrollment is accounted for

The enrollment service keeps no account of what it granted; the ledgers are to be
that account. `System.Accounted` says that they are: an enrollment granted to a
task has a transaction, which the task is about to record or has recorded, and
nothing but deposits and such transactions is stored.

The invariants together are `System.Orderly`. **Paid enrollments are always
recorded** (`enrolled_is_recorded`): once an enrollment is granted, the task that
asked for it cannot fail any more.
-/

namespace Bursar

open Relation (ReflTransGen)

/-- The command is to be carried out on the ledger, under the key. -/
def SpendCommand.IsFor (cmd : SpendCommand) (s : Store) (ledger : Uuid) (key : IdempotencyKey) :
    Prop :=
  ∃ x, s.subsidy? cmd.subsidy = some x ∧ x.ledgerUuid = ledger ∧ cmd.resolveKey ledger = key

namespace SpendCommand.IsFor

variable {cmd : SpendCommand} {s : Store} {ledger ledger' : Uuid} {key key' : IdempotencyKey}

/-- A command is for one key. -/
theorem unique (h : cmd.IsFor s ledger key) (h' : cmd.IsFor s ledger' key') :
    ledger = ledger' ∧ key = key' := by
  obtain ⟨x, hx, rfl, rfl⟩ := h
  obtain ⟨y, hy, rfl, rfl⟩ := h'
  obtain rfl := Option.some.inj (hx.symm.trans hy)
  exact ⟨rfl, rfl⟩

theorem of_bills {x : Subsidy} {t : Transaction} (hx : s.subsidies.get? x.uuid = some x)
    (hu : x.uuid = cmd.subsidy) (hb : cmd.Bills x t) : cmd.IsFor s t.ledgerUuid t.key :=
  ⟨x, by rw [← hu]; exact hx, hb.ledger.symm, by rw [hb.ledger, hb.key]⟩

theorem grows {c d : Shared} (hg : c.Grows d) (h : cmd.IsFor c.store ledger key) :
    cmd.IsFor d.store ledger key := by
  obtain ⟨x, hx, hrest⟩ := h
  exact ⟨x, hg.subsidies hx, hrest⟩

end SpendCommand.IsFor

/-! ## What an enrollment has to show for itself -/

/-- The transaction of a run whose learner is enrolled. -/
def SpendRun.paid? : SpendRun → Option Transaction
  | .recording _ t | .finished (.ok (.created t)) => some t
  | _ => none

theorem SpendRun.paid?_cases {run : SpendRun} {t : Transaction} (h : run.paid? = some t) :
    (∃ lock, run = .recording lock t) ∨ run = .finished (.ok (.created t)) := by
  unfold paid? at h
  split at h
  · obtain rfl := Option.some.inj h
    exact .inl ⟨_, rfl⟩
  · obtain rfl := Option.some.inj h
    exact .inr rfl
  · cases h

theorem SpendRun.paid?_eq_none {run : SpendRun} {lock : Nat} (hl : run.lock? = some lock)
    (hr : run.isRecording = false) : run.paid? = none := by
  cases run with
  | recording => cases hr
  | finished => cases hl
  | arrived | located | waiting | checking | pricing | weighing | enrolling => rfl

/-- The transaction `t` is the committed one that the enrollment was asked for with, on
the ledger and under the key that it is paid under. -/
structure Fulfillment.PaidBy (f : Fulfillment) (t : Transaction) : Prop where
  uuid : t.uuid = f.request.transactionUuid
  reference : t.referenceId = some f.reference
  committed : t.state = .committed
  ledger : t.ledgerUuid = f.ledger
  key : t.key = f.key

namespace Work

/-- The transaction of a task whose learner is enrolled. -/
def paid? : Work → Option Transaction
  | .spend _ run => run.paid?
  | _ => none

theorem paid?_cases {w : Work} {t : Transaction} (h : w.paid? = some t) :
    ∃ cmd, (∃ lock, w = .spend cmd (.recording lock t)) ∨
      w = .spend cmd (.finished (.ok (.created t))) := by
  cases w with
  | idle | reverse | provide => cases h
  | spend cmd run =>
    rcases SpendRun.paid?_cases h with ⟨lock, rfl⟩ | rfl
    · exact ⟨cmd, .inl ⟨lock, rfl⟩⟩
    · exact ⟨cmd, .inr rfl⟩

/-- The task pays for the enrollment. -/
def Pays (s : Store) (f : Fulfillment) : Work → Prop
  | .spend cmd run => cmd.IsFor s f.ledger f.key ∧ ∃ t, run.paid? = some t ∧ f.PaidBy t
  | _ => False

/-- If the task came to a transaction, that one is stored, perhaps reversed since, under
the key that the command is for. -/
def Answered (s : Store) : Work → Prop
  | .spend cmd (.finished (.ok o)) => ∃ t, s.transactions.get? o.transaction.uuid = some t ∧
      o.transaction.Becomes t ∧ cmd.IsFor s t.ledgerUuid t.key
  | _ => True

theorem Pays.paid {s : Store} {f : Fulfillment} {w : Work} (h : w.Pays s f) :
    ∃ t, w.paid? = some t ∧ f.PaidBy t := by
  cases w with
  | spend cmd run => exact h.2
  | idle | reverse | provide => exact h.elim

theorem Pays.grows {s s' : Shared} (hg : s.Grows s') {f : Fulfillment} {w : Work}
    (h : w.Pays s.store f) : w.Pays s'.store f := by
  cases w with
  | spend cmd run => exact ⟨h.1.grows hg, h.2⟩
  | idle | reverse | provide => exact h

theorem Answered.grows {s s' : Shared} (hg : s.Grows s') {w : Work} (h : w.Answered s.store) :
    w.Answered s'.store := by
  unfold Answered at h ⊢
  split
  · obtain ⟨t, ht, hb, hfor⟩ := h
    obtain ⟨t', ht', hb'⟩ := hg.keeps ht
    refine ⟨t', ht', hb.trans hb', ?_⟩
    rw [hb'.ledgerUuid_eq, hb'.key_eq]
    exact hfor.grows hg
  · trivial

end Work

namespace System

/-- **Every enrollment is accounted for.** -/
structure Accounted (c : System) : Prop where
  funded : ∀ {uuid l}, c.store.ledgers.get? uuid = some l → c.store.Funded uuid
  distinct : (c.fulfilled.map fun f => f.request.transactionUuid).Nodup
  ordinary : ∀ {f}, f ∈ c.fulfilled → f.key ≠ .ofDeposit f.ledger
  pays : ∀ {f}, f ∈ c.fulfilled → (c.work f.task).Pays c.store f
  granted : ∀ {p t}, (c.work p).paid? = some t →
    ∃ f ∈ c.fulfilled, f.task = p ∧ f.request.transactionUuid = t.uuid
  paid : ∀ {u t}, c.store.transactions.get? u = some t → t.key ≠ .ofDeposit t.ledgerUuid →
    ∃ f ∈ c.fulfilled, f.request.transactionUuid = u
  answered : ∀ p, (c.work p).Answered c.store

theorem Provisioned.accounted {c : System} (h : c.Provisioned) : c.Accounted where
  funded := h.funded
  distinct := by simp [h.founding.fulfilled]
  ordinary := by simp [h.founding.fulfilled]
  pays := by simp [h.founding.fulfilled]
  granted := by
    intro p t ht
    rcases h.work_cases p with hw | ⟨new, result, hw⟩ <;> simp [hw, Work.paid?] at ht
  paid := fun ht hk => absurd (h.founding.store.deposit ht) hk
  answered := by
    intro p
    rcases h.work_cases p with hw | ⟨new, result, hw⟩ <;> simp [hw, Work.Answered]

namespace Accounted

variable {c : System} {p : Nat}

/-- A task that grants nothing new: it pays what it paid, and what it stores is what it
paid or was there before. -/
theorem update (h : c.Accounted) {shared : Shared} {w : Work} (hg : c.shared.Grows shared)
    (hfunded : ∀ {uuid l}, shared.store.ledgers.get? uuid = some l → shared.store.Funded uuid)
    (hpays : ∀ {f}, (c.work p).Pays c.store f → w.Pays shared.store f)
    (hpaid : ∀ {t}, w.paid? = some t → (c.work p).paid? = some t)
    (hstored : ∀ {u t}, shared.store.transactions.get? u = some t →
      (∃ t₀, c.store.transactions.get? u = some t₀ ∧ t₀.Becomes t) ∨
        ∃ t₀, (c.work p).paid? = some t₀ ∧ t₀.uuid = u)
    (hanswered : w.Answered shared.store) : (c.update p shared w).Accounted where
  funded := hfunded
  distinct := h.distinct
  ordinary := h.ordinary
  pays := by
    intro f hf
    by_cases hq : f.task = p
    · rw [hq, update_work_self]
      exact hpays (hq ▸ h.pays hf)
    · rw [c.update_work_of_ne hq]
      exact (h.pays hf).grows hg
  granted := by
    intro q t ht
    by_cases hq : q = p
    · rw [hq, update_work_self] at ht
      rw [hq]
      exact h.granted (hpaid ht)
    · rw [c.update_work_of_ne hq] at ht
      exact h.granted ht
  paid := by
    intro u t ht hk
    rcases hstored ht with ⟨t₀, ht₀, hb⟩ | ⟨t₀, ht₀, rfl⟩
    · exact h.paid ht₀ (by rwa [← hb.key_eq, ← hb.ledgerUuid_eq])
    · obtain ⟨f, hf, -, hu⟩ := h.granted ht₀
      exact ⟨f, hf, hu⟩
  answered := by
    intro q
    by_cases hq : q = p
    · rw [hq, update_work_self]
      exact hanswered
    · rw [c.update_work_of_ne hq]
      exact (h.answered q).grows hg

/-- A task that leaves the store alone, and neither had a learner enrolled nor has. -/
theorem update_quiet (h : c.Accounted) {shared : Shared} {w : Work} (hs : shared.store = c.store)
    (hg : c.shared.Grows shared) (hp : (c.work p).paid? = none) (hw : w.paid? = none)
    (ha : w.Answered c.store) : (c.update p shared w).Accounted := by
  refine h.update hg (by rw [hs]; exact h.funded) ?_ (by simp [hw]) ?_ (by rwa [hs])
  · intro f hf
    obtain ⟨t, ht, -⟩ := hf.paid
    rw [hp] at ht
    cases ht
  · intro u t ht
    rw [hs] at ht
    exact .inl ⟨t, ht, .refl t⟩

theorem granting_of_none (h : c.Accounted) {f : Option Fulfillment} (hf : f = none) :
    (c.granting f).Accounted := by
  subst hf
  rwa [granting_none]

/-- The key that a spend found free is not that of a deposit, for these are all held. -/
theorem key_ne_ofDeposit (h : c.Accounted) (hr : c.Ready) (hg : c.Guarded) (hs : c.Sound)
    {ledger : Uuid} {key : IdempotencyKey} (hk : (c.work p).claim? = some (ledger, key)) :
    key ≠ .ofDeposit ledger := by
  rintro rfl
  obtain ⟨x, lock, -, ⟨hx, -⟩, rfl⟩ := hg.holds_of_claim hk
  obtain ⟨l, hl, -⟩ := hs.store.ledger_of_subsidy hx
  obtain ⟨u, hu⟩ := h.funded hl
  rw [hr.free hk] at hu
  cases hu

/-- A task that waits for an enrollment asks with an identifier that no granted
enrollment was asked for with. -/
theorem uuid_ne_of_granted (h : c.Accounted) (hs : c.Sound) {cmd : SpendCommand} {run : SpendRun}
    {t : Transaction} (hw : c.work p = .spend cmd run) (ht : run.bill? = some t)
    (hp : run.paid? = none) {f : Fulfillment} (hf : f ∈ c.fulfilled) :
    f.request.transactionUuid ≠ t.uuid := by
  intro he
  have hmem : t.uuid ∈ (c.work p).names := by
    rw [hw]
    simp [Work.names, ht]
  obtain ⟨t', ht', hpaid⟩ := (h.pays hf).paid
  have huuid : t'.uuid = t.uuid := hpaid.uuid.trans he
  obtain ⟨cmd', ⟨lock, hq⟩ | hq⟩ := Work.paid?_cases ht'
  · -- the transaction of `f` is not stored yet, so its identifier is held by its own task
    have hmem' : t.uuid ∈ (c.work f.task).names := by
      rw [hq, ← huuid]
      exact List.mem_singleton_self _
    rw [hs.distinct hmem' hmem, hw] at hq
    rw [(Work.spend.inj hq).2] at hp
    cases hp
  · -- it is stored, but the identifier that `p` asks with is not
    have hanswer := h.answered f.task
    rw [hq] at hanswer
    obtain ⟨t₂, ht₂, -⟩ := hanswer
    have hnone := (hs.unstored hmem).1
    rw [← huuid] at hnone
    exact Option.some_ne_none _ (ht₂.symm.trans hnone)

/-- **A granted enrollment is entered in the account**, with the transaction that its task
is about to record. -/
theorem grant (h : c.Accounted) (hr : c.Ready) (hg : c.Guarded) (hs : c.Sound)
    {cmd k : SpendCommand} {x : Subsidy} {lock : Nat} {pending t : Transaction} {reference : String}
    {now : Timestamp} (hw : c.work p = .spend cmd (.enrolling k x lock pending))
    (ht : pending.commit (some reference) (some enrollmentReferenceType) now = .ok t) :
    ((c.update p c.shared (.spend cmd (.recording lock t))).granting
      (SpendRun.fulfillment? p (.enrolling k x lock pending)
        (.enrolled (.ok reference) now))).Accounted := by
  obtain ⟨-, rfl⟩ := Transaction.commit_eq_ok ht
  have hplaced := hg.placed p
  rw [hw] at hplaced
  obtain ⟨-, hx, ⟨hstored, -⟩, hbills, -⟩ := hplaced
  have hunpaid : (c.work p).paid? = none := by rw [hw]; rfl
  -- the task had no learner enrolled before, so the old enrollments are those of others
  have hold {f : Fulfillment} (hf : f ∈ c.fulfilled) : f.task ≠ p := by
    intro he
    obtain ⟨t', ht', -⟩ := (he ▸ h.pays hf).paid
    rw [hunpaid] at ht'
    cases ht'
  refine
    { funded := h.funded, distinct := ?_, ordinary := ?_, pays := ?_, granted := ?_, paid := ?_,
      answered := ?_ }
  · change ((c.fulfilled ++ [_]).map _).Nodup
    rw [List.map_append, List.nodup_append]
    refine ⟨h.distinct, List.nodup_singleton _, ?_⟩
    rintro u hu _ hv rfl
    obtain ⟨f, hf, hfu⟩ := List.mem_map.mp hu
    exact h.uuid_ne_of_granted hs hw rfl rfl hf (hfu.trans (List.mem_singleton.mp hv))
  · intro f hf
    rcases List.mem_append.mp hf with hf | hf
    · exact h.ordinary hf
    · obtain rfl := List.mem_singleton.mp hf
      exact h.key_ne_ofDeposit hr hg hs (p := p) (by rw [hw]; rfl)
  · intro f hf
    rcases List.mem_append.mp hf with hf | hf
    · rw [granting_work, c.update_work_of_ne (hold hf)]
      exact h.pays hf
    · obtain rfl := List.mem_singleton.mp hf
      rw [granting_work, update_work_self]
      exact ⟨.of_bills hstored hx hbills, _, rfl, ⟨rfl, rfl, rfl, rfl, rfl⟩⟩
  · intro q t ht
    by_cases hq : q = p
    · rw [hq, granting_work, update_work_self] at ht
      obtain rfl := Option.some.inj ht
      exact ⟨_, List.mem_append_right _ (List.mem_singleton_self _), hq.symm, rfl⟩
    · rw [granting_work, c.update_work_of_ne hq] at ht
      obtain ⟨f, hf, hrest⟩ := h.granted ht
      exact ⟨f, List.mem_append_left _ hf, hrest⟩
  · intro u t ht hk
    obtain ⟨f, hf, hu⟩ := h.paid ht hk
    exact ⟨f, List.mem_append_left _ hf, hu⟩
  · intro q
    by_cases hq : q = p
    · rw [hq, granting_work, update_work_self]
      trivial
    · rw [granting_work, c.update_work_of_ne hq]
      exact h.answered q

/-- **A recorded transaction stays in the account** under the enrollment it pays for. -/
theorem record (h : c.Accounted) (hg : c.Guarded) {cmd : SpendCommand} {lock : Nat}
    {t : Transaction} {l : Ledger} {shared : Shared}
    (hw : c.work p = .spend cmd (.recording lock t)) (ht : c.store.Admits l t)
    (hstore : shared.store = c.store.recorded l t) (hgrows : c.shared.Grows shared) :
    (c.update p shared (.spend cmd (.finished (.ok (.created t))))).Accounted := by
  have hplaced := hg.placed p
  rw [hw] at hplaced
  obtain ⟨x, hx, ⟨hstored, -⟩, hbills, -⟩ := hplaced
  have hfor : cmd.IsFor c.store t.ledgerUuid t.key := .of_bills hstored hx hbills
  refine h.update hgrows ?_ ?_ ?_ ?_ ?_
  · intro uuid l' hl'
    rw [hstore] at hl' ⊢
    rcases Table.get?_insert_cases hl' with ⟨rfl, -⟩ | ⟨-, hl'⟩
    · exact (h.funded ht.ledger).recorded l t
    · exact (h.funded hl').recorded l t
  · intro f hf
    rw [hw] at hf
    exact hf.grows hgrows
  · intro t' ht'
    rw [hw]
    exact ht'
  · intro u t' ht'
    rw [hstore] at ht'
    rcases Table.get?_insert_cases ht' with ⟨rfl, rfl⟩ | ⟨-, ht'⟩
    · exact .inr ⟨_, by rw [hw]; rfl, rfl⟩
    · exact .inl ⟨t', ht', .refl t'⟩
  · refine ⟨t, ?_, .refl t, hfor.grows hgrows⟩
    rw [hstore]
    exact Table.get?_insert_self ..

theorem spend (h : c.Accounted) (hr : c.Ready) (hg : c.Guarded) (hs : c.Sound) {cmd : SpendCommand}
    {run run' : SpendRun} {input : StepInput} {shared : Shared} (hw : c.work p = .spend cmd run)
    (hm : SpendRun.Move p c.shared run input shared run') :
    ((c.update p shared (.spend cmd run')).granting (run.fulfillment? p input)).Accounted := by
  have hgrows : c.shared.Grows shared :=
    hm.grows (fun hl => hg.holder (by rw [hw]; exact hl)) fun hb => (hs.bill hw hb).1.1
  have hplaced := hg.placed p
  rw [hw] at hplaced
  cases hm with
  | lost | located | fetched | acquired | missed | priced | covered =>
    refine granting_of_none ?_ rfl
    exact h.update_quiet rfl hgrows (by rw [hw]; rfl) rfl trivial
  | gaveUp hl hrec hf =>
    refine granting_of_none ?_ hf
    refine h.update_quiet rfl hgrows ?_ rfl trivial
    rw [hw]
    exact SpendRun.paid?_eq_none hl hrec
  | @replayed k x lock t _ hfind =>
    obtain ⟨ht, hl, hk⟩ := hs.store.findByKey_eq_some_iff.mp hfind
    obtain ⟨rfl, hx, hstored, -⟩ := hplaced
    refine granting_of_none ?_ rfl
    refine h.update_quiet rfl hgrows (by rw [hw]; rfl) rfl ?_
    refine ⟨t, ht, .refl t, x, ?_, hl.symm, ?_⟩
    · rw [← hx]
      exact hstored
    · rw [hl, hk]
  | fulfilled ht => exact h.grant hr hg hs hw ht
  | unsettled ht =>
    -- a pending transaction can always be committed
    obtain ⟨-, -, -, -, hcreated⟩ := hplaced
    rw [Transaction.commit_of_created hcreated] at ht
    cases ht
  | @recorded lock t t' store _ ha =>
    obtain ⟨l, hadmits, he⟩ := hr.append_eq_ok hg hs hw
    obtain ⟨ht, rfl⟩ := Prod.mk.inj (ha.symm.trans he)
    obtain rfl := Except.ok.inj ht
    exact granting_of_none (h.record hg hw hadmits rfl hgrows) rfl
  | refused ha =>
    -- the store takes what a ready task records
    obtain ⟨l, -, he⟩ := hr.append_eq_ok hg hs hw
    cases (Prod.mk.inj (ha.symm.trans he)).1

theorem reverse (h : c.Accounted) (hg : c.Guarded) {u : Uuid} {run run' : ReverseRun}
    {stamp : Stamp} {shared : Shared} (hw : c.work p = .reverse u run)
    (hm : ReverseRun.Move p c.shared run stamp shared run') :
    (c.update p shared (.reverse u run')).Accounted := by
  have hgrows : c.shared.Grows shared := hm.grows fun hl => hg.holder (by rw [hw]; exact hl)
  have hunpaid : (c.work p).paid? = none := by rw [hw]; rfl
  rcases hm.store_cases with he | ⟨v, lock, t, -, ht, he⟩
  · exact h.update_quiet he hgrows hunpaid rfl trivial
  · refine h.update hgrows ?_ ?_ nofun ?_ trivial
    · intro uuid l hl
      rw [he] at hl ⊢
      have hfunded : c.store.Funded uuid := h.funded hl
      exact hfunded
    · intro f hf
      rw [hw] at hf
      exact hf.elim
    · intro u t' ht'
      rw [he] at ht'
      rcases Table.get?_insert_cases ht' with ⟨rfl, rfl⟩ | ⟨-, ht'⟩
      · exact .inl ⟨t, ht.stored, .inr ⟨ht.unreversed, stamp, rfl⟩⟩
      · exact .inl ⟨t', ht', .refl t'⟩

/-- **Every step of a spend or a reversal keeps the account.** -/
theorem step {d : System} (h : c.Accounted) (hr : c.Ready) (hg : c.Guarded) (hs : c.Sound)
    (hstep : WorkStep c d) : d.Accounted := by
  cases hstep with
  | spendArrives cmd hw | reverseArrives u hw =>
    exact h.update_quiet rfl (.refl _) (by rw [hw]; rfl) rfl trivial
  | spend hw _ hstep => exact h.spend hr hg hs hw (SpendRun.move_of_step hstep)
  | reverse hw hstep => exact h.reverse hg hw (ReverseRun.move_of_step hstep)

end Accounted
end System
end Bursar
