import Bursar.Proofs.Spend.Recording
import Mathlib.Data.Finset.Card

/-!
# One enrollment for a key

A caller who does not know whether a request went through sends it again. The
key of the request sees to it that the learner is enrolled and charged once:
while a spend for a key is at work others for that key wait for the lock, and
once its transaction is recorded they find it and ask nobody
(`System.OncePerKey`). Where everything is at rest, the stored transactions that
are not deposits are as many as the enrollments granted
(`Orderly.length_transactions`).
-/

namespace Bursar

open Relation (ReflTransGen)

/-- A spend that found a key free found the one that its command is for. -/
theorem SpendRun.Placed.isFor {s : Shared} {cmd : SpendCommand} {run : SpendRun} {ledger : Uuid}
    {key : IdempotencyKey} (h : run.Placed s cmd) (hk : run.claim? = some (ledger, key)) :
    cmd.IsFor s.store ledger key := by
  cases run with
  | arrived | located | waiting | checking | finished => cases hk
  | pricing k x lock key' | weighing k x lock key' quantity =>
    obtain ⟨rfl, rfl⟩ := Prod.mk.inj (Option.some.inj hk)
    obtain ⟨-, hx, ⟨hstored, -⟩, rfl⟩ := h
    exact ⟨x, by rw [← hx]; exact hstored, rfl, rfl⟩
  | enrolling k x lock t =>
    obtain ⟨rfl, rfl⟩ := Prod.mk.inj (Option.some.inj hk)
    obtain ⟨-, hx, ⟨hstored, -⟩, hbills, -⟩ := h
    exact .of_bills hstored hx hbills
  | recording lock t =>
    obtain ⟨rfl, rfl⟩ := Prod.mk.inj (Option.some.inj hk)
    obtain ⟨x, hx, ⟨hstored, -⟩, hbills, -⟩ := h
    exact .of_bills hstored hx hbills

theorem SpendRun.claim?_of_isAsking {run : SpendRun} (h : run.isAsking = true) :
    ∃ ledger key, run.claim? = some (ledger, key) := by
  cases run with
  | pricing | enrolling => exact ⟨_, _, rfl⟩
  | arrived | located | waiting | checking | weighing | recording | finished => cases h

namespace System

/-- Task `p` carried out the command and came to `o`. -/
def CameTo (c : System) (p : Nat) (cmd : SpendCommand) (o : SpendOutcome) : Prop :=
  c.work p = .spend cmd (.finished (.ok o))

/-- **Exactly once for a key**: at most one enrollment is granted and at most one
transaction created for it, all who succeed come to the same transaction, and once
it is recorded nobody asks for a price or an enrollment any more. -/
structure OncePerKey (c : System) (ledger : Uuid) (key : IdempotencyKey) : Prop where
  enrolled : (c.fulfilled.filter fun f => f.ledger = ledger ∧ f.key = key).length ≤ 1
  created : ∀ {p q cmd cmd' t t'}, c.CameTo p cmd (.created t) → c.CameTo q cmd' (.created t') →
    cmd.IsFor c.store ledger key → cmd'.IsFor c.store ledger key → p = q
  same : ∀ {p q cmd cmd' o o'}, c.CameTo p cmd o → c.CameTo q cmd' o' →
    cmd.IsFor c.store ledger key → cmd'.IsFor c.store ledger key →
      o.transaction.uuid = o'.transaction.uuid
  silent : ∀ {t}, c.store.findByKey ledger key = some t → ∀ {d}, ReflTransGen WorkStep c d →
    ∀ {p cmd run}, d.work p = .spend cmd run → cmd.IsFor d.store ledger key →
      run.isAsking = false

namespace Orderly

variable {c d : System}

theorem grows (h : c.Orderly) (hstep : WorkStep c d) : c.shared.Grows d.shared := by
  cases hstep with
  | spendArrives | reverseArrives => exact .refl _
  | spend hw _ hstep =>
    exact (SpendRun.move_of_step hstep).grows (fun hl => h.guarded.holder (by rw [hw]; exact hl))
      fun hb => (h.sound.bill hw hb).1.1
  | reverse hw hstep =>
    exact (ReverseRun.move_of_step hstep).grows fun hl => h.guarded.holder (by rw [hw]; exact hl)

/-- A transaction once recorded is found under its key for ever. -/
theorem findByKey_steps (h : c.Orderly) {ledger : Uuid} {key : IdempotencyKey} {t : Transaction}
    (ht : c.store.findByKey ledger key = some t) (hsteps : ReflTransGen WorkStep c d) :
    ∃ t', d.store.findByKey ledger key = some t' := by
  induction hsteps with
  | refl => exact ⟨t, ht⟩
  | @tail b d hsteps hstep ih =>
    obtain ⟨t', ht'⟩ := ih
    have hb := h.steps hsteps
    obtain ⟨hstored, hl, hk⟩ := hb.sound.store.findByKey_eq_some_iff.mp ht'
    obtain ⟨t'', hstored', hbecomes⟩ := (hb.grows hstep).keeps hstored
    refine ⟨t'', (hb.step hstep).sound.store.findByKey_eq_some_iff.mpr ⟨?_, ?_, ?_⟩⟩
    · rw [hbecomes.uuid_eq]
      exact hstored'
    · rw [hbecomes.ledgerUuid_eq, hl]
    · rw [hbecomes.key_eq, hk]

/-- A key that is held is claimed by nobody. -/
theorem not_claimed (h : c.Orderly) {ledger : Uuid} {key : IdempotencyKey} {t : Transaction}
    (ht : c.store.findByKey ledger key = some t) (p : Nat) :
    (c.work p).claim? ≠ some (ledger, key) := by
  intro hk
  rw [h.sound.store.findByKey_eq_none_iff.mpr (h.ready.free hk)] at ht
  cases ht

/-- The transaction of a granted enrollment is stored under the key of the enrollment, or
the task is about to record it. -/
theorem stored_or_claimed (h : c.Orderly) {f : Fulfillment} (hf : f ∈ c.fulfilled) :
    (∃ t, c.store.findByKey f.ledger f.key = some t ∧ t.uuid = f.request.transactionUuid) ∨
      (c.work f.task).claim? = some (f.ledger, f.key) ∧
        ∃ t, (c.work f.task).paid? = some t ∧ t.uuid = f.request.transactionUuid := by
  obtain ⟨t, ht, hpaid⟩ := (h.accounted.pays hf).paid
  obtain ⟨cmd, ⟨lock, hw⟩ | hw⟩ := Work.paid?_cases ht
  · refine .inr ⟨?_, t, ht, hpaid.uuid⟩
    rw [hw, ← hpaid.ledger, ← hpaid.key]
    rfl
  · obtain ⟨t', hfind, hb, -⟩ := h.findByKey_of_finished hw
    refine .inl ⟨t', ?_, hb.uuid_eq.trans hpaid.uuid⟩
    have hledger : t'.ledgerUuid = f.ledger := hb.ledgerUuid_eq.trans hpaid.ledger
    have hkey : t'.key = f.key := hb.key_eq.trans hpaid.key
    rwa [hledger, hkey] at hfind

/-- Enrollments are told apart by the identifiers that they were asked for with. -/
theorem eq_of_uuid_eq (h : c.Orderly) {f f' : Fulfillment} (hf : f ∈ c.fulfilled)
    (hf' : f' ∈ c.fulfilled)
    (he : f.request.transactionUuid = f'.request.transactionUuid) : f = f' :=
  List.inj_on_of_nodup_map h.accounted.distinct hf hf' he

/-- **No two enrollments are granted for one key.** -/
theorem eq_of_key_eq (h : c.Orderly) {f f' : Fulfillment} (hf : f ∈ c.fulfilled)
    (hf' : f' ∈ c.fulfilled) (hl : f.ledger = f'.ledger) (hk : f.key = f'.key) : f = f' := by
  refine h.eq_of_uuid_eq hf hf' ?_
  rcases h.stored_or_claimed hf with ⟨t, ht, hu⟩ | ⟨hc, t, ht, hu⟩ <;>
    rcases h.stored_or_claimed hf' with ⟨t', ht', hu'⟩ | ⟨hc', t', ht', hu'⟩
  · rw [← hl, ← hk] at ht'
    obtain rfl := Option.some.inj (ht.symm.trans ht')
    exact hu.symm.trans hu'
  · rw [← hl, ← hk] at hc'
    exact absurd hc' (h.not_claimed ht _)
  · rw [← hl, ← hk] at ht'
    exact absurd hc (h.not_claimed ht' _)
  · -- both hold the lock of the ledger, so they are one task
    rw [← hl] at hc'
    have hsame : f.task = f'.task := h.guarded.exclusive h.sound.store.toCoherent
      (h.guarded.holds_of_claim hc) (h.guarded.holds_of_claim hc')
    rw [← hsame] at ht'
    obtain rfl := Option.some.inj (ht.symm.trans ht')
    exact hu.symm.trans hu'

/-- Who created a transaction has an enrollment granted under the key of the command. -/
theorem granted_of_created (h : c.Orderly) {p : Nat} {cmd : SpendCommand} {t : Transaction}
    (hw : c.CameTo p cmd (.created t)) {ledger : Uuid} {key : IdempotencyKey}
    (hfor : cmd.IsFor c.store ledger key) :
    ∃ f ∈ c.fulfilled, f.task = p ∧ f.ledger = ledger ∧ f.key = key := by
  have hpaid : (c.work p).paid? = some t := by
    rw [show c.work p = _ from hw]
    rfl
  obtain ⟨f, hf, rfl, -⟩ := h.accounted.granted hpaid
  have hpays := h.accounted.pays hf
  rw [show c.work f.task = _ from hw] at hpays
  exact ⟨f, hf, rfl, hpays.1.unique hfor⟩

/-- **Exactly once for every key.** -/
theorem oncePerKey (h : c.Orderly) (ledger : Uuid) (key : IdempotencyKey) :
    c.OncePerKey ledger key where
  enrolled := by
    have hnodup := h.accounted.distinct.of_map.filter fun f => f.ledger = ledger ∧ f.key = key
    rw [← List.toFinset_card_of_nodup hnodup, Finset.card_le_one]
    intro f hf f' hf'
    rw [List.mem_toFinset, List.mem_filter, decide_eq_true_eq] at hf hf'
    obtain ⟨hf, hl, hk⟩ := hf
    obtain ⟨hf', hl', hk'⟩ := hf'
    exact h.eq_of_key_eq hf hf' (hl.trans hl'.symm) (hk.trans hk'.symm)
  created := by
    intro p q cmd cmd' t t' hp hq hfor hfor'
    obtain ⟨f, hf, rfl, hl, hk⟩ := h.granted_of_created hp hfor
    obtain ⟨f', hf', rfl, hl', hk'⟩ := h.granted_of_created hq hfor'
    rw [h.eq_of_key_eq hf hf' (hl.trans hl'.symm) (hk.trans hk'.symm)]
  same := by
    intro p q cmd cmd' o o' hp hq hfor hfor'
    obtain ⟨t, ht, hb, hown⟩ := h.findByKey_of_finished hp
    obtain ⟨t', ht', hb', hown'⟩ := h.findByKey_of_finished hq
    obtain ⟨hl, hk⟩ := hown.unique hfor
    obtain ⟨hl', hk'⟩ := hown'.unique hfor'
    rw [hl, hk] at ht
    rw [hl', hk'] at ht'
    obtain rfl := Option.some.inj (ht.symm.trans ht')
    exact hb.uuid_eq.symm.trans hb'.uuid_eq
  silent := by
    intro t ht d hsteps p cmd run hw hfor
    by_contra hasking
    -- who asks has claimed the key, which is held for ever
    have hd := h.steps hsteps
    obtain ⟨t', ht'⟩ := h.findByKey_steps ht hsteps
    obtain ⟨l, k, hclaim⟩ := SpendRun.claim?_of_isAsking (Bool.eq_true_of_not_eq_false hasking)
    have hplaced := hd.guarded.placed p
    rw [hw] at hplaced
    obtain ⟨rfl, rfl⟩ := (SpendRun.Placed.isFor hplaced hclaim).unique hfor
    refine hd.not_claimed ht' p ?_
    rw [hw]
    exact hclaim

/-- Where everything is at rest, an enrollment has its transaction stored. -/
theorem stored_of_atRest (h : c.Orderly) (hrest : ∀ p, (c.work p).isAtRest = true)
    {f : Fulfillment} (hf : f ∈ c.fulfilled) :
    ∃ t, c.store.findByKey f.ledger f.key = some t ∧ t.uuid = f.request.transactionUuid := by
  rcases h.stored_or_claimed hf with hstored | ⟨hclaim, -⟩
  · exact hstored
  · have hr := hrest f.task
    rw [Work.claim?_of_isAtRest hr] at hclaim
    cases hclaim

/-- **Where everything is at rest, the transactions that are not deposits are as many as
the enrollments granted.** -/
theorem length_transactions (h : c.Orderly) (hrest : ∀ p, (c.work p).isAtRest = true) :
    (c.store.transactions.values.filter fun t => t.key ≠ .ofDeposit t.ledgerUuid).length =
      c.fulfilled.length := by
  -- the identifiers of the ones are those of the others, and none stands twice in either list
  have hs := h.sound.store
  have hkeys := Table.map_values hs.nodup_transactions hs.uuid_eq
  have hnodup : ((c.store.transactions.values.filter fun t =>
      t.key ≠ .ofDeposit t.ledgerUuid).map Transaction.uuid).Nodup := by
    refine List.Nodup.sublist (List.filter_sublist.map _) ?_
    rw [hkeys]
    exact hs.nodup_transactions
  have hperm := (List.perm_ext_iff_of_nodup hnodup h.accounted.distinct).mpr fun u => ?_
  · simpa using hperm.length_eq
  · simp only [List.mem_map, List.mem_filter, decide_eq_true_eq,
      Table.mem_values_iff hs.nodup_transactions]
    constructor
    · rintro ⟨t, ⟨⟨v, hv⟩, hk⟩, rfl⟩
      obtain ⟨f, hf, hu⟩ := h.accounted.paid hv hk
      exact ⟨f, hf, hu.trans (hs.uuid_eq hv).symm⟩
    · rintro ⟨f, hf, rfl⟩
      obtain ⟨t, ht, hu⟩ := h.stored_of_atRest hrest hf
      obtain ⟨hstored, hl, hk⟩ := hs.findByKey_eq_some_iff.mp ht
      refine ⟨t, ⟨⟨_, hstored⟩, ?_⟩, hu⟩
      rw [hl, hk]
      exact h.accounted.ordinary hf

end Orderly

/-- **One enrollment for a key**, whatever spends and reversals do side by side: every
enrollment is granted to a command for the ledger and the key that it is paid under;
each key is served once; and where everything is at rest, the transactions that are
not deposits are as many as the enrollments granted. -/
theorem enrolled_once_per_key {c₀ c : System} (h₀ : c₀.Provisioned)
    (h : ReflTransGen WorkStep c₀ c) :
    (∀ f ∈ c.fulfilled, ∃ cmd run, c.work f.task = .spend cmd run ∧
        cmd.IsFor c.store f.ledger f.key) ∧
      (∀ ledger key, c.OncePerKey ledger key) ∧
      ((∀ p, (c.work p).isAtRest = true) →
        (c.store.transactions.values.filter fun t => t.key ≠ .ofDeposit t.ledgerUuid).length =
          c.fulfilled.length) := by
  have ho := h₀.orderly.steps h
  refine ⟨fun f hf => ?_, ho.oncePerKey, ho.length_transactions⟩
  have hpays := ho.accounted.pays hf
  cases hw : c.work f.task with
  | idle | reverse | provide =>
    rw [hw] at hpays
    exact hpays.elim
  | spend cmd run =>
    rw [hw] at hpays
    exact ⟨cmd, run, rfl, hpays.1⟩

/-! ### A seat is ordered twice -/

/-- Task 2 came with the same order, and to the same transaction. -/
def seatSoldOnce : System :=
  seatSold.update 2 (seatShared []) (.spend seatOrder (.finished (.ok (.existing seatPaid))))

theorem steps_seatSoldOnce : ReflTransGen WorkStep seatsProvided seatSoldOnce := by
  have hfetch : seatSold.locks.fetch seats.uuid = (0, seatLocks []) := rfl
  have hchecking : ReflTransGen WorkStep seatSold
      (seatSold.update 2 (seatShared [(0, 2)]) (.spend seatOrder (.checking seatOrder seats 0))) :=
    steps_checking rfl rfl hfetch rfl
  exact (steps_seatSold.trans hchecking).tail
    (workStep_update 2 (.proceed default) (.finished (.ok (.existing seatPaid))) nofun rfl)

theorem enrolled_once_per_key_seatSoldOnce :
    seatSoldOnce.OncePerKey (.filled 2) ⟨"order-42"⟩ ∧ seatSoldOnce.fulfilled = [seatGranted] ∧
      (seatSoldOnce.store.transactions.values.filter fun t =>
        t.key ≠ .ofDeposit t.ledgerUuid).length = 1 := by
  obtain ⟨-, hkeys, hcount⟩ := enrolled_once_per_key provisioned_seatsProvided steps_seatSoldOnce
  refine ⟨hkeys _ _, rfl, hcount fun p => ?_⟩
  by_cases h₂ : p = 2
  · rw [h₂]
    rfl
  · rw [seatSoldOnce, update_work_of_ne _ h₂]
    by_cases h₁ : p = 1
    · rw [h₁]
      rfl
    · rw [seatSold, update_work_of_ne _ h₁]
      exact provisioned_seatsProvided.atRest p

end System
end Bursar
