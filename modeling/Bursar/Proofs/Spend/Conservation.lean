import Bursar.Proofs.Ledger.Writes
import Bursar.Proofs.Spend.Alone
import Bursar.Proofs.Spend.Recording

/-!
# Balances are conserved

A step of a system is a write to its store with new identifiers, or leaves the
store alone (`Sound.step_writes`), so every store that tasks lead to has a history
(`reachable_store`). In it the balance of a subsidy's ledger is what the
transactions without a reversal come to; among them is, until it is reversed,
the deposit that the subsidy was provided with (`deposited`).

A spend or a reversal posts once, in the step that ends it, and exactly what it
then comes to; all other ledgers are left alone (`balances_conserved`). The same
holds of a whole task that nobody gets in the way of.
-/

namespace Bursar

open Relation (ReflTransGen)

theorem Transaction.Becomes.quantity_eq {t t' : Transaction} (h : t.Becomes t') :
    t'.quantity = t.quantity := by
  rcases h with rfl | ⟨-, stamp, rfl⟩ <;> rfl

/-- The subsidy has its deposit of that balance, perhaps reversed since. -/
def Store.Deposited (s : Store) (x : Subsidy) (balance : Int) : Prop :=
  ∃ t, s.transactions.get? t.uuid = some t ∧ t.ledgerUuid = x.ledgerUuid ∧
    t.key = .ofDeposit x.ledgerUuid ∧ t.quantity = balance

theorem Store.Deposited.keeps {s s' : Store} {x : Subsidy} {balance : Int}
    (h : s.Deposited x balance) (hk : s.Keeps s') : s'.Deposited x balance := by
  obtain ⟨t, ht, hledger, hkey, hq⟩ := h
  obtain ⟨t', ht', hb⟩ := hk ht
  refine ⟨t', ?_, hb.ledgerUuid_eq.trans hledger, hb.key_eq.trans hkey, hb.quantity_eq.trans hq⟩
  rw [hb.uuid_eq]
  exact ht'

/-- Opening the ledger of a subsidy deposits the balance, unless it is refused. -/
theorem Store.deposited_openLedger {s s' : Store} {x : Subsidy} {balance : Int} {stamp : Stamp}
    {t : Transaction} (hx : s.subsidies.get? x.uuid = some x)
    (h : s.openLedger x.uuid balance stamp = (.ok t, s')) : s'.Deposited x balance := by
  rcases s.openLedger_cases x.uuid balance stamp with
    ⟨e, he⟩ | ⟨y, l, ho, ⟨e, u, -, he⟩ | ⟨-, he⟩⟩
  · cases (Prod.mk.inj (h.symm.trans he)).1
  · cases (Prod.mk.inj (h.symm.trans he)).1
  · obtain rfl := Option.some.inj (hx.symm.trans ho.stored)
    obtain ⟨-, rfl⟩ := Prod.mk.inj (h.symm.trans he)
    exact ⟨opening x balance stamp, Table.get?_insert_self .., rfl, rfl, rfl⟩

/-- What is true of a provision at its station: the balance is the one asked for, the
subsidy is entered once its ledger is to be opened, and has its deposit in the end. -/
def Work.Deposits (s : Store) : Work → Prop
  | .provide new (.arrived k) => k = new
  | .provide new (.registering _ b) => b = new.startingBalance
  | .provide new (.opening x b) => b = new.startingBalance ∧ s.subsidies.get? x.uuid = some x
  | .provide new (.finished (.ok x)) => s.Deposited x new.startingBalance
  | _ => True

theorem Work.Deposits.keeps {s s' : Store} {w : Work} (h : w.Deposits s) (hk : s.Keeps s')
    (hx : ∀ {u x}, s.subsidies.get? u = some x → s'.subsidies.get? u = some x) :
    w.Deposits s' := by
  cases w with
  | idle | spend | reverse => trivial
  | provide new run =>
    cases run with
    | arrived | registering => exact h
    | opening => exact ⟨h.1, hx h.2⟩
    | finished result =>
      cases result with
      | error => trivial
      | ok x => exact Store.Deposited.keeps h hk

/-- A step of a provision keeps to the balance that was asked for, and deposits it. -/
theorem Work.Deposits.provide {s s' : Store} {new : NewSubsidy} {run run' : ProvisionRun}
    {stamp : ProvisionStamp} (h : (Work.provide new run).Deposits s)
    (hstep : run.step s stamp = some (s', run')) : (Work.provide new run').Deposits s' := by
  cases run with
  | arrived k =>
    obtain rfl : k = new := h
    cases hc : Store.checkNew k with
    | error e =>
      obtain ⟨rfl, rfl⟩ := by simpa [ProvisionRun.step, hc] using hstep
      trivial
    | ok _ =>
      obtain ⟨rfl, rfl⟩ := by simpa [ProvisionRun.step, hc] using hstep
      rfl
  | registering x b =>
    rcases s.register_cases x with ⟨e, he⟩ | ⟨hx, he⟩
    · obtain ⟨rfl, rfl⟩ := by simpa [ProvisionRun.step, he] using hstep
      trivial
    · obtain ⟨rfl, rfl⟩ := by simpa [ProvisionRun.step, he] using hstep
      exact ⟨h, Table.get?_insert_self ..⟩
  | opening x b =>
    obtain ⟨rfl, hx⟩ := h
    cases ho : s.openLedger x.uuid new.startingBalance stamp.deposit with
    | mk result store =>
      cases result with
      | error e =>
        obtain ⟨rfl, rfl⟩ := by simpa [ProvisionRun.step, ho] using hstep
        trivial
      | ok t =>
        obtain ⟨rfl, rfl⟩ := by simpa [ProvisionRun.step, ho] using hstep
        exact Store.deposited_openLedger hx ho
  | finished => cases hstep

namespace System

variable {c d : System} {p : Nat}

/-- **A step is a write with new identifiers**, or leaves the store alone. -/
theorem Sound.step_writes (h : c.Sound) (hs : Step c d) :
    d.store = c.store ∨ ∃ w, c.store.Fresh w ∧ d.store = c.store.after w := by
  rcases hs with hs | hs
  · cases hs with
    | spendArrives | reverseArrives => exact .inl rfl
    | spend hw _ hstep =>
      cases SpendRun.move_of_step hstep with
      | lost | located | fetched | acquired | replayed | missed | priced | covered | fulfilled
      | unsettled | gaveUp => exact .inl rfl
      | @recorded _ t _ _ _ ha | @refused _ t _ _ _ ha =>
        have hbill := h.bill hw rfl
        exact .inr ⟨.append t, ⟨hbill.1.1, hbill.2⟩, (congrArg Prod.snd ha).symm⟩
    | reverse hw hstep =>
      cases ReverseRun.move_of_step hstep with
      | lost | found | located | fetched | acquired => exact .inl rfl
      | @reversed u => exact .inr ⟨.reverse u _, trivial, rfl⟩
  · cases hs with
    | arrives => exact .inl rfl
    | @step p _ _ _ stamp _ hw fresh hstep =>
      cases ProvisionRun.move_of_step hstep with
      | declined | accepted | refused => exact .inl rfl
      | @entered x b hx =>
        have hn : x.ledgerUuid ∈ (c.work p).names := by rw [hw]; exact List.mem_singleton_self _
        refine .inr ⟨.register x, (h.unstored hn).2, ?_⟩
        rw [Store.after, Store.register, if_neg (by simp [Table.contains, hx])]
        rfl
      | @opened x b result =>
        exact .inr ⟨.openLedger x.uuid b stamp.deposit, (fresh _ (List.mem_singleton_self _)).1, rfl⟩

/-- **Every store that tasks lead to has a history.** -/
theorem reachable_store (h : ReflTransGen Step start c) : Store.Reachable c.store := by
  induction h with
  | refl => exact .empty
  | tail hs hstep ih =>
    rcases (sound_start.steps hs).step_writes hstep with he | ⟨w, hw, he⟩
    · rwa [he]
    · rw [he]
      exact ih.write w hw

/-! ## Deposits -/

theorem Sound.subsidies_step (h : c.Sound) (hs : Step c d) {u : Uuid} {x : Subsidy}
    (hx : c.store.subsidies.get? u = some x) : d.store.subsidies.get? u = some x := by
  rcases h.step_writes hs with he | ⟨w, -, he⟩
  · rwa [he]
  · rw [he]
    exact Store.subsidies_after w hx

theorem Sound.keeps_step (h : c.Sound) (hs : Step c d) : c.store.Keeps d.store := by
  rcases h.step_writes hs with he | ⟨w, hw, he⟩
  · exact Store.keeps_of_eq (by rw [he])
  · rw [he]
    exact Store.keeps_after hw

theorem deposits_update (hd : ∀ p, (c.work p).Deposits c.store) {shared : Shared} {w : Work}
    (hk : c.store.Keeps shared.store)
    (hx : ∀ {u x}, c.store.subsidies.get? u = some x → shared.store.subsidies.get? u = some x)
    (hw : w.Deposits shared.store) (q : Nat) :
    ((c.update p shared w).work q).Deposits shared.store := by
  by_cases hq : q = p
  · rwa [hq, update_work_self]
  · rw [c.update_work_of_ne hq]
    exact (hd q).keeps hk hx

theorem Sound.deposits_step (h : c.Sound) (hd : ∀ p, (c.work p).Deposits c.store) (hs : Step c d)
    (p : Nat) : (d.work p).Deposits d.store := by
  have hk : c.store.Keeps d.store := h.keeps_step hs
  have hx {u x} (hx : c.store.subsidies.get? u = some x) := h.subsidies_step hs hx
  rcases hs with hs | hs
  · cases hs with
    | spendArrives | spend => exact deposits_update (w := .spend _ _) hd hk hx trivial p
    | reverseArrives | reverse => exact deposits_update (w := .reverse _ _) hd hk hx trivial p
  · cases hs with
    | arrives new => exact deposits_update (w := .provide new (.arrived new)) hd hk hx rfl p
    | @step q _ _ _ _ _ hw _ hstep =>
      have hrun := hd q
      rw [hw] at hrun
      exact deposits_update hd hk hx (hrun.provide hstep) p

/-- **A subsidy that was provided has the deposit that was asked for.** -/
theorem deposited (h : ReflTransGen Step start c) {new : NewSubsidy} {x : Subsidy}
    (hw : c.work p = .provide new (.finished (.ok x))) : c.store.Deposited x new.startingBalance := by
  have hd : ∀ p, (c.work p).Deposits c.store := by
    clear hw
    induction h with
    | refl => exact fun _ => trivial
    | tail hs hstep ih => exact (sound_start.steps hs).deposits_step ih hstep
  have hp := hd p
  rwa [hw] at hp

/-! ## What a task posts -/

/-- **A step of a spend posts what the spend then comes to**, and nothing before that. -/
theorem Sound.spend_posts (h : c.Sound) {cmd : SpendCommand} {run run' : SpendRun}
    {input : StepInput} {shared : Shared} (hw : c.work p = .spend cmd run)
    (hstep : run.step p c.shared input = some (shared, run')) :
    c.store.Posts shared.store run'.posting? := by
  rcases (SpendRun.move_of_step hstep).outcome with ⟨hs, hp⟩ | ⟨lock, t, rfl, ha, rfl⟩
  · rw [hp]
    exact hs
  · have hbill := h.bill hw rfl
    exact h.store.moves_append ha hbill.1.1 hbill.2

/-- **A step of a reversal posts what the reversal then comes to**, and nothing before that. -/
theorem Sound.reverse_posts (h : c.Sound) {run run' : ReverseRun} {stamp : Stamp}
    {shared : Shared} (hstep : run.step p c.shared stamp = some (shared, run')) :
    c.store.Posts shared.store run'.posting? := by
  rcases ReverseRun.step_outcome hstep with ⟨hs, hp⟩ | ⟨u, lock, t, rfl, ha, rfl⟩
  · rw [hp]
    exact hs
  · exact h.store.moves_reverse ha

end System

/-- A spend posts what it comes to, if the identifier of its transaction is new. -/
theorem Store.Spends.posts {s s' : Store} {x : Subsidy} {result : Except SpendError SpendOutcome}
    (h : s.Spends x s' result) (hs : s.Sound)
    (fresh : ∀ t, result = .ok (.created t) → s.transaction? t.uuid = none) :
    s.Posts s' (spendPosting? result) := by
  cases h with
  | kept hp =>
    rw [hp]
    rfl
  | appended ha hx hr => exact hs.moves_append ha (fresh _ rfl) hr

/-- What a spend records is on the ledger of the subsidy that it is to spend. -/
theorem Store.Spends.ledger_eq {s s' : Store} {x : Subsidy} {t : Transaction}
    (h : s.Spends x s' (.ok (.created t))) : t.ledgerUuid = x.ledgerUuid := by
  cases h with
  | kept hp => cases hp
  | appended _ hx _ => exact hx

/-- A reversal posts what it comes to. -/
theorem Store.Reverses.posts {s s' : Store} {u : Uuid} {result : Except SpendError Transaction}
    (h : s.Reverses u s' result) (hs : s.Sound) : s.Posts s' (reversePosting? result) := by
  cases h with
  | kept => rfl
  | reversed ha => exact hs.moves_reverse ha

/-- What a reversal comes to is the transaction that it is to reverse. -/
theorem Store.Reverses.becomes {s s' : Store} {u : Uuid} {t : Transaction}
    (h : s.Reverses u s' (.ok t)) : ∃ t₀, s.transaction? u = some t₀ ∧ t₀.Becomes t := by
  cases h with
  | reversed ha =>
    obtain ⟨t₀, ht, rfl, -⟩ := reversed_of_reverse ha
    exact ⟨t₀, ht.stored, .inr ⟨ht.unreversed, _, rfl⟩⟩

namespace World

variable {σ : Type} {s : Surroundings σ} {w : World σ}

theorem spend_posts (hs : w.store.Sound) {cmd : SpendCommand}
    (fresh : ∀ t, (w.spend s cmd).1 = .ok (.created t) → w.store.transaction? t.uuid = none) :
    w.store.Posts (w.spend s cmd).2.store (spendPosting? (w.spend s cmd).1) := by
  cases hx : w.store.subsidy? cmd.subsidy with
  | none =>
    obtain ⟨hstore, hresult⟩ := spend_of_no_subsidy (s := s) hx
    rw [hresult]
    exact hstore
  | some x => exact (spend_spends hx).posts hs fresh

theorem ledger_of_spend {cmd : SpendCommand} {t : Transaction}
    (h : (w.spend s cmd).1 = .ok (.created t)) :
    ∃ x, w.store.subsidy? cmd.subsidy = some x ∧ t.ledgerUuid = x.ledgerUuid := by
  cases hx : w.store.subsidy? cmd.subsidy with
  | none =>
    rw [(spend_of_no_subsidy hx).2] at h
    cases h
  | some x =>
    have hspends := spend_spends (s := s) hx
    rw [h] at hspends
    exact ⟨x, rfl, hspends.ledger_eq⟩

end World

namespace System

/-- **Balances are conserved, and ledgers are kept apart**, whatever provisions, spends and
reversals do side by side. The balance of a subsidy's ledger is what its
transactions without a reversal come to, the deposit of the starting balance among
them; one with a reversal comes to nothing. A step of a spend or a reversal posts
what the task then comes to, to one ledger, and leaves all others alone; so does a
whole spend or reversal that nobody gets in the way of. -/
theorem balances_conserved {c : System} (h : ReflTransGen Step start c) :
    ((∀ u x, c.store.subsidy? u = some x →
        c.store.balance x.ledgerUuid = .ok (c.store.standing x.ledgerUuid)) ∧
      (∀ u t, c.store.transaction? u = some t → t.reversal.isSome → t.effect = 0) ∧
      ∀ p new x, c.work p = .provide new (.finished (.ok x)) →
        ∃ t ∈ c.store.listTransactions (.onLedger x.ledgerUuid),
          t.key = .ofDeposit x.ledgerUuid ∧ t.quantity = new.startingBalance) ∧
    ((∀ p cmd run input shared run', c.work p = .spend cmd run →
        SpendRun.step p c.shared run input = some (shared, run') →
        c.store.Posts shared.store run'.posting?) ∧
      ∀ p u run stamp shared run', c.work p = .reverse u run →
        ReverseRun.step p c.shared run stamp = some (shared, run') →
        c.store.Posts shared.store run'.posting?) ∧
    ∀ {σ : Type} (s : Surroundings σ) (w : World σ), w.store = c.store →
      (∀ cmd, (∀ t, (w.spend s cmd).1 = .ok (.created t) → c.store.transaction? t.uuid = none) →
        c.store.Posts (w.spend s cmd).2.store (spendPosting? (w.spend s cmd).1) ∧
          ∀ t, (w.spend s cmd).1 = .ok (.created t) →
            ∃ x, c.store.subsidy? cmd.subsidy = some x ∧ t.ledgerUuid = x.ledgerUuid) ∧
      ∀ u, c.store.Posts (w.reverse s u).2.store (reversePosting? (w.reverse s u).1) ∧
        ∀ t, (w.reverse s u).1 = .ok t →
          ∃ t₀, c.store.transaction? u = some t₀ ∧ t₀.Becomes t := by
  have hc := sound_start.steps h
  have hs := hc.store
  refine ⟨⟨?_, fun u t => hs.effect_of_reversed, ?_⟩, ⟨?_, ?_⟩, ?_⟩
  · intro u x hx
    obtain ⟨l, hl, -⟩ := hs.ledger_of_subsidy hx
    exact hs.balance_eq_standing hl
  · intro p new x hw
    obtain ⟨t, ht, hledger, hkey, hq⟩ := deposited h hw
    refine ⟨t, ?_, hkey, hq⟩
    rw [hs.listTransactions_onLedger]
    exact hs.mem_transactionsOf_iff.mpr ⟨ht, hledger⟩
  · exact fun p cmd run input shared run' hw hstep => hc.spend_posts hw hstep
  · exact fun p u run stamp shared run' _ hstep => hc.reverse_posts hstep
  · intro σ s w hw
    rw [← hw] at hs ⊢
    refine ⟨fun cmd fresh => ⟨World.spend_posts hs fresh, fun t => World.ledger_of_spend⟩,
      fun u => ?_⟩
    have hreverses := World.reverse_reverses s u w
    refine ⟨hreverses.posts hs, fun t ht => ?_⟩
    rw [ht] at hreverses
    exact hreverses.becomes

/-- Collaborators of whom nothing is asked. -/
def silence : Surroundings Unit where
  stamp := fun _ => (⟨.filled 6, ⟨7, 0⟩⟩, ())
  document := fun _ _ _ => (.error (.transport "nobody is there"), ())
  price := fun _ _ _ => (.crashed "nobody is there", ())
  enroll := fun _ _ => (.crashed "nobody is there", ())

/-- The service at the moment when a seat is about to be recorded. -/
def seatWorld : World Unit := .start seatEnrolled.store (.empty 0) ()

theorem balances_conserved_seatEnrolled :
    seatEnrolled.store.balance (.filled 2) = .ok 3 ∧ seatEnrolled.store.standing (.filled 2) = 3 ∧
      seatEnrolled.store.Moves (seatEnrolled.store.append seatPaid).2 ⟨.filled 2, -1⟩ ∧
      seatEnrolled.store.Moves (seatWorld.reverse silence (.filled 3)).2.store ⟨.filled 2, -3⟩ := by
  have hsteps : ReflTransGen Step start seatEnrolled :=
    steps_of_provided steps_seatsProvided steps_seatEnrolled
  obtain ⟨⟨hbalance, -⟩, ⟨hspend, -⟩, halone⟩ := balances_conserved hsteps
  have hstanding := hbalance (.filled 1) seats rfl
  refine ⟨rfl, (Except.ok.inj hstanding).symm, ?_, ?_⟩
  · exact hspend 1 seatOrder (.recording 0 seatPaid) (.proceed default) _ _ rfl rfl
  · exact ((halone silence seatWorld rfl).2 (.filled 3)).1

end System
end Bursar
