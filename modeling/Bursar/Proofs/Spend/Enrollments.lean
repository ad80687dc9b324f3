import Bursar.Proofs.Ledger.Debit
import Bursar.Proofs.Spend.Replay

/-!
# What a spend answers with

A spend that succeeds comes to a transaction that pays for an enrollment which the
enrollment service granted (`Fulfillment.BookedBy`), or else to the deposit of its
ledger. The latter is for those who ask for it: only a command that brings the key of
the deposit as its own key can find the deposit (`spend_answers_with_enrollment`).

What carries this through every history is that nothing else is ever stored: each
transaction is a deposit or books an enrollment (`System.Booked`), and a run has the
subsidy of its command in hand, and no debit above zero (`SpendRun.Bound`).
-/

namespace Bursar

open Relation (ReflTransGen)

/-! ## Two kinds of transactions -/

/-- The transaction `t` pays for the enrollment, and says whose it is and in what. -/
structure Fulfillment.BookedBy (f : Fulfillment) (t : Transaction) : Prop extends f.PaidBy t where
  debit : t.quantity ≤ 0
  learner : t.learner = some f.request.learner
  contentKey : t.contentKey = some f.request.contentKey
  policy : ∃ policy, t.policyUuid = some policy
  referenceType : t.referenceType = some enrollmentReferenceType

namespace Transaction

variable {t t' : Transaction} {granted granted' : List Fulfillment}

/-- The transaction pays for one of the enrollments. -/
def IsEnrollment (granted : List Fulfillment) (t : Transaction) : Prop :=
  ∃ f ∈ granted, f.BookedBy t

/-- The transaction opened its ledger. -/
structure IsDeposit (t : Transaction) : Prop where
  key : t.key = .ofDeposit t.ledgerUuid
  committed : t.state = .committed
  credit : 0 ≤ t.quantity
  learner : t.learner = none
  contentKey : t.contentKey = none
  policy : t.policyUuid = none
  referenceId : t.referenceId = none
  referenceType : t.referenceType = none

/-- A deposit opened the ledger, or an enrollment is paid for. -/
def IsBooked (granted : List Fulfillment) (t : Transaction) : Prop :=
  t.IsDeposit ∨ t.IsEnrollment granted

theorem IsEnrollment.not_isDeposit (h : t.IsEnrollment granted) : ¬ t.IsDeposit := by
  obtain ⟨f, -, hf⟩ := h
  intro hd
  have hlearner := hf.learner
  rw [hd.learner] at hlearner
  cases hlearner

theorem IsEnrollment.mono (h : t.IsEnrollment granted) (hg : granted ⊆ granted') :
    t.IsEnrollment granted' := by
  obtain ⟨f, hf, hb⟩ := h
  exact ⟨f, hg hf, hb⟩

theorem IsBooked.mono (h : t.IsBooked granted) (hg : granted ⊆ granted') : t.IsBooked granted' :=
  h.imp_right fun he => he.mono hg

/-- A reversed transaction is of the kind that it was. -/
theorem IsBooked.becomes (h : t.IsBooked granted) (hb : t.Becomes t') : t'.IsBooked granted := by
  rcases hb with rfl | ⟨-, stamp, rfl⟩
  · exact h
  · rcases h with hd | ⟨f, hf, hb⟩
    · exact .inl ⟨hd.key, hd.committed, hd.credit, hd.learner, hd.contentKey, hd.policy,
        hd.referenceId, hd.referenceType⟩
    · exact .inr ⟨f, hf, ⟨hb.uuid, hb.reference, hb.committed, hb.ledger, hb.key⟩, hb.debit,
        hb.learner, hb.contentKey, hb.policy, hb.referenceType⟩

/-- What opening a ledger records is its deposit. -/
theorem isDeposit_opening (x : Subsidy) {balance : Int} (hb : 0 ≤ balance) (stamp : Stamp) :
    (Store.opening x balance stamp).IsDeposit :=
  ⟨rfl, rfl, hb, rfl, rfl, rfl, rfl, rfl⟩

end Transaction

/-- Only the key of the deposit itself stands for the key of the deposit. -/
theorem SpendCommand.key_of_resolveKey_eq {cmd : SpendCommand} {ledger : Uuid}
    (h : cmd.resolveKey ledger = .ofDeposit ledger) : cmd.key = some (.ofDeposit ledger) := by
  have hderived := IdempotencyKey.ofEnrollment_ne_ofDeposit ledger ledger cmd.subsidy cmd.policy
    cmd.learner cmd.contentKey
  unfold resolveKey at h
  cases hkey : cmd.key with
  | none =>
    rw [hkey] at h
    exact absurd h hderived
  | some key =>
    rw [hkey] at h
    by_cases hempty : key.isEmpty = true
    · simp only [if_pos hempty] at h
      exact absurd h hderived
    · simp only [if_neg hempty] at h
      rw [h]

/-! ## Runs -/

/-- The spend came to an enrollment, or to the deposit that its command asked for by its key. -/
def SpendOutcome.Answers (granted : List Fulfillment) (cmd : SpendCommand) (o : SpendOutcome) : Prop :=
  o.transaction.IsEnrollment granted ∨
    (∃ t, o = .existing t ∧ t.IsDeposit ∧ cmd.key = some (.ofDeposit t.ledgerUuid))

namespace SpendRun

/-- What is true of a spend for `cmd` at each station: it goes on the subsidy of its command, it
debits nothing above zero, and what it is about to record is an enrollment. -/
def Bound (granted : List Fulfillment) (s : Store) (cmd : SpendCommand) : SpendRun → Prop
  | .arrived k => k = cmd
  | .located k x | .waiting k x _ | .checking k x _ | .pricing k x _ _ =>
    k = cmd ∧ s.subsidy? cmd.subsidy = some x
  | .weighing k x _ _ quantity => (k = cmd ∧ s.subsidy? cmd.subsidy = some x) ∧ quantity ≤ 0
  | .enrolling k x _ t => (k = cmd ∧ s.subsidy? cmd.subsidy = some x) ∧
      ∃ key quantity stamp, quantity ≤ 0 ∧ t = pendingTransaction k x key quantity stamp
  | .recording _ t => (∃ x, s.subsidy? cmd.subsidy = some x ∧ t.ledgerUuid = x.ledgerUuid) ∧
      t.IsEnrollment granted
  | .finished (.ok o) =>
    (∃ x, s.subsidy? cmd.subsidy = some x ∧ o.transaction.ledgerUuid = x.ledgerUuid) ∧
      o.Answers granted cmd
  | .finished (.error _) => True

variable {granted granted' : List Fulfillment} {s s' : Store} {cmd : SpendCommand} {run run' : SpendRun}

/-- Nothing is taken back: neither subsidies nor enrollments. -/
theorem Bound.mono (h : run.Bound granted s cmd) (hg : granted ⊆ granted')
    (hs : ∀ {u x}, s.subsidies.get? u = some x → s'.subsidies.get? u = some x) :
    run.Bound granted' s' cmd := by
  cases run with
  | arrived => exact h
  | located | waiting | checking | pricing => exact ⟨h.1, hs h.2⟩
  | weighing | enrolling => exact ⟨⟨h.1.1, hs h.1.2⟩, h.2⟩
  | recording =>
    obtain ⟨⟨x, hx, hledger⟩, ht⟩ := h
    exact ⟨⟨x, hs hx, hledger⟩, ht.mono hg⟩
  | finished result =>
    cases result with
    | error => trivial
    | ok o =>
      obtain ⟨⟨x, hx, hledger⟩, ho⟩ := h
      exact ⟨⟨x, hs hx, hledger⟩, ho.imp_left fun he => he.mono hg⟩

theorem debitOfText_not_positive {unit : Denomination} {price : String} {quantity : Int}
    (h : debitOfText unit price = .ok quantity) : quantity ≤ 0 := by
  unfold debitOfText at h
  split at h
  · cases h
  · split at h
    · cases h
    · rename_i q hq
      obtain rfl := Except.ok.inj h
      exact Denomination.debit_not_positive hq

/-- **A step keeps a spend bound**, if nothing is stored but deposits and enrollments. An
enrollment that the step is granted counts. -/
theorem Move.bound {p : Nat} {s s' : Shared} {input : StepInput} (hm : Move p s run input s' run')
    (hc : s.store.Coherent)
    (hstored : ∀ {u t}, s.store.transactions.get? u = some t → t.IsBooked granted)
    (h : run.Bound granted s.store cmd) :
    run'.Bound (granted ++ (run.fulfillment? p input).toList) s.store cmd := by
  cases hm with
  | lost | unsettled | refused | gaveUp => trivial
  | located hx =>
    obtain rfl := h
    exact ⟨rfl, hx⟩
  | fetched | acquired | missed => exact h
  | @replayed k x lock t _ hfind =>
    obtain ⟨rfl, hx⟩ := h
    obtain ⟨ht, hledger, hkey⟩ := hc.findByKey_eq_some_iff.mp hfind
    refine ⟨⟨x, hx, hledger⟩, ?_⟩
    rcases hstored ht with hd | he
    · rw [← hledger] at hkey
      exact .inr ⟨t, rfl, hd, SpendCommand.key_of_resolveKey_eq (hkey.symm.trans hd.key)⟩
    · exact .inl (he.mono (List.subset_append_left ..))
  | priced hq => exact ⟨h, debitOfText_not_positive hq⟩
  | covered => exact ⟨h.1, _, _, _, h.2, rfl⟩
  | fulfilled ht =>
    obtain ⟨⟨rfl, hx⟩, key, quantity, stamp, hq, rfl⟩ := h
    obtain ⟨-, rfl⟩ := Transaction.commit_eq_ok ht
    refine ⟨⟨_, hx, rfl⟩, _, List.mem_append_right _ (List.mem_singleton_self _), ?_⟩
    exact ⟨⟨rfl, rfl, rfl, rfl, rfl⟩, hq, rfl, rfl, ⟨_, rfl⟩, rfl⟩
  | recorded ha =>
    obtain ⟨rfl, -⟩ := Store.recorded_of_append ha
    exact ⟨h.1, .inl (h.2.mono (List.subset_append_left ..))⟩

/-- A spend leaves the subsidies alone. -/
theorem Move.subsidies_eq {p : Nat} {s s' : Shared} {input : StepInput}
    (hm : Move p s run input s' run') : s'.store.subsidies = s.store.subsidies := by
  rcases hm.store_cases with he | ⟨lock, t, l, -, -, he⟩ <;> rw [he]
  rfl

end SpendRun

/-! ## Histories -/

namespace System

/-- **Nothing is stored but deposits and enrollments**, and each spend is bound by its command. -/
structure Booked (c : System) : Prop where
  stored : ∀ {u t}, c.store.transactions.get? u = some t → t.IsBooked c.fulfilled
  runs : ∀ {p cmd run}, c.work p = .spend cmd run → run.Bound c.fulfilled c.store cmd

theorem booked_start : start.Booked where
  stored := nofun
  runs := nofun

namespace Booked

variable {c d : System} {p : Nat} {shared : Shared} {w : Work}

/-- A step that is granted `f` keeps the books if it loses no subsidy, what it stores is booked,
and it leaves its own task bound. -/
theorem update (h : c.Booked) {f : Option Fulfillment}
    (hs : ∀ {u x}, c.store.subsidies.get? u = some x → shared.store.subsidies.get? u = some x)
    (hstored : ∀ {u t}, shared.store.transactions.get? u = some t →
      t.IsBooked (c.fulfilled ++ f.toList))
    (hrun : ∀ {cmd run}, w = .spend cmd run →
      run.Bound (c.fulfilled ++ f.toList) shared.store cmd) :
    ((c.update p shared w).granting f).Booked := by
  refine ⟨hstored, ?_⟩
  intro q cmd run hq
  rw [granting_work] at hq
  by_cases hqp : q = p
  · rw [hqp, update_work_self] at hq
    exact hrun hq
  · rw [c.update_work_of_ne hqp] at hq
    exact (h.runs hq).mono (List.subset_append_left ..) hs

/-- A step that is granted nothing. -/
theorem update_quiet (h : c.Booked)
    (hs : ∀ {u x}, c.store.subsidies.get? u = some x → shared.store.subsidies.get? u = some x)
    (hstored : ∀ {u t}, shared.store.transactions.get? u = some t → t.IsBooked c.fulfilled)
    (hrun : ∀ {cmd run}, w = .spend cmd run → run.Bound c.fulfilled shared.store cmd) :
    (c.update p shared w).Booked := by
  rw [← granting_none (c.update p shared w)]
  have hnone : c.fulfilled ++ (none : Option Fulfillment).toList = c.fulfilled := List.append_nil _
  exact h.update hs (fun ht => hnone.symm ▸ hstored ht) fun hw => hnone.symm ▸ hrun hw

theorem spend (h : c.Booked) (hs : c.store.Coherent) {cmd : SpendCommand} {run run' : SpendRun}
    {input : StepInput} (hw : c.work p = .spend cmd run)
    (hm : SpendRun.Move p c.shared run input shared run') :
    ((c.update p shared (.spend cmd run')).granting (run.fulfillment? p input)).Booked := by
  have hsubsidies {u : Uuid} {x : Subsidy} (hx : c.store.subsidies.get? u = some x) :
      shared.store.subsidies.get? u = some x := by rwa [hm.subsidies_eq]
  refine h.update hsubsidies ?_ ?_
  · intro u t ht
    rcases hm.store_cases with he | ⟨lock, t', l, rfl, -, he⟩
    · rw [he] at ht
      exact (h.stored ht).mono (List.subset_append_left ..)
    · rw [he] at ht
      rcases Table.get?_insert_cases ht with ⟨-, rfl⟩ | ⟨-, ht⟩
      · exact .inr ((h.runs hw).2.mono (List.subset_append_left ..))
      · exact (h.stored ht).mono (List.subset_append_left ..)
  · intro cmd' r hr
    obtain ⟨rfl, rfl⟩ := Work.spend.inj hr
    exact (hm.bound hs h.stored (h.runs hw)).mono (List.Subset.refl _) hsubsidies

theorem reverse (h : c.Booked) {v : Uuid} {run run' : ReverseRun} {stamp : Stamp}
    (hm : ReverseRun.Move p c.shared run stamp shared run') :
    (c.update p shared (.reverse v run')).Booked := by
  rcases hm.store_cases with he | ⟨u, lock, t, -, ht, he⟩
  · refine h.update_quiet ?_ ?_ nofun <;> rw [he]
    · exact id
    · exact h.stored
  · refine h.update_quiet ?_ ?_ nofun <;> rw [he]
    · exact id
    · intro u' t' ht'
      rcases Table.get?_insert_cases ht' with ⟨-, rfl⟩ | ⟨-, ht'⟩
      · exact (h.stored ht.stored).becomes (.inr ⟨ht.unreversed, stamp, rfl⟩)
      · exact h.stored ht'

theorem provide (h : c.Booked) {new : NewSubsidy} {run run' : ProvisionRun} {stamp : ProvisionStamp}
    {store : Store} (hm : ProvisionRun.Move c.store stamp run store run') :
    (c.update p { c.shared with store } (.provide new run')).Booked := by
  cases hm with
  | declined | refused | accepted => exact h.update_quiet id h.stored nofun
  | entered hx => exact h.update_quiet (fun hy => Table.get?_insert_of_get? hx hy _) h.stored nofun
  | @opened x balance result =>
    refine h.update_quiet ?_ ?_ nofun
    · intro u y hy
      exact (congrArg (Table.get? · u) (Store.subsidies_openLedger ..)).trans hy
    · intro u t ht
      change (c.store.openLedger x.uuid balance stamp.deposit).2.transactions.get? u = some t at ht
      rcases c.store.openLedger_cases x.uuid balance stamp.deposit with
        ⟨e, he⟩ | ⟨y, l, ho, ⟨e, v, -, he⟩ | ⟨-, he⟩⟩
      · rw [he] at ht
        exact h.stored ht
      · rw [he] at ht
        exact h.stored ht
      · rw [he] at ht
        rcases Table.get?_insert_cases ht with ⟨-, rfl⟩ | ⟨-, ht⟩
        · exact .inl (Transaction.isDeposit_opening y ho.covered stamp.deposit)
        · exact h.stored ht

/-- **Every step keeps the books.** -/
theorem step (h : c.Booked) (hs : c.Sound) (hstep : Step c d) : d.Booked := by
  rcases hstep with hstep | hstep
  · cases hstep with
    | @spendArrives q cmd hw =>
      refine h.update_quiet id h.stored ?_
      intro cmd' run hr
      obtain ⟨rfl, rfl⟩ := Work.spend.inj hr
      exact rfl
    | reverseArrives => exact h.update_quiet id h.stored nofun
    | spend hw _ hstep => exact h.spend hs.store.toCoherent hw (SpendRun.move_of_step hstep)
    | reverse hw hstep => exact h.reverse (ReverseRun.move_of_step hstep)
  · cases hstep with
    | arrives => exact h.update_quiet id h.stored nofun
    | step hw _ hstep => exact h.provide (ProvisionRun.move_of_step hstep)

theorem steps (h : start.Booked) (hsteps : ReflTransGen Step start c) : c.Booked := by
  induction hsteps with
  | refl => exact h
  | tail hsteps hstep ih => exact ih.step (sound_start.steps hsteps) hstep

end Booked

/-- **A spend answers with an enrollment.** Whatever the tasks and their order, a spend that
succeeds comes to a transaction on the ledger of its command's subsidy, and unless the
command's own key is the key of that ledger's deposit, the transaction is no deposit: it is
committed, not above zero, names a learner, content and a policy, and refers to an
enrollment that the enrollment service granted. For the key of the deposit the answer may
be the deposit, as one that is there already. -/
theorem spend_answers_with_enrollment {c : System} (h : ReflTransGen Step start c) {p : Nat}
    {cmd : SpendCommand} {o : SpendOutcome} (hw : c.work p = .spend cmd (.finished (.ok o))) :
    ∃ x, c.store.subsidy? cmd.subsidy = some x ∧ o.transaction.ledgerUuid = x.ledgerUuid ∧
      (cmd.key ≠ some (.ofDeposit x.ledgerUuid) →
        o.transaction.IsEnrollment c.fulfilled ∧ ¬ o.transaction.IsDeposit) ∧
      (o.transaction.IsEnrollment c.fulfilled ∨ ∃ t, o = .existing t ∧ t.IsDeposit) := by
  obtain ⟨⟨x, hx, hledger⟩, hanswers⟩ := (booked_start.steps h).runs hw
  refine ⟨x, hx, hledger, ?_⟩
  rcases hanswers with he | ⟨t, rfl, hd, hkey⟩
  · exact ⟨fun _ => ⟨he, he.not_isDeposit⟩, .inl he⟩
  · refine ⟨fun hne => ?_, .inr ⟨t, rfl, hd⟩⟩
    rw [← hledger] at hne
    exact absurd hkey hne

theorem spend_answers_with_enrollment_seatSoldOnce :
    seatSoldOnce.store.subsidy? (.filled 1) = some seats ∧
      seatPaid.IsEnrollment seatSoldOnce.fulfilled ∧ ¬ seatPaid.IsDeposit := by
  have hsteps : ReflTransGen Step start seatSoldOnce :=
    steps_of_provided steps_seatsProvided steps_seatSoldOnce
  obtain ⟨x, hx, hledger, hanswer, -⟩ := spend_answers_with_enrollment hsteps (p := 2) rfl
  have hkey : seatOrder.key ≠ some (.ofDeposit x.ledgerUuid) := by
    rw [← hledger]
    decide
  exact ⟨rfl, hanswer hkey⟩

/-! ### The deposit is asked for -/

/-- Whoever comes to a transaction comes to an enrollment, on the ledger of its subsidy. -/
def AnswersWithEnrollments (c : System) : Prop :=
  ∀ {p : Nat} {cmd : SpendCommand} {o : SpendOutcome}, c.work p = .spend cmd (.finished (.ok o)) →
    ∃ x, c.store.subsidy? cmd.subsidy = some x ∧ o.transaction.ledgerUuid = x.ledgerUuid ∧
      o.transaction.IsEnrollment c.fulfilled

/-- A seat under the key of the deposit. -/
def depositOrder : SpendCommand := { seatOrder with key := some (.ofDeposit (.filled 2)) }

/-- The deposit of the seats. -/
def seatDeposit : Transaction := Store.opening seats 3 Store.seatStamp.deposit

/-- Task 1 came with the key of the deposit, and to the deposit. -/
def depositAnswered : System :=
  seatsProvided.update 1 ⟨seatsProvided.store, seatLocks []⟩
    (.spend depositOrder (.finished (.ok (.existing seatDeposit))))

theorem steps_depositAnswered : ReflTransGen WorkStep seatsProvided depositAnswered := by
  have hfetch : seatsProvided.locks.fetch seats.uuid = (0, seatLocks []) := rfl
  have hchecking := steps_checking (p := 1) rfl
    (show seatsProvided.store.subsidy? depositOrder.subsidy = some seats from rfl) hfetch rfl
  exact hchecking.tail
    (workStep_update 1 (.proceed default) (.finished (.ok (.existing seatDeposit))) nofun rfl)

/-- **Not every answer is an enrollment**: a command with the key of the deposit gets the
deposit, which names no learner and is above zero. -/
theorem not_answersWithEnrollments_depositAnswered :
    ReflTransGen Step start depositAnswered ∧
      depositAnswered.work 1 = .spend depositOrder (.finished (.ok (.existing seatDeposit))) ∧
      seatDeposit.learner = none ∧ seatDeposit.quantity = 3 ∧
      ¬ depositAnswered.AnswersWithEnrollments := by
  have hsteps : ReflTransGen Step start depositAnswered :=
    steps_of_provided steps_seatsProvided steps_depositAnswered
  refine ⟨hsteps, rfl, rfl, rfl, fun hall => ?_⟩
  obtain ⟨x, -, -, f, -, hf⟩ := hall (p := 1) rfl
  exact absurd hf.debit (by decide)

end System
end Bursar
