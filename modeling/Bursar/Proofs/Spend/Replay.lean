import Bursar.Proofs.Ledger.DerivedKey
import Bursar.Proofs.Spend.OncePerKey

/-!
# What a replay answers with

A spend whose key is held already comes to the transaction that holds it. If no
command brings a key of its own, that transaction pays for the very enrollment that
the command asks for.

Two things carry this through every history. Each stored transaction is a deposit, or it
pays for the command of some task: it has the learner, the content and the policy
of the command, and the key that the command is carried out under
(`SpendCommand.Pays`). And a run that replays a transaction found it under the key of
its own command (`SpendRun.Signed`). So the two commands have one key, and a derived
key tells the enrollment (`derived_keys_keep_enrollments_apart`).
-/

namespace Bursar

open Relation (ReflTransGen)

namespace SpendCommand

/-- The octets that the derived key of a command is the digest of. -/
def octets (cmd : SpendCommand) : List UInt8 :=
  IdempotencyKey.enrollmentOctets cmd.subsidy cmd.learner cmd.contentKey cmd.policy

/-- The command brings no key of its own, or a blank one. -/
def Unkeyed (cmd : SpendCommand) : Prop := ∀ key, cmd.key = some key → key.isEmpty = true

/-- The transaction pays for what the command asks for, under the key that the command is
carried out under. -/
structure Pays (cmd : SpendCommand) (t : Transaction) : Prop where
  key : t.key = cmd.resolveKey t.ledgerUuid
  learner : t.learner = some cmd.learner
  contentKey : t.contentKey = some cmd.contentKey
  policy : t.policyUuid = some cmd.policy

variable {cmd cmd' : SpendCommand} {t t' : Transaction}

theorem Unkeyed.resolveKey_eq (h : cmd.Unkeyed) (ledger : Uuid) :
    cmd.resolveKey ledger =
      .ofEnrollment ledger cmd.subsidy cmd.learner cmd.contentKey cmd.policy := by
  unfold resolveKey
  cases hkey : cmd.key with
  | none => rfl
  | some key => simp only [h key hkey, if_true]

/-- A reversal does not change what is paid for. -/
theorem Pays.becomes (h : cmd.Pays t) (hb : t.Becomes t') : cmd.Pays t' := by
  rcases hb with rfl | ⟨-, stamp, rfl⟩
  · exact h
  · exact ⟨h.key, h.learner, h.contentKey, h.policy⟩

theorem pays_pendingTransaction (cmd : SpendCommand) (x : Subsidy) (quantity : Int) (stamp : Stamp) :
    cmd.Pays (SpendRun.pendingTransaction cmd x (cmd.resolveKey x.ledgerUuid) quantity stamp) :=
  ⟨rfl, rfl, rfl, rfl⟩

theorem Pays.commit (h : cmd.Pays t) {reference type : Option String} {now : Timestamp}
    (ht : t.commit reference type now = .ok t') : cmd.Pays t' := by
  obtain ⟨-, rfl⟩ := Transaction.commit_eq_ok ht
  exact ⟨h.key, h.learner, h.contentKey, h.policy⟩

/-- **A transaction under the derived key of a command pays for its enrollment**, if it pays for
any, and the digest tells the two enrollments apart. -/
theorem Pays.of_key_eq (h : cmd'.Pays t) (hkey : t.key = cmd.resolveKey t.ledgerUuid)
    (hcmd : cmd.Unkeyed) (hcmd' : cmd'.Unkeyed) (hfits : Text.Fits64 cmd.learner)
    (hfits' : Text.Fits64 cmd'.learner) (hdigest : ¬ Sha256.Collides cmd'.octets cmd.octets) :
    cmd.Pays t := by
  have hsame := h.key.symm.trans hkey
  rw [hcmd.resolveKey_eq, hcmd'.resolveKey_eq] at hsame
  obtain ⟨-, -, hlearner, hcontent, hpolicy⟩ :=
    IdempotencyKey.ofEnrollment_injective hfits' hfits hdigest hsame
  refine ⟨hkey, ?_, ?_, ?_⟩
  · rw [h.learner, hlearner]
  · rw [h.contentKey, hcontent]
  · rw [h.policy, hpolicy]

end SpendCommand

/-! ## Runs -/

/-- What is true of a spend for `cmd` at each station: what it has in hand is for that command. -/
def SpendRun.Signed (cmd : SpendCommand) : SpendRun → Prop
  | .arrived k | .located k _ | .waiting k _ _ | .checking k _ _ => k = cmd
  | .pricing k x _ key | .weighing k x _ key _ => k = cmd ∧ key = cmd.resolveKey x.ledgerUuid
  | .enrolling _ _ _ t | .recording _ t => cmd.Pays t
  | .finished (.ok (.existing t)) => t.key = cmd.resolveKey t.ledgerUuid
  | .finished _ => True

theorem SpendRun.Move.signed {p : Nat} {s s' : Shared} {run run' : SpendRun} {input : StepInput}
    {cmd : SpendCommand} (hm : Move p s run input s' run') (hs : s.store.Coherent)
    (h : run.Signed cmd) : run'.Signed cmd := by
  cases hm with
  | lost | unsettled | recorded | refused | gaveUp => trivial
  | located | fetched | acquired | priced => exact h
  | @replayed k x lock t _ hfind =>
    obtain rfl := h
    obtain ⟨-, hledger, hkey⟩ := hs.findByKey_eq_some_iff.mp hfind
    rw [← hledger] at hkey
    exact hkey
  | missed =>
    obtain rfl := h
    exact ⟨rfl, rfl⟩
  | covered =>
    obtain ⟨rfl, rfl⟩ := h
    exact SpendCommand.pays_pendingTransaction ..
  | fulfilled ht => exact h.commit ht

/-! ## Histories -/

namespace System

/-- Some task carries out the command. -/
def Commanded (c : System) (cmd : SpendCommand) : Prop := ∃ p run, c.work p = .spend cmd run

/-- The transaction is a deposit, or pays for the command of some task. -/
def Origin (c : System) (t : Transaction) : Prop :=
  t.key = .ofDeposit t.ledgerUuid ∨ ∃ cmd, c.Commanded cmd ∧ cmd.Pays t

/-- **Everything is signed**: what is stored and what was replayed has an origin, and what a
task has in hand is for its own command. -/
structure Signed (c : System) : Prop where
  stored : ∀ {u t}, c.store.transactions.get? u = some t → c.Origin t
  runs : ∀ {p cmd run}, c.work p = .spend cmd run → run.Signed cmd
  replayed : ∀ {p cmd t}, c.work p = .spend cmd (.finished (.ok (.existing t))) → c.Origin t

theorem signed_start : start.Signed where
  stored := nofun
  runs := nofun
  replayed := nofun

/-- The two systems have the same commands, or the second has more. -/
def Commands (c d : System) : Prop := ∀ {cmd}, c.Commanded cmd → d.Commanded cmd

variable {c d : System} {p : Nat} {shared : Shared} {w : Work}

theorem Origin.mono {t : Transaction} (h : c.Origin t) (hd : c.Commands d) : d.Origin t := by
  rcases h with hdeposit | ⟨cmd, hcmd, hpays⟩
  · exact .inl hdeposit
  · exact .inr ⟨cmd, hd hcmd, hpays⟩

theorem Origin.becomes {t t' : Transaction} (h : c.Origin t) (hb : t.Becomes t') : c.Origin t' := by
  rcases h with hdeposit | ⟨cmd, hcmd, hpays⟩
  · exact .inl (by rw [hb.key_eq, hb.ledgerUuid_eq, hdeposit])
  · exact .inr ⟨cmd, hcmd, hpays.becomes hb⟩

/-- A task that keeps its command leaves all commands there. -/
theorem commands_update (h : ∀ {cmd run}, c.work p = .spend cmd run → ∃ run', w = .spend cmd run') :
    c.Commands (c.update p shared w) := by
  rintro cmd ⟨q, run, hq⟩
  by_cases hqp : q = p
  · subst hqp
    obtain ⟨run', rfl⟩ := h hq
    exact ⟨q, run', update_work_self ..⟩
  · exact ⟨q, run, (c.update_work_of_ne hqp ..).trans hq⟩

namespace Signed

theorem granting (h : c.Signed) (f : Option Fulfillment) : (c.granting f).Signed :=
  ⟨h.stored, h.runs, h.replayed⟩

/-- A step keeps everything signed if it keeps the command of its task, stores nothing without
an origin, and leaves its own task signed. -/
theorem update (h : c.Signed)
    (hkeeps : ∀ {cmd run}, c.work p = .spend cmd run → ∃ run', w = .spend cmd run')
    (hstored : ∀ {u t}, shared.store.transactions.get? u = some t →
      (c.update p shared w).Origin t)
    (hrun : ∀ {cmd run}, w = .spend cmd run → run.Signed cmd)
    (hreplayed : ∀ {cmd t}, w = .spend cmd (.finished (.ok (.existing t))) → c.Origin t) :
    (c.update p shared w).Signed := by
  have hcommands : c.Commands (c.update p shared w) := commands_update hkeeps
  refine ⟨hstored, ?_, ?_⟩
  · intro q cmd run hq
    by_cases hqp : q = p
    · rw [hqp, update_work_self] at hq
      exact hrun hq
    · rw [c.update_work_of_ne hqp] at hq
      exact h.runs hq
  · intro q cmd t hq
    by_cases hqp : q = p
    · rw [hqp, update_work_self] at hq
      exact (hreplayed hq).mono hcommands
    · rw [c.update_work_of_ne hqp] at hq
      exact (h.replayed hq).mono hcommands

/-- What was stored has an origin after any step that keeps the command of its task. -/
theorem origin_of_keeps (h : c.Signed)
    (hkeeps : ∀ {cmd run}, c.work p = .spend cmd run → ∃ run', w = .spend cmd run')
    {u : Uuid} {t t' : Transaction} (ht : c.store.transactions.get? u = some t)
    (hb : t.Becomes t') : (c.update p shared w).Origin t' :=
  ((h.stored ht).becomes hb).mono (commands_update hkeeps)

theorem spend (h : c.Signed) (hs : c.store.Coherent) {cmd : SpendCommand} {run run' : SpendRun}
    {input : StepInput} (hw : c.work p = .spend cmd run)
    (hm : SpendRun.Move p c.shared run input shared run') :
    (c.update p shared (.spend cmd run')).Signed := by
  have hkeeps {cmd' run''} (hw' : c.work p = .spend cmd' run'') :
      ∃ r, Work.spend cmd run' = .spend cmd' r := by
    obtain ⟨rfl, -⟩ := Work.spend.inj (hw.symm.trans hw')
    exact ⟨run', rfl⟩
  refine h.update hkeeps ?_ ?_ ?_
  · intro u t ht
    rcases hm.store_cases with he | ⟨lock, t', l, rfl, -, he⟩
    · rw [he] at ht
      exact h.origin_of_keeps hkeeps ht (.refl t)
    · -- the new transaction is what the task had in hand
      rw [he] at ht
      rcases Table.get?_insert_cases ht with ⟨-, rfl⟩ | ⟨-, ht⟩
      · exact .inr ⟨cmd, ⟨p, run', update_work_self ..⟩, h.runs hw⟩
      · exact h.origin_of_keeps hkeeps ht (.refl t)
  · intro cmd' r hr
    obtain ⟨rfl, rfl⟩ := Work.spend.inj hr
    exact hm.signed hs (h.runs hw)
  · intro cmd' t hr
    obtain ⟨rfl, rfl⟩ := Work.spend.inj hr
    cases hm with
    | replayed hfind =>
      obtain ⟨hstored, -, -⟩ := hs.findByKey_eq_some_iff.mp hfind
      exact h.stored hstored

theorem reverse (h : c.Signed) {v : Uuid} {run run' : ReverseRun} {stamp : Stamp}
    (hw : c.work p = .reverse v run) (hm : ReverseRun.Move p c.shared run stamp shared run') :
    (c.update p shared (.reverse v run')).Signed := by
  have hkeeps {cmd r} (hw' : c.work p = .spend cmd r) :
      ∃ r', Work.reverse v run' = .spend cmd r' := by
    cases hw.symm.trans hw'
  refine h.update hkeeps ?_ nofun nofun
  intro u t ht
  rcases hm.store_cases with he | ⟨v', lock, t', -, ht', he⟩
  · rw [he] at ht
    exact h.origin_of_keeps hkeeps ht (.refl t)
  · rw [he] at ht
    rcases Table.get?_insert_cases ht with ⟨-, rfl⟩ | ⟨-, ht⟩
    · exact h.origin_of_keeps hkeeps ht'.stored (.inr ⟨ht'.unreversed, stamp, rfl⟩)
    · exact h.origin_of_keeps hkeeps ht (.refl t)

theorem provide (h : c.Signed) {new : NewSubsidy} {run run' : ProvisionRun} {stamp : ProvisionStamp}
    {store : Store} (hw : c.work p = .provide new run)
    (hm : ProvisionRun.Move c.store stamp run store run') :
    (c.update p { c.shared with store } (.provide new run')).Signed := by
  have hkeeps {cmd r} (hw' : c.work p = .spend cmd r) :
      ∃ r', Work.provide new run' = .spend cmd r' := by
    cases hw.symm.trans hw'
  refine h.update hkeeps ?_ nofun nofun
  intro u t ht
  cases hm with
  | declined | refused | accepted | entered => exact h.origin_of_keeps hkeeps ht (.refl t)
  | @opened x balance _ =>
    -- what opening a ledger records is its deposit
    change (c.store.openLedger x.uuid balance stamp.deposit).2.transactions.get? u = some t at ht
    rcases c.store.openLedger_cases x.uuid balance stamp.deposit with
      ⟨e, he⟩ | ⟨y, l, -, ⟨e, v, -, he⟩ | ⟨-, he⟩⟩
    · rw [he] at ht
      exact h.origin_of_keeps hkeeps ht (.refl t)
    · rw [he] at ht
      exact h.origin_of_keeps hkeeps ht (.refl t)
    · rw [he] at ht
      rcases Table.get?_insert_cases ht with ⟨-, rfl⟩ | ⟨-, ht⟩
      · exact .inl rfl
      · exact h.origin_of_keeps hkeeps ht (.refl t)

/-- **Every step keeps everything signed.** -/
theorem step (h : c.Signed) (hs : c.Sound) (hstep : Step c d) : d.Signed := by
  rcases hstep with hstep | hstep
  · cases hstep with
    | @spendArrives q cmd hw =>
      refine h.update (fun hw' => by cases hw.symm.trans hw') ?_ ?_ ?_
      · intro u t ht
        exact h.origin_of_keeps (fun hw' => by cases hw.symm.trans hw') ht (.refl t)
      · intro cmd' run hr
        obtain ⟨rfl, rfl⟩ := Work.spend.inj hr
        exact rfl
      · nofun
    | @reverseArrives q u hw =>
      refine h.update (fun hw' => by cases hw.symm.trans hw') ?_ nofun nofun
      intro v t ht
      exact h.origin_of_keeps (fun hw' => by cases hw.symm.trans hw') ht (.refl t)
    | spend hw _ hstep =>
      exact (h.spend hs.store.toCoherent hw (SpendRun.move_of_step hstep)).granting _
    | reverse hw hstep => exact h.reverse hw (ReverseRun.move_of_step hstep)
  · cases hstep with
    | @arrives q new hw =>
      refine h.update (fun hw' => by cases hw.symm.trans hw') ?_ nofun nofun
      intro v t ht
      exact h.origin_of_keeps (fun hw' => by cases hw.symm.trans hw') ht (.refl t)
    | step hw _ hstep => exact h.provide hw (ProvisionRun.move_of_step hstep)

theorem steps (h : start.Signed) (hsteps : ReflTransGen Step start c) : c.Signed := by
  induction hsteps with
  | refl => exact h
  | tail hsteps hstep ih => exact ih.step (sound_start.steps hsteps) hstep

end Signed

/-- No command brings a key, the learners are integers of 64 bits, and the digest tells the
commands apart. -/
structure Derives (c : System) : Prop where
  unkeyed : ∀ {cmd}, c.Commanded cmd → cmd.Unkeyed
  fits : ∀ {cmd}, c.Commanded cmd → Text.Fits64 cmd.learner
  distinct : ∀ {cmd cmd'}, c.Commanded cmd → c.Commanded cmd' →
    ¬ Sha256.Collides cmd.octets cmd'.octets

/-- Where all keys are derived, a replay answers with what pays for its command. -/
theorem Signed.pays_of_replayed (h : c.Signed) (hc : c.Derives) {cmd : SpendCommand}
    {t : Transaction} (hw : c.work p = .spend cmd (.finished (.ok (.existing t)))) : cmd.Pays t := by
  have hcmd : c.Commanded cmd := ⟨p, _, hw⟩
  have hkey : t.key = cmd.resolveKey t.ledgerUuid := h.runs hw
  rcases h.replayed hw with hdeposit | ⟨cmd', hcmd', hpays⟩
  · rw [(hc.unkeyed hcmd).resolveKey_eq, hdeposit] at hkey
    exact absurd hkey.symm (IdempotencyKey.ofEnrollment_ne_ofDeposit _ _ _ _ _ _)
  · exact hpays.of_key_eq hkey (hc.unkeyed hcmd) (hc.unkeyed hcmd') (hc.fits hcmd) (hc.fits hcmd')
      (hc.distinct hcmd' hcmd)

/-- **Derived keys keep enrollments apart.** The octets that a key is derived from tell the
subsidy, the learner, the content and the policy; up to collisions of the digest a
derived key tells these and the ledger, and it is no key of a deposit. So where no
command brings a key, whatever the tasks and their order, a replay answers with a
transaction for the learner, the content and the policy of its command. -/
theorem derived_keys_keep_enrollments_apart :
    (∀ {x x' y y' : Uuid} {n n' : Int} {k k' : String}, Text.Fits64 n → Text.Fits64 n' →
        IdempotencyKey.enrollmentOctets x n k y = IdempotencyKey.enrollmentOctets x' n' k' y' →
        x = x' ∧ n = n' ∧ k = k' ∧ y = y') ∧
      (∀ {l l' x x' y y' : Uuid} {n n' : Int} {k k' : String}, Text.Fits64 n → Text.Fits64 n' →
        ¬ Sha256.Collides (IdempotencyKey.enrollmentOctets x n k y)
          (IdempotencyKey.enrollmentOctets x' n' k' y') →
        IdempotencyKey.ofEnrollment l x n k y = IdempotencyKey.ofEnrollment l' x' n' k' y' →
        l = l' ∧ x = x' ∧ n = n' ∧ k = k' ∧ y = y') ∧
      (∀ (l l' x y : Uuid) (n : Int) (k : String),
        IdempotencyKey.ofEnrollment l x n k y ≠ IdempotencyKey.ofDeposit l') ∧
      ∀ {c : System}, ReflTransGen Step start c → c.Derives →
        ∀ {p : Nat} {cmd : SpendCommand} {t : Transaction},
          c.work p = .spend cmd (.finished (.ok (.existing t))) →
          t.learner = some cmd.learner ∧ t.contentKey = some cmd.contentKey ∧
            t.policyUuid = some cmd.policy := by
  refine ⟨IdempotencyKey.enrollmentOctets_injective, IdempotencyKey.ofEnrollment_injective, ?_, ?_⟩
  · intro l l' x y n k
    exact IdempotencyKey.ofEnrollment_ne_ofDeposit l l' x y n k
  · intro c hsteps hc p cmd t hw
    have hpays := (signed_start.steps hsteps).pays_of_replayed hc hw
    exact ⟨hpays.learner, hpays.contentKey, hpays.policy⟩

/-! ### A seat is ordered twice without a key -/

/-- A seat for learner 7, under whatever key. -/
def seatWish : SpendCommand := { seatOrder with key := none }

/-- What task 1 asks for the enrollment with. -/
def wishBill : Transaction :=
  SpendRun.pendingTransaction seatWish seats (seatWish.resolveKey seats.ledgerUuid) (-1)
    ⟨.filled 4, ⟨5, 0⟩⟩

/-- What task 1 records. -/
def wishPaid : Transaction :=
  { wishBill with
    state := .committed, modified := ⟨6, 0⟩, referenceId := some "enrollment-1",
    referenceType := some enrollmentReferenceType }

/-- The ledger of the seats with its deposit. -/
def seatLedger : Ledger := { unit := .seats, isOpen := true, transactions := [.filled 3] }

/-- What the tasks share once the seat is paid. -/
def wishShared (holders : List (Nat × Nat)) : Shared :=
  ⟨seatsProvided.store.recorded seatLedger wishPaid, seatLocks holders⟩

/-- The enrollment that task 1 was granted. -/
def wishGranted : Fulfillment where
  task := 1
  request := SpendRun.enrollmentRequest seatWish seats wishBill
  ledger := .filled 2
  key := seatWish.resolveKey seats.ledgerUuid
  reference := "enrollment-1"

/-- Task 1 has its learner enrolled. -/
def wishEnrolled : System :=
  (seatsProvided.granting (some wishGranted)).update 1 ⟨seatsProvided.store, seatLocks [(0, 1)]⟩
    (.spend seatWish (.recording 0 wishPaid))

/-- Task 1 has recorded its transaction. -/
def wishFulfilled : System :=
  (seatsProvided.granting (some wishGranted)).update 1 (wishShared [])
    (.spend seatWish (.finished (.ok (.created wishPaid))))

/-- Task 2 came with the same wish, and to the same transaction. -/
def wishRepeated : System :=
  wishFulfilled.update 2 (wishShared []) (.spend seatWish (.finished (.ok (.existing wishPaid))))

/-- Only the deposit stands under a key so far, and the key of the wish is another one. -/
theorem wish_missed :
    seatsProvided.store.findByKey seats.ledgerUuid (seatWish.resolveKey seats.ledgerUuid) = none := by
  have hkeys : seatsProvided.store.liveKeys =
      Table.empty.insert (seats.ledgerUuid, .ofDeposit seats.ledgerUuid) (.filled 3) := rfl
  have hkey : seatWish.resolveKey seats.ledgerUuid ≠ .ofDeposit seats.ledgerUuid :=
    IdempotencyKey.ofEnrollment_ne_ofDeposit _ _ _ _ _ _
  have hne : (seats.ledgerUuid, seatWish.resolveKey seats.ledgerUuid) ≠
      (seats.ledgerUuid, .ofDeposit seats.ledgerUuid) :=
    fun he => hkey (Prod.mk.inj he).2
  rw [Store.findByKey, hkeys, Table.get?_insert_of_ne _ hne]
  rfl

theorem steps_wishEnrolled : ReflTransGen WorkStep seatsProvided wishEnrolled := by
  have hfetch : seatsProvided.locks.fetch seats.uuid = (0, seatLocks []) := rfl
  have hfree : seatsProvided.Fresh (.filled 4) := (fresh_start _).update rfl rfl List.not_mem_nil
  -- the digest is not worked out: all that counts is that nothing stands under the key
  exact (steps_checking rfl rfl hfetch rfl).trans (steps_recording "10" ⟨.filled 4, ⟨5, 0⟩⟩
    "enrollment-1" ⟨6, 0⟩ rfl wish_missed rfl rfl (by decide) hfree)

theorem steps_wishRepeated : ReflTransGen WorkStep seatsProvided wishRepeated := by
  have horderly := provisioned_seatsProvided.orderly.steps steps_wishEnrolled
  obtain ⟨l, hadmits, happend⟩ :=
    horderly.ready.append_eq_ok horderly.guarded horderly.sound (update_work_self _ 1 _ _)
  obtain rfl : l = seatLedger := Option.some.inj (hadmits.ledger.symm.trans rfl)
  have hfulfilled : ReflTransGen WorkStep seatsProvided wishFulfilled :=
    steps_wishEnrolled.tail
      (workStep_update 1 (.proceed default) (.finished (.ok (.created wishPaid))) nofun
        (SpendRun.step_recording happend default))
  have hfetch : wishFulfilled.locks.fetch seats.uuid = (0, seatLocks []) := rfl
  have hchecking : ReflTransGen WorkStep wishFulfilled
      (wishFulfilled.update 2 (wishShared [(0, 2)]) (.spend seatWish (.checking seatWish seats 0))) :=
    steps_checking rfl rfl hfetch rfl
  have hreplayed : SpendRun.step 2 (wishShared [(0, 2)]) (.checking seatWish seats 0)
      (.proceed default) = some (wishShared [], .finished (.ok (.existing wishPaid))) := by
    apply SpendRun.step_replayed
    exact Store.findByKey_recorded _ seatLedger wishPaid
  exact (hfulfilled.trans hchecking).tail
    (workStep_update 2 (.proceed default) (.finished (.ok (.existing wishPaid))) nofun hreplayed)

/-- Both tasks carry out the same wish. -/
theorem commanded_wishRepeated {cmd : SpendCommand} (h : wishRepeated.Commanded cmd) :
    cmd = seatWish := by
  obtain ⟨p, run, hp⟩ := h
  by_cases h₂ : p = 2
  · rw [h₂] at hp
    exact (Work.spend.inj hp).1.symm
  by_cases h₁ : p = 1
  · rw [h₁] at hp
    exact (Work.spend.inj hp).1.symm
  · rw [wishRepeated, update_work_of_ne _ h₂, wishFulfilled, update_work_of_ne _ h₁] at hp
    have hrest := provisioned_seatsProvided.work_cases p
    rw [granting_work] at hp
    rcases hrest with hw | ⟨new, result, hw⟩ <;> cases hw.symm.trans hp

theorem derived_keys_keep_enrollments_apart_wishRepeated :
    seatWish.octets ≠ { seatWish with learner := 8 }.octets ∧
      wishRepeated.work 2 = .spend seatWish (.finished (.ok (.existing wishPaid))) ∧
      wishPaid.learner = some 7 ∧ wishPaid.contentKey = some "course-1" ∧
      wishPaid.policyUuid = some (.filled 8) := by
  obtain ⟨hoctets, -, -, hreplays⟩ := derived_keys_keep_enrollments_apart
  have hlearners : seatWish.octets ≠ { seatWish with learner := 8 }.octets := by
    intro hsame
    obtain ⟨-, hlearner, -⟩ := hoctets ⟨by decide, by decide⟩ ⟨by decide, by decide⟩ hsame
    exact absurd hlearner (by decide)
  have hderives : wishRepeated.Derives := by
    constructor
    · rintro cmd hcmd key hkey
      obtain rfl := commanded_wishRepeated hcmd
      cases hkey
    · intro cmd hcmd
      obtain rfl := commanded_wishRepeated hcmd
      exact ⟨by decide, by decide⟩
    · rintro cmd cmd' hcmd hcmd' ⟨hne, -⟩
      rw [commanded_wishRepeated hcmd, commanded_wishRepeated hcmd'] at hne
      exact hne rfl
  have hsteps : ReflTransGen Step start wishRepeated :=
    steps_of_provided steps_seatsProvided steps_wishRepeated
  exact ⟨hlearners, rfl, hreplays hsteps hderives (p := 2) rfl⟩

end System
end Bursar
