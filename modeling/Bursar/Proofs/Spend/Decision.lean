import Bursar.Proofs.Ledger.Key
import Bursar.Proofs.Ledger.Reached
import Bursar.Proofs.Spend.Conversation
import Bursar.Proofs.Spend.Recording
import Bursar.Proofs.Spend.Twin

/-!
# One spend, end to end

What a spend that nobody gets in the way of comes to is **decided** by the store
that it finds, its command, and the replies that it hears. `Store.Decided` is the
table of that decision: one row for each way in which a spend can end, with what
was said to collaborators until then, the store afterwards, and the result. Only
the last row writes, and what it writes is one transaction (`SpendCommand.payment`).

`World.spend_decided` is proved along the stations of a spend. What is true at each
of them is `SpendRun.OnCourse`; from every station but the last a spend goes on,
whatever it hears, to a later one (`SpendRun.OnCourse.advances`), so that it is over
before its eight steps have run out (`World.follow_of_advances`). The main result is
`World.spend_settles`: the decision, and what comes of the same command afterwards.
-/

namespace Bursar

/-! ## The decision -/

/-- The transaction that a command leaves on the ledger of the subsidy `x` when the learner is
enrolled; `drawn` is what was drawn for it before the enrollment was asked for. -/
def SpendCommand.payment (c : SpendCommand) (x : Subsidy) (quantity : Int) (drawn : Stamp)
    (reference : String) (now : Timestamp) : Transaction where
  uuid := drawn.uuid
  key := c.resolveKey x.ledgerUuid
  ledgerUuid := x.ledgerUuid
  learner := some c.learner
  contentKey := some c.contentKey
  policyUuid := some c.policy
  unit := x.unit
  quantity := quantity
  state := .committed
  referenceId := some reference
  referenceType := some enrollmentReferenceType
  reversal := none
  metadata := []
  created := drawn.now
  modified := now

namespace Store

/-- The command is for the subsidy `x`, and nothing on its ledger holds the key. -/
structure Unpaid (s : Store) (c : SpendCommand) (x : Subsidy) : Prop where
  subsidy : s.subsidy? c.subsidy = some x
  unheld : s.findByKey x.ledgerUuid (c.resolveKey x.ledgerUuid) = none

/-- The price, blanks around it ignored, is a number that comes to the debit `quantity`. -/
structure Priced (s : Store) (c : SpendCommand) (x : Subsidy) (price : String) (quantity : Int) : Prop
    extends Unpaid s c x where
  debit : ∃ p, Decimal.parse (Text.trim price) = .ok p ∧ x.unit.debit p = .ok quantity

/-- The balance covers the debit. -/
structure Affords (s : Store) (c : SpendCommand) (x : Subsidy) (price : String)
    (quantity balance : Int) : Prop extends Priced s c x price quantity where
  balance_eq : s.balance x.ledgerUuid = .ok balance
  covered : 0 ≤ balance + quantity

/-- **The decision table of a spend**: what was said, the store afterwards, and the result, given
the store that it found and its command. -/
inductive Decided (s : Store) (c : SpendCommand) :
    List Heard → Store → Except SpendError SpendOutcome → Prop
  /-- There is no such subsidy. -/
  | lost (h : s.subsidy? c.subsidy = none) :
      Decided s c [] s (.error (.ledger (noSubsidy c.subsidy)))
  /-- A transaction holds the key. -/
  | held {x t} (hx : s.subsidy? c.subsidy = some x)
      (ht : s.findByKey x.ledgerUuid (c.resolveKey x.ledgerUuid) = some t) :
      Decided s c [] s (.ok (.existing t))
  /-- There is no price. -/
  | unpriced {x e} (h : s.Unpaid c x) :
      Decided s c [.price x.enterprise c.contentKey (.answered (.error e))] s (.error (.pricing e))
  | priceCrashed {x detail} (h : s.Unpaid c x) :
      Decided s c [.price x.enterprise c.contentKey (.crashed detail)] s (.error (.aborted detail))
  /-- The price is no number. -/
  | unreadable {x price e} (h : s.Unpaid c x) (hp : Decimal.parse (Text.trim price) = .error e) :
      Decided s c [.price x.enterprise c.contentKey (.answered (.ok price))] s
        (.error (.pricing (.decode ("invalid price " ++ Text.quoted price ++ ": " ++ e.message))))
  /-- The ledger cannot count the price. -/
  | undebitable {x price p e} (h : s.Unpaid c x) (hp : Decimal.parse (Text.trim price) = .ok p)
      (hd : x.unit.debit p = .error e) :
      Decided s c [.price x.enterprise c.contentKey (.answered (.ok price))] s (.error (.ledger e))
  /-- The balance does not cover the debit. -/
  | uncovered {x price quantity balance} (h : s.Priced c x price quantity)
      (hb : s.balance x.ledgerUuid = .ok balance) (hlt : balance + quantity < 0) :
      Decided s c [.price x.enterprise c.contentKey (.answered (.ok price))] s
        (.error (.ledger (.insufficientBalance balance quantity)))
  /-- The learner is not enrolled. -/
  | unenrolled {x price quantity balance uuid e} (h : s.Affords c x price quantity balance) :
      Decided s c
        [.price x.enterprise c.contentKey (.answered (.ok price)),
          .enroll ⟨x.enterprise, c.learner, c.contentKey, uuid⟩ (.answered (.error e))]
        s (.error (.enrollment e))
  | enrollCrashed {x price quantity balance uuid detail} (h : s.Affords c x price quantity balance) :
      Decided s c
        [.price x.enterprise c.contentKey (.answered (.ok price)),
          .enroll ⟨x.enterprise, c.learner, c.contentKey, uuid⟩ (.crashed detail)]
        s (.error (.aborted detail))
  /-- The learner is enrolled, and the transaction is at the end of the ledger. -/
  | created {x price quantity balance drawn reference now l}
      (h : s.Affords c x price quantity balance) (hl : s.ledgers.get? x.ledgerUuid = some l)
      (hunit : l.unit = x.unit) :
      Decided s c
        [.price x.enterprise c.contentKey (.answered (.ok price)),
          .enroll ⟨x.enterprise, c.learner, c.contentKey, drawn.uuid⟩ (.answered (.ok reference))]
        (s.recorded l (c.payment x quantity drawn reference now))
        (.ok (.created (c.payment x quantity drawn reference now)))

/-- Where nothing holds the key of the command, the ledger is there and the key is free. -/
def Takes (s : Store) (c : SpendCommand) : Prop :=
  ∀ {x}, s.Unpaid c x → ∃ l, s.ledgers.get? x.ledgerUuid = some l ∧ l.unit = x.unit ∧
    s.liveKeys.get? (x.ledgerUuid, c.resolveKey x.ledgerUuid) = none

variable {s : Store} {c : SpendCommand} {x : Subsidy}

theorem Housed.takes (h : s.Housed) (c : SpendCommand) : s.Takes c := by
  intro x hx
  obtain ⟨l, hl, hunit⟩ := h.ledger_of_subsidy hx.subsidy
  exact ⟨l, hl, hunit, h.free_of_findByKey hx.unheld⟩

/-- Where the key of the command is held nothing is to be taken. -/
theorem takes_of_held {t : Transaction} (hx : s.subsidy? c.subsidy = some x)
    (ht : s.findByKey x.ledgerUuid (c.resolveKey x.ledgerUuid) = some t) : s.Takes c := by
  intro y hy
  obtain rfl := Option.some.inj (hx.symm.trans hy.subsidy)
  rw [hy.unheld] at ht
  cases ht

theorem Takes.exists_balance (h : s.Takes c) (hx : s.Unpaid c x) :
    ∃ balance, s.balance x.ledgerUuid = .ok balance := by
  obtain ⟨l, hl, -⟩ := h hx
  unfold balance
  rw [hl]
  exact ⟨_, rfl⟩

/-- **A payment that is covered is recorded.** -/
theorem Takes.append_payment (h : s.Takes c) {price : String} {quantity balance : Int}
    (hc : s.Affords c x price quantity balance) (drawn : Stamp) (reference : String) (now : Timestamp) :
    ∃ l, s.ledgers.get? x.ledgerUuid = some l ∧ l.unit = x.unit ∧
      s.append (c.payment x quantity drawn reference now) =
        (.ok (c.payment x quantity drawn reference now),
          s.recorded l (c.payment x quantity drawn reference now)) := by
  obtain ⟨l, hl, hunit, hfree⟩ := h hc.toUnpaid
  refine ⟨l, hl, hunit, append_eq_ok ?_ ?_⟩
  · exact ⟨rfl, c.isEmpty_resolveKey x.ledgerUuid, hl, hunit, hfree⟩
  · exact checkSufficient_eq_ok_iff.mpr ⟨balance, hc.balance_eq, fun _ => hc.covered⟩

/-- A command whose key is held comes to what holds it, and nothing is said. -/
theorem Decided.of_held {heard : List Heard} {s' : Store} {result : Except SpendError SpendOutcome}
    (h : s.Decided c heard s' result) {t : Transaction} (hx : s.subsidy? c.subsidy = some x)
    (ht : s.findByKey x.ledgerUuid (c.resolveKey x.ledgerUuid) = some t) :
    heard = [] ∧ s' = s ∧ result = .ok (.existing t) := by
  -- every row but two is about a key that nothing holds
  have hpaid {y : Subsidy} (hy : s.Unpaid c y) : False := by
    obtain rfl := Option.some.inj (hx.symm.trans hy.subsidy)
    rw [hy.unheld] at ht
    cases ht
  cases h with
  | lost hnone =>
    rw [hx] at hnone
    cases hnone
  | held hx' ht' =>
    obtain rfl := Option.some.inj (hx.symm.trans hx')
    obtain rfl := Option.some.inj (ht.symm.trans ht')
    exact ⟨rfl, rfl, rfl⟩
  | unpriced hy | priceCrashed hy | unreadable hy | undebitable hy => exact (hpaid hy).elim
  | uncovered hy => exact (hpaid hy.toUnpaid).elim
  | unenrolled hy | enrollCrashed hy | created hy => exact (hpaid hy.toUnpaid).elim

/-- A spend that creates nothing leaves the store as it found it. -/
theorem Decided.store_eq {heard : List Heard} {s' : Store} {result : Except SpendError SpendOutcome}
    (h : s.Decided c heard s' result) (hr : ∀ t, result ≠ .ok (.created t)) : s' = s := by
  cases h with
  | created => exact absurd rfl (hr _)
  | lost | held | unpriced | priceCrashed | unreadable | undebitable | uncovered | unenrolled
  | enrollCrashed => rfl

/-- A spend that creates a transaction has recorded it, for the subsidy of its command. -/
theorem Decided.recorded_of_created {heard : List Heard} {s' : Store} {t : Transaction}
    (h : s.Decided c heard s' (.ok (.created t))) :
    ∃ x l, s.subsidy? c.subsidy = some x ∧ t.ledgerUuid = x.ledgerUuid ∧
      t.key = c.resolveKey x.ledgerUuid ∧ s' = s.recorded l t := by
  cases h with
  | created hc => exact ⟨_, _, hc.subsidy, rfl, rfl, rfl⟩

end Store

/-! ## The course of a spend -/

/-- The lock is the only one that may be held. -/
def Shared.HeldOnly (s : Shared) (lock : Nat) : Prop :=
  ∀ n, n ≠ lock → s.locks.holders.get? n = none

namespace Shared

variable {s : Shared} {lock : Nat}

theorem Unheld.taken (h : s.Unheld) (lock task : Nat) : (s.taken lock task).HeldOnly lock :=
  fun n hn => (Table.get?_insert_of_ne _ hn _).trans (h n)

theorem HeldOnly.released (h : s.HeldOnly lock) : (s.released lock).Unheld := by
  intro n
  by_cases hn : n = lock
  · subst hn
    exact (Table.get?_erase ..).trans (if_pos rfl)
  · exact (Locks.holders_release_of_ne _ hn).trans (h n hn)

end Shared

namespace SpendRun

/-- How many steps are left of a spend, at most. -/
def stepsLeft : SpendRun → Nat
  | .arrived _ => 8
  | .located _ _ => 7
  | .waiting _ _ _ => 6
  | .checking _ _ _ => 5
  | .pricing _ _ _ _ => 4
  | .weighing _ _ _ _ _ => 3
  | .enrolling _ _ _ _ => 2
  | .recording _ _ => 1
  | .finished _ => 0

/-- What is true at each station of a spend for `c` that found the store `s₀`, and has said
and heard what is listed. -/
inductive OnCourse (s₀ : Store) (c : SpendCommand) (s : Shared) : List Heard → SpendRun → Prop
  | arrived (hs : s.store = s₀) (hl : s.Unheld) : OnCourse s₀ c s [] (.arrived c)
  | located {x} (hs : s.store = s₀) (hl : s.Unheld) (hx : s₀.subsidy? c.subsidy = some x) :
      OnCourse s₀ c s [] (.located c x)
  | waiting {x lock} (hs : s.store = s₀) (hl : s.Unheld) (hx : s₀.subsidy? c.subsidy = some x) :
      OnCourse s₀ c s [] (.waiting c x lock)
  | checking {x lock} (hs : s.store = s₀) (hl : s.HeldOnly lock)
      (hx : s₀.subsidy? c.subsidy = some x) : OnCourse s₀ c s [] (.checking c x lock)
  | pricing {x lock} (hs : s.store = s₀) (hl : s.HeldOnly lock) (h : s₀.Unpaid c x) :
      OnCourse s₀ c s [] (.pricing c x lock (c.resolveKey x.ledgerUuid))
  | weighing {x lock price quantity} (hs : s.store = s₀) (hl : s.HeldOnly lock)
      (h : s₀.Priced c x price quantity) :
      OnCourse s₀ c s [.price x.enterprise c.contentKey (.answered (.ok price))]
        (.weighing c x lock (c.resolveKey x.ledgerUuid) quantity)
  | enrolling {x lock price quantity balance drawn} (hs : s.store = s₀) (hl : s.HeldOnly lock)
      (h : s₀.Affords c x price quantity balance) :
      OnCourse s₀ c s [.price x.enterprise c.contentKey (.answered (.ok price))]
        (.enrolling c x lock (pendingTransaction c x (c.resolveKey x.ledgerUuid) quantity drawn))
  | recording {x lock price quantity balance drawn reference now} (hs : s.store = s₀)
      (hl : s.HeldOnly lock) (h : s₀.Affords c x price quantity balance) :
      OnCourse s₀ c s
        [.price x.enterprise c.contentKey (.answered (.ok price)),
          .enroll ⟨x.enterprise, c.learner, c.contentKey, drawn.uuid⟩ (.answered (.ok reference))]
        (.recording lock (c.payment x quantity drawn reference now))
  | finished {heard result} (hl : s.Unheld) (h : s₀.Decided c heard s.store result) :
      OnCourse s₀ c s heard (.finished result)

variable {s₀ : Store} {c : SpendCommand} {s : Shared} {heard more : List Heard} {run : SpendRun}
variable {input : StepInput} {x : Subsidy} {lock : Nat}

/-- The run goes on with the input, is nearer to its end then, and on course with what was said. -/
def Advances (s₀ : Store) (c : SpendCommand) (s : Shared) (run : SpendRun) (input : StepInput)
    (heard : List Heard) : Prop :=
  ∃ s' run', run.step 0 s input = some (s', run') ∧ run'.stepsLeft < run.stepsLeft ∧
    run'.OnCourse s₀ c s' heard

/-- A run that holds its lock and ends without a write is on course if its end is decided. -/
theorem advances_finish {result : Except SpendError SpendOutcome}
    (hstep : run.step 0 s input = some (s.released lock, .finished result)) (hleft : 0 < run.stepsLeft)
    (hs : s.store = s₀) (hl : s.HeldOnly lock) (h : s₀.Decided c heard s₀ result) :
    Advances s₀ c s run input heard := by
  refine ⟨s.released lock, .finished result, hstep, hleft, .finished hl.released ?_⟩
  subst hs
  exact h

/-! ### The stations one by one -/

theorem advances_arrived (hs : s.store = s₀) (hl : s.Unheld) (stamp : Stamp) :
    Advances s₀ c s (.arrived c) (.proceed stamp) [] := by
  cases hx : s.store.subsidy? c.subsidy with
  | none =>
    subst hs
    exact ⟨s, _, step_lost hx stamp, by simp [stepsLeft], .finished hl (.lost hx)⟩
  | some x =>
    exact ⟨s, _, step_located hx stamp, by simp [stepsLeft], .located hs hl (hs ▸ hx)⟩

theorem advances_checking (hs : s.store = s₀) (hl : s.HeldOnly lock)
    (hx : s₀.subsidy? c.subsidy = some x) (stamp : Stamp) :
    Advances s₀ c s (.checking c x lock) (.proceed stamp) [] := by
  cases ht : s.store.findByKey x.ledgerUuid (c.resolveKey x.ledgerUuid) with
  | some t =>
    exact advances_finish (step_replayed ht stamp) (by simp [stepsLeft]) hs hl (.held hx (hs ▸ ht))
  | none => exact ⟨s, _, step_missed ht stamp, by simp [stepsLeft], .pricing hs hl ⟨hx, hs ▸ ht⟩⟩

/-- What a price comes to: it is no number, or one that the ledger cannot count, or a debit. -/
theorem advances_pricing (hs : s.store = s₀) (hl : s.HeldOnly lock) (h : s₀.Unpaid c x)
    (price : String) :
    Advances s₀ c s (.pricing c x lock (c.resolveKey x.ledgerUuid)) (.priced (.ok price))
      [.price x.enterprise c.contentKey (.answered (.ok price))] := by
  cases hp : Decimal.parse (Text.trim price) with
  | error e =>
    have hdebit : debitOfText x.unit price =
        .error (.pricing (.decode ("invalid price " ++ Text.quoted price ++ ": " ++ e.message))) := by
      simp only [debitOfText, hp]
    exact advances_finish (step_uncharged hdebit) (by simp [stepsLeft]) hs hl (.unreadable h hp)
  | ok p =>
    cases hd : x.unit.debit p with
    | error e =>
      have hdebit : debitOfText x.unit price = .error (.ledger e) := by simp only [debitOfText, hp, hd]
      exact advances_finish (step_uncharged hdebit) (by simp [stepsLeft]) hs hl (.undebitable h hp hd)
    | ok quantity =>
      have hdebit : debitOfText x.unit price = .ok quantity := by simp only [debitOfText, hp, hd]
      exact ⟨s, _, step_priced hdebit, by simp [stepsLeft], .weighing hs hl ⟨h, p, hp, hd⟩⟩

theorem advances_weighing (hs : s.store = s₀) (hl : s.HeldOnly lock) (ht : s₀.Takes c)
    {price : String} {quantity : Int} (h : s₀.Priced c x price quantity) (stamp : Stamp) :
    Advances s₀ c s (.weighing c x lock (c.resolveKey x.ledgerUuid) quantity) (.proceed stamp)
      [.price x.enterprise c.contentKey (.answered (.ok price))] := by
  obtain ⟨balance, hb⟩ := ht.exists_balance h.toUnpaid
  have hb' : s.store.balance x.ledgerUuid = .ok balance := by rw [hs, hb]
  by_cases hlt : balance + quantity < 0
  · exact advances_finish (step_uncovered hb' hlt stamp) (by simp [stepsLeft]) hs hl (.uncovered h hb hlt)
  · exact ⟨s, _, step_covered hb' hlt stamp, by simp [stepsLeft],
      .enrolling hs hl ⟨h, hb, Int.not_lt.mp hlt⟩⟩

theorem commit_pendingTransaction (c : SpendCommand) (x : Subsidy) (quantity : Int) (drawn : Stamp)
    (reference : String) (now : Timestamp) :
    (pendingTransaction c x (c.resolveKey x.ledgerUuid) quantity drawn).commit (some reference)
        (some enrollmentReferenceType) now =
      .ok (c.payment x quantity drawn reference now) :=
  Transaction.commit_of_created rfl

theorem advances_enrolling (hs : s.store = s₀) (hl : s.HeldOnly lock) {price : String}
    {quantity balance : Int} (h : s₀.Affords c x price quantity balance) (drawn : Stamp)
    (answer : Except EnrollmentError String) (now : Timestamp) :
    Advances s₀ c s
      (.enrolling c x lock (pendingTransaction c x (c.resolveKey x.ledgerUuid) quantity drawn))
      (.enrolled answer now)
      [.price x.enterprise c.contentKey (.answered (.ok price)),
        .enroll ⟨x.enterprise, c.learner, c.contentKey, drawn.uuid⟩ (.answered answer)] := by
  cases answer with
  | error e =>
    -- a pending transaction can fail, so that the refusal is what the spend comes to
    exact advances_finish (step_unenrolled rfl e) (by simp [stepsLeft]) hs hl (.unenrolled h)
  | ok reference =>
    have hcommit := commit_pendingTransaction c x quantity drawn reference now
    exact ⟨s, _, step_fulfilled hcommit, by simp [stepsLeft], .recording hs hl h⟩

theorem advances_recording (hs : s.store = s₀) (hl : s.HeldOnly lock) (ht : s₀.Takes c)
    {price reference : String} {quantity balance : Int} (h : s₀.Affords c x price quantity balance)
    (drawn : Stamp) (now : Timestamp) (stamp : Stamp) :
    Advances s₀ c s (.recording lock (c.payment x quantity drawn reference now)) (.proceed stamp)
      [.price x.enterprise c.contentKey (.answered (.ok price)),
        .enroll ⟨x.enterprise, c.learner, c.contentKey, drawn.uuid⟩ (.answered (.ok reference))] := by
  subst hs
  obtain ⟨l, hledger, hunit, happend⟩ := ht.append_payment h drawn reference now
  refine ⟨_, _, step_recording happend stamp, by simp [stepsLeft], .finished ?_ ?_⟩
  · exact Shared.HeldOnly.released hl
  · exact .created h hledger hunit

theorem OnCourse.decided {result : Except SpendError SpendOutcome}
    (h : OnCourse s₀ c s heard (.finished result)) : s.Unheld ∧ s₀.Decided c heard s.store result := by
  cases h with
  | finished hl h => exact ⟨hl, h⟩

/-- **From every station a spend goes on**, whatever it hears, and stays on course. -/
theorem OnCourse.advances (h : run.OnCourse s₀ c s heard) (ht : s₀.Takes c)
    (hears : run.Hears input more) : Advances s₀ c s run input (heard ++ more) := by
  -- one case for each station, and at each the inputs that it can get
  cases h with
  | arrived hs hl =>
    cases hears with
    | arrived => exact advances_arrived hs hl _
  | located hs hl hx =>
    cases hears with
    | located => exact ⟨_, _, rfl, by simp [stepsLeft], .waiting hs (hl.fetched _) hx⟩
  | waiting hs hl hx =>
    cases hears with
    | waiting =>
      exact ⟨_, _, step_acquired (hl _) _, by simp [stepsLeft], .checking hs (hl.taken _ 0) hx⟩
  | checking hs hl hx =>
    cases hears with
    | checking => exact advances_checking hs hl hx _
  | pricing hs hl hx =>
    cases hears with
    | @priced _ _ _ _ answer =>
      cases answer with
      | error e => exact advances_finish rfl (by simp [stepsLeft]) hs hl (.unpriced hx)
      | ok price => exact advances_pricing hs hl hx price
    | priceCrashed => exact advances_finish rfl (by simp [stepsLeft]) hs hl (.priceCrashed hx)
  | weighing hs hl hx =>
    cases hears with
    | weighing => exact advances_weighing hs hl ht hx _
  | enrolling hs hl hx =>
    cases hears with
    | enrolled => exact advances_enrolling hs hl hx _ _ _
    | enrollCrashed => exact advances_finish rfl (by simp [stepsLeft]) hs hl (.enrollCrashed hx)
  | recording hs hl hx =>
    cases hears with
    | recording => exact advances_recording hs hl ht hx _ _ _
  | finished => cases hears

end SpendRun

/-! ## From the first step to the last -/

namespace World

variable {σ : Type}

/-- A task that goes on from everywhere, and is nearer to its end after each step, is over before
its steps have run out. -/
theorem follow_of_advances {ρ α : Type} {over? : ρ → Option α} {stuck : α}
    {advance : ρ → World σ → Option ρ × World σ} {I : World σ → ρ → Prop} {left : ρ → Nat}
    (hstep : ∀ {w run}, I w run → over? run = none →
      ∃ run' w', advance run w = (some run', w') ∧ left run' < left run ∧ I w' run')
    (steps : Nat) {run : ρ} {w : World σ} (hleft : left run ≤ steps) (h : I w run) :
    ∃ run' result, over? run' = some result ∧
      (follow over? stuck advance steps run w).1 = result ∧
      I (follow over? stuck advance steps run w).2 run' := by
  induction steps generalizing run w with
  | zero =>
    cases ho : over? run with
    | some result => exact ⟨run, result, ho, by simp [follow, ho], h⟩
    | none =>
      -- nothing is left of the run, but it would go on to where less is left
      obtain ⟨run', w', -, hlt, -⟩ := hstep h ho
      omega
  | succ steps ih =>
    cases ho : over? run with
    | some result => exact ⟨run, result, ho, by simp [follow, ho], by simpa [follow, ho] using h⟩
    | none =>
      obtain ⟨run', w', ha, hlt, hnext⟩ := hstep h ho
      simpa [follow, ho, ha] using ih (by omega) hnext

variable (s : Surroundings σ) {c : SpendCommand} {w : World σ}

/-- A step among overheard surroundings stays on course. -/
theorem spendStep_onCourse {s₀ : Store} (ht : s₀.Takes c) {run : SpendRun} {w : World (σ × List Heard)}
    (h : run.OnCourse s₀ c w.shared w.outside.2) (hrun : run.result? = none) :
    ∃ run' w', w.spendStep s.overheard run = (some run', w') ∧ run'.stepsLeft < run.stepsLeft ∧
      run'.OnCourse s₀ c w'.shared w'.outside.2 := by
  obtain ⟨shared, run', hstep, hlt, hnext⟩ := h.advances ht (hears_spendInput s hrun w.outside.1)
  refine ⟨run', { w with shared, outside := (spendInput s.overheard run w.outside).2 }, ?_, hlt, ?_⟩
  · rw [spendStep, spendInput_overheard]
    simp only [hstep]
  · rw [spendInput_overheard]
    exact hnext

/-- **A spend alone comes to what is decided**, and gives back its lock. -/
theorem spend_decided (ht : w.store.Takes c) (hfree : w.shared.Unheld) :
    w.store.Decided c (w.conversation s c) (w.spend s c).2.store (w.spend s c).1 ∧
      (w.spend s c).2.shared.Unheld := by
  have hstart : (SpendRun.arrived c).OnCourse w.store c w.overheard.shared w.overheard.outside.2 :=
    .arrived rfl hfree
  have henough : SpendRun.stepsLeft (.arrived c) ≤ 8 := Nat.le_refl 8
  obtain ⟨run, result, hover, hresult, hend⟩ : ∃ run result, SpendRun.result? run = some result ∧
      (w.overheard.spend s.overheard c).1 = result ∧
      run.OnCourse w.store c (w.overheard.spend s.overheard c).2.shared (w.conversation s c) :=
    follow_of_advances (I := fun (v : World (σ × List Heard)) (run : SpendRun) =>
      run.OnCourse w.store c v.shared v.outside.2)
      (fun h ho => spendStep_onCourse s ht h ho) 8 henough hstart
  obtain rfl := SpendRun.eq_finished hover
  obtain ⟨hl, hdecided⟩ := hend.decided
  -- the same spend, without being overheard
  rw [← spend_overheard s c w]
  exact ⟨hresult ▸ hdecided, hl⟩

/-- **What a spend that is alone settles.** -/
structure Settles (s : Surroundings σ) (c : SpendCommand) (w : World σ) : Prop where
  /-- What is said, what it comes to, and the store afterwards are a row of the decision table. -/
  decided : w.store.Decided c (w.conversation s c) (w.spend s c).2.store (w.spend s c).1
  /-- The lock of the subsidy is given back. -/
  unheld : (w.spend s c).2.shared.Unheld
  /-- Unless it created a transaction, the next spend of the command is decided on the same store. -/
  retried : (∀ t, (w.spend s c).1 ≠ .ok (.created t)) → (w.spend s c).2.store = w.store ∧
    ∀ {τ : Type} (s' : Surroundings τ) (w' : World τ), w'.shared = (w.spend s c).2.shared →
      w.store.Decided c (w'.conversation s' c) (w'.spend s' c).2.store (w'.spend s' c).1
  /-- A created transaction whose identifier was not in use is the one that was added. -/
  added : ∀ {t}, (w.spend s c).1 = .ok (.created t) → w.store.transaction? t.uuid = none →
    ∀ q, (w.spend s c).2.store.listTransactions q = w.store.listTransactions q ++ [t].filter q.accepts
  /-- After a created transaction, the next spend of the command comes to it without a word. -/
  repeated : ∀ {t}, (w.spend s c).1 = .ok (.created t) →
    ∀ {τ : Type} (s' : Surroundings τ) (w' : World τ), w'.shared = (w.spend s c).2.shared →
      w'.conversation s' c = [] ∧ (w'.spend s' c).2.store = w'.store ∧
        (w'.spend s' c).1 = .ok (.existing t)

/-- **One spend, end to end.** Whatever the collaborators reply, a spend that is alone in a store
with a history comes to what the decision table says, and can be made again. -/
theorem spend_settles (c : SpendCommand) (hw : w.store.Reached) (hfree : w.shared.Unheld) :
    w.Settles s c := by
  have hhoused := Store.Housed.of_reached hw
  obtain ⟨hdecided, hunheld⟩ := spend_decided s (hhoused.takes c) hfree
  refine ⟨hdecided, hunheld, ?_, ?_, ?_⟩
  · intro hr
    have hsame : (w.spend s c).2.store = w.store := hdecided.store_eq hr
    refine ⟨hsame, fun s' w' hshared => ?_⟩
    have hstore : w'.store = w.store := (congrArg Shared.store hshared).trans hsame
    rw [← hstore]
    exact (spend_decided s' (hstore ▸ hhoused.takes c) (hshared ▸ hunheld)).1
  · intro t hr hfresh q
    rw [hr] at hdecided
    obtain ⟨x, l, -, -, -, hrecorded⟩ := hdecided.recorded_of_created
    rw [hrecorded]
    exact hhoused.listTransactions_recorded hfresh l q
  · intro t hr τ s' w' hshared
    rw [hr] at hdecided
    obtain ⟨x, l, hx, hledger, hkey, hrecorded⟩ := hdecided.recorded_of_created
    have hstore : w'.store = w.store.recorded l t := (congrArg Shared.store hshared).trans hrecorded
    have hx' : w'.store.subsidy? c.subsidy = some x := by
      rw [hstore]
      exact hx
    have hfind : w'.store.findByKey x.ledgerUuid (c.resolveKey x.ledgerUuid) = some t := by
      rw [hstore, ← hkey, ← hledger]
      exact Store.findByKey_recorded w.store l t
    have hnext := (spend_decided s' (Store.takes_of_held hx' hfind) (hshared ▸ hunheld)).1
    exact hnext.of_held hx' hfind

/-- Collaborators that price everything at 10 and enroll everybody. -/
def obliging : Surroundings Unit where
  stamp _ := (⟨.filled 6, ⟨9, 0⟩⟩, ())
  document _ _ _ := (.error (.transport "not asked"), ())
  price _ _ _ := (.answered (.ok " 10 "), ())
  enroll _ _ := (.answered (.ok "enrollment-1"), ())

/-- A second order for the seat that was given back. -/
def nextOrder : SpendCommand := { System.seatOrder with key := some ⟨"order-43"⟩ }

theorem spend_settles_nextOrder :
    (start Store.seatsReturned (.empty 0) ()).Settles obliging nextOrder ∧
      ∃ t, ((start Store.seatsReturned (.empty 0) ()).spend obliging nextOrder).1 = .ok (.created t) :=
  ⟨spend_settles obliging nextOrder (.of_reachable Store.reachable_seatsReturned) fun _ => rfl, _, rfl⟩

end World
end Bursar
