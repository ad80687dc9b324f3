import Bursar.Proofs.Ledger.Awaiting
import Bursar.Proofs.Ledger.Writers

/-!
# All or nothing

A provision that fails should leave nothing behind, one that succeeds a subsidy with its
deposit, and a ledger that cannot be opened should stay as it is. Alone, every call is
such (`Writer.AllOrNothing`). But a provision enters its subsidy in one step and deposits
in another, and in between its ledger can be seen. If another writer opens it then, or
takes the key of its deposit, the provision fails and its subsidy stays; and a ledger is
marked as open before its deposit is recorded, which fails if the key is taken.

So a call is all or nothing exactly if nobody came in between
(`Writers.provision_all_or_nothing_iff`). Its two halves are a state that carries a
provision through, in which the ledger awaits its deposit (`Store.Awaits`) and which the
others keep as long as they leave the ledger alone (`Writers.Passes`), and the reason why
no ledger waits without its provision (`Writers.provider_of_closed`).
`seatsOvertaken`, `seatKeyTaken` and `depositLost` are writers who did come in between.
-/

namespace Bursar

open Relation (ReflTransGen)

/-! ## Calls -/

/-- **What a writer returns is all or nothing**, as it goes from one state to the next and the
store from `s` to `s'`. A provision that succeeds leaves its subsidy with one deposit, of
the balance that was asked for; one that fails leaves nothing of its subsidy; and to fail to
open a ledger changes nothing. -/
def Writer.AllOrNothing (s s' : Store) : Writer → Writer → Prop
  | _, .provide new (.finished (.ok x)) =>
    s'.subsidies.get? x.uuid = some x ∧ s'.DepositedOnce x.ledgerUuid new.startingBalance
  | .provide _ (.arrived _), .provide _ (.finished (.error _)) => s' = s
  | .provide _ (.registering x _), .provide _ (.finished (.error _)) => s'.HasNothingOf x
  | .provide _ (.opening x _), .provide _ (.finished (.error _)) => s'.HasNothingOf x
  | _, .openLedger _ _ (some (.error _)) => s' = s
  | _, _ => True

/-- The opening of a ledger, alone or as the end of a provision. -/
theorem ProvisionRun.step_opening (s : Store) (x : Subsidy) (balance : Int) (stamp : ProvisionStamp) :
    step s (.opening x balance) stamp =
      some ((s.openLedger x.uuid balance stamp.deposit).2,
        .finished ((s.openLedger x.uuid balance stamp.deposit).1.map fun _ => x)) := by
  cases ho : s.openLedger x.uuid balance stamp.deposit with
  | mk result s' => cases result <;> simp only [step, ho, Except.map]

namespace Writers

/-- **Another writer came first**: the ledger that is to be opened does not await its deposit any
more. That of a provision was opened, or the key was taken. To open a ledger that is open
already is refused at once, so only the key counts there. -/
def Overtaken (c : Writers) (p : Nat) : Prop :=
  match c.writer p with
  | .provide _ (.opening x _) => ¬ c.store.Awaits x
  | .openLedger subsidy balance none => ∃ x l u, c.store.Openable subsidy balance x l ∧
      c.store.liveKeys.get? (x.ledgerUuid, .ofDeposit x.ledgerUuid) = some u
  | _ => False

namespace Sound

variable {c d : Writers} {p : Nat}

theorem based (h : c.Sound) : c.store.Based := .of_written h.written

theorem grounded (h : c.Sound) : c.store.Grounded := .of_written h.written

/-- **A provision's last step.** -/
theorem allOrNothing_opening (h : c.Sound) {new : NewSubsidy} {x : Subsidy} {b : Int}
    (hw : c.writer p = .provide new (.opening x b)) (stamp : Stamp) :
    Writer.AllOrNothing c.store (c.store.openLedger x.uuid b stamp).2 (.provide new (.opening x b))
        (.provide new (.finished ((c.store.openLedger x.uuid b stamp).1.map fun _ => x))) ↔
      c.store.Awaits x := by
  have hx : c.store.subsidies.get? x.uuid = some x := h.entered (p := p) (by rw [hw]; rfl)
  have hasked := h.asked p
  rw [hw] at hasked
  obtain ⟨rfl, hb⟩ := hasked
  constructor
  · intro hall
    by_contra hawaits
    obtain ⟨e, he⟩ := Store.openLedger_of_not_awaits hawaits hx new.startingBalance stamp
    rw [he] at hall
    -- the subsidy stays, although the provision fails
    refine Store.HasNothingOf.subsidy hall ?_
    rw [(Store.sameBooks_openLedger ..).subsidies]
    exact hx
  · intro hawaits
    obtain ⟨l, hl⟩ := hawaits.openLedger_eq hx hb stamp
    obtain ⟨-, -, -, hkey⟩ := hawaits
    rw [hl]
    exact ⟨hx, Store.depositedOnce_opened h.grounded l hkey _ stamp⟩

end Sound

/-- **Opening a ledger.** It is marked as open before its deposit is recorded. -/
theorem allOrNothing_openLedger (s : Store) (subsidy : Uuid) (balance : Int) (stamp : Stamp) :
    Writer.AllOrNothing s (s.openLedger subsidy balance stamp).2 (.openLedger subsidy balance none)
        (.openLedger subsidy balance (some (s.openLedger subsidy balance stamp).1)) ↔
      ¬ ∃ x l u, s.Openable subsidy balance x l ∧
        s.liveKeys.get? (x.ledgerUuid, .ofDeposit x.ledgerUuid) = some u := by
  by_cases htaken : ∃ x l u, s.Openable subsidy balance x l ∧
      s.liveKeys.get? (x.ledgerUuid, .ofDeposit x.ledgerUuid) = some u
  · refine iff_of_false ?_ (not_not_intro htaken)
    obtain ⟨x, l, u, ho, hu⟩ := htaken
    rcases Store.openLedger_of_openable ho stamp with ⟨e, v, -, he⟩ | ⟨hk, -⟩
    · rw [he]
      intro hsame
      -- the mark is what has changed
      have hmark : (s.marked x.ledgerUuid l).ledgers.get? x.ledgerUuid =
          some { l with isOpen := true } := Table.get?_insert_self ..
      rw [show s.marked x.ledgerUuid l = s from hsame, ho.ledger, Option.some.injEq] at hmark
      have hopen : l.isOpen = true := congrArg Ledger.isOpen hmark
      rw [ho.closed] at hopen
      cases hopen
    · cases hk.symm.trans hu
  · refine iff_of_true ?_ htaken
    rcases s.openLedger_cases subsidy balance stamp with
      ⟨e, he⟩ | ⟨x, l, ho, ⟨e, u, hu, -⟩ | ⟨-, he⟩⟩
    · rw [he]
      exact rfl
    · exact absurd ⟨x, l, u, ho, hu⟩ htaken
    · rw [he]
      trivial

/-- **A step is all or nothing exactly if no other writer came first.** -/
theorem Sound.allOrNothing_iff {c d : Writers} {p : Nat} (h : c.Sound) (hs : Step c p d) :
    Writer.AllOrNothing c.store d.store (c.writer p) (d.writer p) ↔ ¬ c.Overtaken p := by
  unfold Overtaken
  cases hs with
  | call hw hcall =>
    rw [hw, update_writer_self]
    cases hcall <;> exact iff_of_true trivial not_false
  | append hw =>
    rw [hw, update_writer_self]
    exact iff_of_true trivial not_false
  | openLedger hw =>
    rw [hw, update_writer_self]
    exact allOrNothing_openLedger ..
  | @provide new run run' stamp store hw _ hstep =>
    rw [hw, update_writer_self, update_store]
    cases run with
    | opening x b =>
      rw [ProvisionRun.step_opening] at hstep
      obtain ⟨rfl, rfl⟩ := Prod.mk.inj (Option.some.inj hstep)
      rw [h.allOrNothing_opening hw]
      exact not_not.symm
    | arrived new' =>
      refine iff_of_true ?_ not_false
      cases ProvisionRun.move_of_step hstep with
      | declined => exact rfl
      | accepted => trivial
    | registering x b =>
      refine iff_of_true ?_ not_false
      cases ProvisionRun.move_of_step hstep with
      | refused =>
        exact Store.hasNothingOf_of_no_ledger h.based h.paired (h.drawn (by rw [hw]; rfl))
      | entered => trivial
    | finished => cases hstep

/-! ## The gap -/

/-- The next step of the writer is about the ledger of the subsidy: it is opened, or something is
appended to it under the key of its deposit. -/
def Disturbs (c : Writers) (q : Nat) (x : Subsidy) : Prop :=
  match c.writer q with
  | .openLedger subsidy _ none => subsidy = x.uuid
  | .append t none => t.ledgerUuid = x.ledgerUuid ∧ t.key = .ofDeposit x.ledgerUuid
  | _ => False

/-- Another writer than `p` takes a step that is not about the ledger of the subsidy. -/
def Passes (p : Nat) (x : Subsidy) (c d : Writers) : Prop :=
  ∃ q, q ≠ p ∧ Step c q d ∧ ¬ c.Disturbs q x

/-- The other writer's call is the same after the step. -/
theorem Passes.writer_eq {c d : Writers} {p : Nat} {x : Subsidy} (h : Passes p x c d) :
    d.writer p = c.writer p := by
  obtain ⟨q, hq, hs, -⟩ := h
  cases hs with
  | call | provide | openLedger | append => exact c.update_writer_of_ne (Ne.symm hq) ..

namespace Sound

variable {c d : Writers} {p : Nat} {x : Subsidy}

/-- A ledger goes on waiting while others pass. -/
theorem awaits_pass (h : c.Sound) (hx : (c.writer p).entered? = some x)
    (hawaits : c.store.Awaits x) (hpass : Passes p x c d) : d.store.Awaits x := by
  obtain ⟨q, hq, hs, hfar⟩ := hpass
  have hstored := h.entered hx
  unfold Disturbs at hfar
  cases hs with
  | call => exact hawaits
  | append hw =>
    rw [hw] at hfar
    exact hawaits.append fun hledger hkey => hfar ⟨hledger, hkey⟩
  | openLedger hw =>
    rw [hw] at hfar
    exact hawaits.openLedger h.paired hstored hfar ..
  | @provide new run run' stamp store hw _ hstep =>
    cases ProvisionRun.move_of_step hstep with
    | declined | accepted | refused => exact hawaits
    | entered => exact hawaits.entered (h.drawn (p := q) (by rw [hw]; rfl))
    | opened =>
      -- two provisions never wait for one subsidy
      refine hawaits.openLedger h.paired hstored (fun hsame => hq ?_) ..
      exact h.apart (by rw [hw]; rfl) hx hsame

/-- **While others pass, a provision is not overtaken.** -/
theorem not_overtaken_of_passes (h : c.Sound) (hs : Step c p d)
    (hx : (d.writer p).entered? = some x) {e : Writers}
    (hpasses : ReflTransGen (Passes p x) d e) : e.writer p = d.writer p ∧ ¬ e.Overtaken p := by
  -- the ledger waits once the provision has entered it, and nobody who passes makes it stop
  have hstart : d.store.Awaits x := by
    cases hs with
    | call hw hcall =>
      rw [update_writer_self] at hx
      cases hcall <;> cases hx
    | append | openLedger =>
      rw [update_writer_self] at hx
      cases hx
    | @provide new run run' stamp store hw _ hstep =>
      rw [update_writer_self] at hx
      cases ProvisionRun.move_of_step hstep with
      | declined | accepted | refused | opened => cases hx
      | entered =>
        obtain rfl := Option.some.inj hx
        exact .of_entered h.based (h.drawn (p := p) (by rw [hw]; rfl))
  have hall : e.Sound ∧ e.writer p = d.writer p ∧ e.store.Awaits x := by
    induction hpasses with
    | refl => exact ⟨h.step hs, rfl, hstart⟩
    | tail _ hpass ih =>
      obtain ⟨hsound, hsame, hawaits⟩ := ih
      have hentered := hsame ▸ hx
      obtain ⟨q, -, hstep, -⟩ := id hpass
      exact ⟨hsound.step hstep, hpass.writer_eq.trans hsame, hsound.awaits_pass hentered hawaits hpass⟩
  obtain ⟨-, hsame, hawaits⟩ := hall
  refine ⟨hsame, fun hovertaken => ?_⟩
  unfold Overtaken at hovertaken
  rw [← hsame] at hx
  cases hw : e.writer p with
  | idle | openLedger | append =>
    rw [hw] at hx
    cases hx
  | provide new run =>
    rw [hw] at hx hovertaken
    cases run with
    | arrived | registering | finished => cases hx
    | opening y b =>
      obtain rfl := Option.some.inj hx
      exact hovertaken hawaits

end Sound

/-- **A ledger is closed only while its provision is under way.** -/
theorem provider_of_closed {c : Writers} (h : c.Reachable) {u : Uuid} {l : Ledger}
    (hl : c.store.ledgers.get? u = some l) (hclosed : l.isOpen = false) :
    ∃ q x, (c.writer q).entered? = some x ∧ x.ledgerUuid = u := by
  induction h generalizing l with
  | refl => cases hl
  | @tail c d hreachable hs ih =>
    obtain ⟨p, hs⟩ := hs
    have hsound := Sound.of_reachable hreachable
    -- who provided it before does so still, but for the writer that has taken the step
    have hstays {r : Ledger} (hr : c.store.ledgers.get? u = some r) (hrclosed : r.isOpen = false)
        {store : Store} {w : Writer}
        (hp : ∀ {x}, (c.writer p).entered? = some x → x.ledgerUuid ≠ u) :
        ∃ q x, ((c.update p store w).writer q).entered? = some x ∧ x.ledgerUuid = u := by
      obtain ⟨q, x, hx, hledger⟩ := ih hr hrclosed
      refine ⟨q, x, ?_, hledger⟩
      rwa [c.update_writer_of_ne]
      rintro rfl
      exact hp hx hledger
    cases hs with
    | call hw => exact hstays hl hclosed (by rw [hw]; nofun)
    | append hw =>
      obtain ⟨r, hr, hrclosed⟩ := Store.closed_of_append hl hclosed
      exact hstays hr hrclosed (by rw [hw]; nofun)
    | openLedger hw =>
      exact hstays (Store.closed_of_openLedger hl hclosed) hclosed (by rw [hw]; nofun)
    | @provide new run run' stamp store hw _ hstep =>
      cases ProvisionRun.move_of_step hstep with
      | declined | accepted | refused => exact hstays hl hclosed (by rw [hw]; nofun)
      | @entered x b =>
        rcases Table.get?_insert_cases hl with ⟨rfl, -⟩ | ⟨-, hold⟩
        · exact ⟨p, x, by rw [update_writer_self]; rfl, rfl⟩
        · exact hstays hold hclosed (by rw [hw]; nofun)
      | @opened x b =>
        refine hstays (Store.closed_of_openLedger hl hclosed) hclosed ?_
        have hx := hsound.entered (p := p) (x := x) (by rw [hw]; rfl)
        have hasked := hsound.asked p
        rw [hw] at hasked ⊢
        rintro y ⟨⟩ rfl
        have hopen := Store.isOpen_after_openLedger hx hasked.2 hl
        rw [hclosed] at hopen
        cases hopen

/-- A deposit stays the only one while no identifier of a stored transaction is used again. -/
theorem Sound.depositedOnce_step {c d : Writers} {p : Nat} (h : c.Sound) (hs : Step c p d)
    (hfresh : ∀ t, c.writer p = .append t none → c.store.transactions.get? t.uuid = none)
    {ledger : Uuid} {quantity : Int} (hd : c.store.DepositedOnce ledger quantity) :
    d.store.DepositedOnce ledger quantity := by
  cases hs with
  | call => exact hd
  | append hw => exact hd.append h.grounded (hfresh _ hw)
  | openLedger _ fresh => exact hd.openLedger h.grounded fresh.1 ..
  | @provide new run run' stamp store hw fresh hstep =>
    cases ProvisionRun.move_of_step hstep with
    | declined | accepted | refused | entered => exact hd
    | opened => exact hd.openLedger h.grounded (fresh _ (List.mem_singleton_self _)).1 ..

/-- **Calls are all or nothing exactly if nobody came in between**, whatever writers do with
whatever arguments. A step by which a call returns is so unless another writer came first. A
provision whose subsidy is entered is not overtaken while the steps of others are not about
its ledger; and to open a ledger can be overtaken only while its own provision is under way.
The deposit that a provision has left stays the only one while no transaction is appended under
the identifier of a stored one. -/
theorem provision_all_or_nothing_iff {c : Writers} (h : c.Reachable) :
    (∀ p d, Step c p d →
      (Writer.AllOrNothing c.store d.store (c.writer p) (d.writer p) ↔ ¬ c.Overtaken p)) ∧
    (∀ p d e x, Step c p d → (d.writer p).entered? = some x →
      ReflTransGen (Passes p x) d e → e.writer p = d.writer p ∧ ¬ e.Overtaken p) ∧
    (∀ p subsidy balance, c.writer p = .openLedger subsidy balance none → c.Overtaken p →
      ∃ q x, (c.writer q).entered? = some x ∧ x.uuid = subsidy) ∧
    ∀ p d ledger quantity, c.store.DepositedOnce ledger quantity → Step c p d →
      (∀ t, c.writer p = .append t none → c.store.transactions.get? t.uuid = none) →
      d.store.DepositedOnce ledger quantity := by
  have hsound := Sound.of_reachable h
  refine ⟨fun p d hs => hsound.allOrNothing_iff hs, ?_, ?_, ?_⟩
  · intro p d e x hs hx hpasses
    exact hsound.not_overtaken_of_passes hs hx hpasses
  · intro p subsidy balance hw hovertaken
    rw [Overtaken, hw] at hovertaken
    obtain ⟨y, l, -, ho, -⟩ := hovertaken
    obtain ⟨q, x, hx, hledger⟩ := provider_of_closed h ho.ledger ho.closed
    refine ⟨q, x, hx, ?_⟩
    rw [hsound.paired.ledger_injective (hsound.entered hx) ho.stored hledger]
    exact hsound.paired.subsidy_uuid_eq ho.stored
  · intro p d ledger quantity hd hs hfresh
    exact hsound.depositedOnce_step hs hfresh hd

/-! ### Three seats -/

theorem Fresh.update {c : Writers} {u : Uuid} (h : c.Fresh u) {p : Nat} {store : Store} {w : Writer}
    (hs : store.transactions.get? u = none ∧ store.ledgers.get? u = none) (hw : w.drawn? ≠ some u) :
    (c.update p store w).Fresh u := by
  refine ⟨hs.1, hs.2, fun q => ?_⟩
  by_cases hq : q = p
  · rw [hq, update_writer_self]
    exact hw
  · rw [c.update_writer_of_ne hq]
    exact h.2.2 q

theorem fresh_start (u : Uuid) : start.Fresh u := ⟨rfl, rfl, nofun⟩

theorem Reachable.step {c d : Writers} {p : Nat} (h : c.Reachable) (hs : Step c p d) : d.Reachable :=
  ReflTransGen.tail h ⟨p, hs⟩

open Store (threeSeats seatStamp seatTaken)

/-- The subsidy of the seats. -/
def seatSubsidy : Subsidy := Store.subsidyOf threeSeats seatStamp

/-- Writer 0 is about to enter the seats. -/
def seatsDrawn : Writers :=
  (start.update 0 .empty (.provide threeSeats (.arrived threeSeats))).update 0 .empty
    (.provide threeSeats (.registering seatSubsidy 3))

/-- The seats are entered, and their deposit is to be made. -/
def seatsEntered : Writers :=
  seatsDrawn.update 0 (Store.empty.entered seatSubsidy)
    (.provide threeSeats (.opening seatSubsidy 3))

theorem reachable_seatsDrawn : seatsDrawn.Reachable := by
  have hcalled : Reachable (start.update 0 .empty (.provide threeSeats (.arrived threeSeats))) :=
    .step .refl (.call rfl (.provide threeSeats))
  refine hcalled.step (@Step.provide _ 0 threeSeats _ _ seatStamp _ rfl ?_ rfl)
  intro u hu
  exact (fresh_start u).update ⟨rfl, rfl⟩ nofun

theorem step_seatsEntered : Step seatsDrawn 0 seatsEntered :=
  @Step.provide _ 0 threeSeats _ _ seatStamp _ rfl nofun rfl

theorem reachable_seatsEntered : seatsEntered.Reachable :=
  reachable_seatsDrawn.step step_seatsEntered

/-- No identifier is in use but those of the subsidy and its ledger. -/
theorem fresh_seatsEntered {u : Uuid} (hu : u ≠ .filled 2) : seatsEntered.Fresh u := by
  have hledger : seatsEntered.store.ledgers.get? u = none := Table.get?_insert_of_ne _ hu _
  have hcalled : (start.update 0 .empty (.provide threeSeats (.arrived threeSeats))).Fresh u :=
    (fresh_start u).update ⟨rfl, rfl⟩ nofun
  have hdrawn : seatsDrawn.Fresh u :=
    hcalled.update ⟨rfl, rfl⟩ fun hdraws => hu (Option.some.inj hdraws).symm
  exact hdrawn.update ⟨rfl, hledger⟩ nofun

/-- The seats with their deposit. -/
def seatsDeposited : Writers :=
  seatsEntered.update 0 (seatsEntered.store.openLedger (.filled 1) 3 seatStamp.deposit).2
    (.provide threeSeats (.finished (.ok seatSubsidy)))

theorem step_seatsDeposited : Step seatsEntered 0 seatsDeposited := by
  refine @Step.provide _ 0 threeSeats _ _ seatStamp _ rfl ?_ rfl
  intro u hu
  obtain rfl := List.mem_singleton.mp hu
  exact fresh_seatsEntered (by decide)

theorem provision_all_or_nothing_iff_seats :
    ¬ seatsEntered.Overtaken 0 ∧ seatsDeposited.store.DepositedOnce (.filled 2) 3 := by
  obtain ⟨-, hpasses, -⟩ := provision_all_or_nothing_iff reachable_seatsDrawn
  obtain ⟨hstep, -⟩ := provision_all_or_nothing_iff reachable_seatsEntered
  have hfirst := (hpasses 0 _ _ _ step_seatsEntered rfl .refl).2
  exact ⟨hfirst, ((hstep 0 _ step_seatsDeposited).mpr hfirst).2⟩

/-! ### Others come in between -/

/-- Writer 1 opens the ledger of the seats before their deposit is made. -/
def seatsOvertaken : Writers :=
  (seatsEntered.update 1 seatsEntered.store (.openLedger (.filled 1) 0 none)).update 1
    (seatsEntered.store.openLedger (.filled 1) 0 ⟨.filled 4, ⟨0, 0⟩⟩).2
    (.openLedger (.filled 1) 0
      (some (seatsEntered.store.openLedger (.filled 1) 0 ⟨.filled 4, ⟨0, 0⟩⟩).1))

/-- Writer 1 has called, and its step is not taken yet. -/
theorem fresh_called {u : Uuid} (hu : u ≠ .filled 2) :
    (seatsEntered.update 1 seatsEntered.store (.openLedger (.filled 1) 0 none)).Fresh u :=
  (fresh_seatsEntered hu).update ⟨(fresh_seatsEntered hu).1, (fresh_seatsEntered hu).2.1⟩ nofun

theorem reachable_seatsOvertaken : seatsOvertaken.Reachable := by
  have hcalled : Reachable (seatsEntered.update 1 seatsEntered.store (.openLedger (.filled 1) 0 none)) :=
    reachable_seatsEntered.step (.call rfl (.openLedger (.filled 1) 0))
  exact hcalled.step (@Step.openLedger _ 1 (.filled 1) 0 ⟨.filled 4, ⟨0, 0⟩⟩ rfl
    (fresh_called (by decide)))

/-- A transaction under the key of the deposit. -/
def seatKeyHeld : Transaction := { seatTaken with key := .ofDeposit (.filled 2), quantity := 0 }

/-- Writer 1 appends it before the deposit is made. -/
def seatKeyAppended : Writers :=
  (seatsEntered.update 1 seatsEntered.store (.append seatKeyHeld none)).update 1
    (seatsEntered.store.append seatKeyHeld).2
    (.append seatKeyHeld (some (seatsEntered.store.append seatKeyHeld).1))

/-- Then writer 2 is about to open the ledger. -/
def seatKeyTaken : Writers :=
  seatKeyAppended.update 2 seatKeyAppended.store (.openLedger (.filled 1) 3 none)

theorem reachable_seatKeyTaken : seatKeyTaken.Reachable := by
  have hcalled : Reachable (seatsEntered.update 1 seatsEntered.store (.append seatKeyHeld none)) :=
    reachable_seatsEntered.step (.call rfl (.append seatKeyHeld))
  have happended : seatKeyAppended.Reachable := hcalled.step (@Step.append _ 1 seatKeyHeld rfl)
  exact happended.step (.call rfl (.openLedger (.filled 1) 3))

/-- A seat taken under the identifier of the deposit, which was made; it is about to be appended. -/
def seatOverDeposit : Transaction := { seatTaken with uuid := .filled 3 }

/-- Writer 1 is about to append it. -/
def depositLost : Writers :=
  seatsDeposited.update 1 seatsDeposited.store (.append seatOverDeposit none)

theorem reachable_depositLost : depositLost.Reachable :=
  (reachable_seatsEntered.step step_seatsDeposited).step (.call rfl (.append seatOverDeposit))

/-- The provision that is overtaken fails, and its subsidy stays. -/
theorem step_seatsOvertaken : ∃ d, Step seatsOvertaken 0 d ∧
    ¬ Writer.AllOrNothing seatsOvertaken.store d.store (seatsOvertaken.writer 0) (d.writer 0) := by
  have hfresh : seatsOvertaken.Fresh (.filled 3) := (fresh_called (by decide)).update ⟨rfl, rfl⟩ nofun
  refine ⟨_, @Step.provide _ 0 threeSeats _ _ seatStamp _ rfl ?_ rfl, fun hall => ?_⟩
  · intro u hu
    obtain rfl := List.mem_singleton.mp hu
    exact hfresh
  · exact Store.HasNothingOf.subsidy hall rfl

/-- The ledger cannot be opened, and is open. -/
theorem step_seatKeyTaken : ∃ d, Step seatKeyTaken 2 d ∧
    ¬ Writer.AllOrNothing seatKeyTaken.store d.store (seatKeyTaken.writer 2) (d.writer 2) := by
  have hentered : seatsEntered.Fresh (.filled 5) := fresh_seatsEntered (by decide)
  have hcalled : (seatsEntered.update 1 seatsEntered.store (.append seatKeyHeld none)).Fresh (.filled 5) :=
    hentered.update ⟨rfl, rfl⟩ nofun
  have happended : seatKeyAppended.Fresh (.filled 5) := hcalled.update ⟨rfl, rfl⟩ nofun
  have hfresh : seatKeyTaken.Fresh (.filled 5) := happended.update ⟨rfl, rfl⟩ nofun
  refine ⟨_, @Step.openLedger _ 2 (.filled 1) 3 ⟨.filled 5, ⟨0, 0⟩⟩ rfl hfresh, fun hall => ?_⟩
  have hopen := congrArg (fun s => (s.ledgers.get? (.filled 2)).map Ledger.isOpen) hall
  exact absurd hopen (by decide)

/-- The deposit is overwritten. -/
theorem step_depositLost : ∃ d, Step depositLost 1 d ∧ ¬ d.store.DepositedOnce (.filled 2) 3 := by
  refine ⟨_, .append rfl, ?_⟩
  rintro ⟨u, t, -, -, honly⟩
  obtain ⟨hstored, -, hkey⟩ := (honly u t).mpr ⟨rfl, rfl⟩
  rcases Table.get?_insert_cases hstored with ⟨-, rfl⟩ | ⟨hne, hold⟩
  · exact absurd hkey (by decide)
  · rcases Table.get?_insert_cases hold with ⟨heq, -⟩ | ⟨-, hnone⟩
    · exact hne heq
    · cases hnone

/-- **With others in between, calls are not all or nothing.** A provision fails and its subsidy
stays; a ledger cannot be opened, and is open; and a deposit that was made is overwritten. -/
theorem not_allOrNothing_seats :
    (seatsOvertaken.Reachable ∧ ∃ d, Step seatsOvertaken 0 d ∧
      ¬ Writer.AllOrNothing seatsOvertaken.store d.store (seatsOvertaken.writer 0) (d.writer 0)) ∧
    (seatKeyTaken.Reachable ∧ ∃ d, Step seatKeyTaken 2 d ∧
      ¬ Writer.AllOrNothing seatKeyTaken.store d.store (seatKeyTaken.writer 2) (d.writer 2)) ∧
    depositLost.Reachable ∧ depositLost.store.DepositedOnce (.filled 2) 3 ∧
      ∃ d, Step depositLost 1 d ∧ ¬ d.store.DepositedOnce (.filled 2) 3 := by
  refine ⟨⟨reachable_seatsOvertaken, step_seatsOvertaken⟩, ⟨reachable_seatKeyTaken, step_seatKeyTaken⟩,
    reachable_depositLost, ?_, step_depositLost⟩
  have hsound := Sound.of_reachable reachable_seatsEntered
  have hawaits : seatsEntered.store.Awaits seatSubsidy := ⟨_, rfl, rfl, rfl⟩
  exact ((hsound.allOrNothing_opening (p := 0) rfl seatStamp.deposit).mpr hawaits).2

end Writers
end Bursar
