import Bursar.Proofs.Spend.System

/-!
# No ledger is ever overdrawn

The identifiers that tasks hold but did not store yet are not in use anywhere else, so
that what they store meets nothing of the kind (`System.Sound`). One lemma for each kind
of task says that its steps keep this, and with it the soundness of the store
(`Sound.step`). A sound store has no ledger below zero, hence nor has that of any
reachable system (`balance_not_negative`).
-/

namespace Bursar

open Relation (ReflTransGen)

namespace System

/-- An identifier that is not stored. -/
def Unstored (s : Store) (u : Uuid) : Prop :=
  s.transactions.get? u = none ∧ s.ledgers.get? u = none

namespace Unstored

variable {s : Store} {u : Uuid}

theorem ne_ledger (h : Unstored s u) {v : Uuid} {l : Ledger} (hl : s.ledgers.get? v = some l) :
    u ≠ v := by
  rintro rfl
  rw [h.2] at hl
  cases hl

theorem recorded (h : Unstored s u) {l l' : Ledger} {t : Transaction} (hu : u ≠ t.uuid)
    (hl : s.ledgers.get? t.ledgerUuid = some l) : Unstored (s.recorded l' t) u :=
  ⟨(Table.get?_insert_of_ne _ hu _).trans h.1,
    (Table.get?_insert_of_ne _ (h.ne_ledger hl) _).trans h.2⟩

theorem entered (h : Unstored s u) {x : Subsidy} (hu : u ≠ x.ledgerUuid) :
    Unstored (s.entered x) u :=
  ⟨h.1, (Table.get?_insert_of_ne _ hu _).trans h.2⟩

theorem marked (h : Unstored s u) {v : Uuid} {l : Ledger} (hl : s.ledgers.get? v = some l) :
    Unstored (s.marked v l) u :=
  ⟨h.1, (Table.get?_insert_of_ne _ (h.ne_ledger hl) _).trans h.2⟩

theorem append (h : Unstored s u) {t : Transaction} (hu : u ≠ t.uuid) :
    Unstored (s.append t).2 u := by
  rcases s.append_cases t with ⟨e, he⟩ | ⟨l, ht, -, he⟩
  · rw [he]
    exact h
  · rw [he]
    exact h.recorded hu ht.ledger

theorem reverse (h : Unstored s u) (v : Uuid) (stamp : Stamp) :
    Unstored (s.reverse v stamp).2 u := by
  rcases s.reverse_cases v stamp with ⟨e, he⟩ | ⟨t, ht, -, he⟩
  · rw [he]
    exact h
  · rw [he]
    refine ⟨(Table.get?_insert_of_ne _ ?_ _).trans h.1, h.2⟩
    rintro rfl
    have hstored := ht.stored
    rw [h.1] at hstored
    cases hstored

theorem openLedger (h : Unstored s u) {subsidy : Uuid} {balance : Int} {stamp : Stamp}
    (hu : u ≠ stamp.uuid) : Unstored (s.openLedger subsidy balance stamp).2 u := by
  rcases s.openLedger_cases subsidy balance stamp with
    ⟨e, he⟩ | ⟨x, l, ho, ⟨e, v, -, he⟩ | ⟨-, he⟩⟩
  · rw [he]
    exact h
  · rw [he]
    exact h.marked ho.ledger
  · rw [he]
    exact (h.marked ho.ledger).recorded hu (Table.get?_insert_self ..)

end Unstored

/-- **The store is sound, and what tasks are about to store is new**: the identifiers
they hold are not stored, and no two tasks hold the same one. -/
structure Sound (c : System) : Prop where
  store : c.store.Sound
  unstored : ∀ {p u}, u ∈ (c.work p).names → Unstored c.store u
  distinct : ∀ {p q u}, u ∈ (c.work p).names → u ∈ (c.work q).names → p = q
  unreversed : ∀ {p t}, (c.work p).bill? = some t → t.reversal = none

theorem sound_start : start.Sound where
  store := Store.sound_empty
  unstored := by simp [start, Work.names]
  distinct := by simp [start, Work.names]
  unreversed := by simp [start, Work.bill?]

namespace Sound

variable {c : System} {p : Nat}

theorem granting (h : c.Sound) (f : Option Fulfillment) : (c.granting f).Sound :=
  ⟨h.store, h.unstored, h.distinct, h.unreversed⟩

/-- A task may store what it holds and what is fresh, and hold on to what it held and to
what is fresh, as long as it stores nothing that it still holds. -/
theorem update (h : c.Sound) {shared : Shared} {w : Work} (hstore : shared.store.Sound)
    (hstay : ∀ {u}, Unstored c.store u → u ∉ (c.work p).names → ¬ c.Fresh u →
      Unstored shared.store u)
    (hown : ∀ {u}, u ∈ w.names → Unstored shared.store u)
    (hnew : ∀ {u}, u ∈ w.names → u ∈ (c.work p).names ∨ c.Fresh u)
    (hbill : ∀ {t}, w.bill? = some t → t.reversal = none) : (c.update p shared w).Sound := by
  -- what another task holds is neither held by `p` nor fresh
  have apart {q u} (hq : q ≠ p) (hu : u ∈ (c.work q).names) : u ∉ (c.work p).names ∧ ¬ c.Fresh u :=
    ⟨fun hp => hq (h.distinct hu hp), fun hf => hf.2.2 q hu⟩
  refine ⟨hstore, ?_, ?_, ?_⟩
  · intro q u hu
    by_cases hq : q = p
    · subst hq
      exact hown (by rwa [update_work_self] at hu)
    · rw [c.update_work_of_ne hq] at hu
      exact hstay (h.unstored hu) (apart hq hu).1 (apart hq hu).2
  · intro q r u hu hv
    refine eq_of_clash_update (R := fun v w : Work => ∃ u, u ∈ v.names ∧ u ∈ w.names)
      (fun ⟨u, hv, hw⟩ => ⟨u, hw, hv⟩) (fun ⟨u, hv, hw⟩ => h.distinct hv hw) ?_ ⟨u, hu, hv⟩
    rintro q hq ⟨u, hw, hu⟩
    rcases hnew hw with hheld | hfresh
    · exact (apart hq hu).1 hheld
    · exact (apart hq hu).2 hfresh
  · intro q t ht
    by_cases hq : q = p
    · rw [hq, update_work_self] at ht
      exact hbill ht
    · rw [c.update_work_of_ne hq] at ht
      exact h.unreversed ht

/-- A task that leaves the store alone. -/
theorem update_of_same_store (h : c.Sound) {shared : Shared} {w : Work}
    (hs : shared.store = c.store)
    (hnew : ∀ {u}, u ∈ w.names → u ∈ (c.work p).names ∨ c.Fresh u)
    (hbill : ∀ {t}, w.bill? = some t → t.reversal = none) : (c.update p shared w).Sound := by
  refine h.update (by rw [hs]; exact h.store) (fun hu _ _ => by rwa [hs]) ?_ hnew hbill
  intro u hu
  rw [hs]
  rcases hnew hu with hu | hu
  · exact h.unstored hu
  · exact ⟨hu.1, hu.2.1⟩

/-- A task that leaves the store alone and holds no identifiers afterwards. -/
theorem update_idle (h : c.Sound) {shared : Shared} {w : Work} (hs : shared.store = c.store)
    (hn : w.names = []) (hb : w.bill? = none) : (c.update p shared w).Sound :=
  h.update_of_same_store hs (by simp [hn]) (by simp [hb])

/-- What a spend is about to record is new and has no reversal. -/
theorem bill (h : c.Sound) {t : Transaction} {cmd : SpendCommand} {run : SpendRun}
    (hw : c.work p = .spend cmd run) (ht : run.bill? = some t) :
    Unstored c.store t.uuid ∧ t.reversal = none := by
  have hb : (c.work p).bill? = some t := by rw [hw]; exact ht
  refine ⟨h.unstored (p := p) ?_, h.unreversed hb⟩
  rw [hw]
  simp [Work.names, ht]

theorem spend (h : c.Sound) {cmd : SpendCommand} {run run' : SpendRun} {input : StepInput}
    {shared : Shared} (hw : c.work p = .spend cmd run)
    (fresh : ∀ u ∈ run.draws input, c.Fresh u)
    (hm : SpendRun.Move p c.shared run input shared run') :
    (c.update p shared (.spend cmd run')).Sound := by
  cases hm with
  | lost | located | fetched | acquired | replayed | missed | priced | unsettled | gaveUp =>
    exact h.update_idle rfl rfl rfl
  | covered hb hq =>
    refine h.update_of_same_store rfl ?_ ?_
    · intro u hu
      exact .inr (fresh u hu)
    · intro t ht
      obtain rfl := Option.some.inj ht
      rfl
  | fulfilled ht =>
    obtain ⟨-, rfl⟩ := Transaction.commit_eq_ok ht
    refine h.update_of_same_store rfl ?_ ?_
    · intro u hu
      rw [hw]
      exact .inl hu
    · intro t ht
      obtain rfl := Option.some.inj ht
      exact (h.bill hw rfl).2
  | @recorded lock t t' store _ ha | @refused lock t e store _ ha =>
    -- refused or not, the store is what the append left behind
    obtain ⟨hu, hr⟩ := h.bill hw rfl
    obtain rfl : store = (c.store.append t).2 := by rw [show c.store.append t = _ from ha]
    refine h.update (h.store.append hu.1 hr) ?_ nofun nofun nofun
    intro u hu hn _
    refine hu.append ?_
    rintro rfl
    exact hn (by rw [hw]; exact List.mem_singleton_self _)

theorem reverse (h : c.Sound) {v : Uuid} {run run' : ReverseRun} {stamp : Stamp} {shared : Shared}
    (hm : ReverseRun.Move p c.shared run stamp shared run') :
    (c.update p shared (.reverse v run')).Sound := by
  cases hm with
  | lost | found | located | fetched | acquired => exact h.update_idle rfl rfl rfl
  | reversed =>
    refine h.update (h.store.reverse _ _) ?_ nofun nofun nofun
    exact fun hu _ _ => hu.reverse _ _

theorem provide (h : c.Sound) {new : NewSubsidy} {run run' : ProvisionRun}
    {stamp : ProvisionStamp} {store : Store} (hw : c.work p = .provide new run)
    (fresh : ∀ u ∈ run.draws stamp, c.Fresh u)
    (hm : ProvisionRun.Move c.store stamp run store run') :
    (c.update p { c.shared with store } (.provide new run')).Sound := by
  cases hm with
  | declined | refused => exact h.update_idle rfl rfl rfl
  | accepted hb =>
    refine h.update_of_same_store rfl ?_ nofun
    intro u hu
    exact .inr (fresh u hu)
  | @entered x balance hx =>
    have hn : x.ledgerUuid ∈ (c.work p).names := by rw [hw]; exact List.mem_singleton_self _
    refine h.update (h.store.entered hx (h.unstored hn).2) ?_ nofun nofun nofun
    intro u hu hne _
    refine hu.entered ?_
    rintro rfl
    exact hne hn
  | opened =>
    have hdeposit : c.Fresh stamp.deposit.uuid := fresh _ (List.mem_singleton_self _)
    refine h.update (h.store.openLedger _ _ hdeposit.1) ?_ nofun nofun nofun
    intro u hu _ hf
    refine hu.openLedger ?_
    rintro rfl
    exact hf hdeposit

/-- **Every step keeps the system sound.** -/
theorem step {d : System} (h : c.Sound) (hs : Step c d) : d.Sound := by
  rcases hs with hs | hs
  · cases hs with
    | spendArrives | reverseArrives => exact h.update_idle rfl rfl rfl
    | spend hw fresh hstep => exact (h.spend hw fresh (SpendRun.move_of_step hstep)).granting _
    | reverse hw hstep => exact h.reverse (ReverseRun.move_of_step hstep)
  · cases hs with
    | arrives => exact h.update_idle rfl rfl rfl
    | step hw fresh hstep => exact h.provide hw fresh (ProvisionRun.move_of_step hstep)

theorem steps {d : System} (h : c.Sound) (hs : ReflTransGen Step c d) : d.Sound := by
  induction hs with
  | refl => exact h
  | tail _ hs ih => exact ih.step hs

end Sound

/-- **No ledger is ever overdrawn**, whatever the tasks and their order: a ledger has a
balance, and it is not below zero. -/
theorem balance_not_negative {c : System} (h : ReflTransGen Step start c) {ledger : Uuid}
    {l : Ledger} (hl : c.store.ledgers.get? ledger = some l) :
    ∃ b, c.store.balance ledger = .ok b ∧ 0 ≤ b := by
  have hs := (sound_start.steps h).store
  exact ⟨c.store.total ledger, hs.balance_of_ledger hl, hs.solvent ledger⟩

/-! ### Two seats are sold, and one is returned -/

/-- Three seats, provided by task 0. -/
def seatsProvided : System :=
  start.update 0
    { start.shared with store := (Store.empty.createSubsidy Store.threeSeats Store.seatStamp).2 }
    (.provide Store.threeSeats (.finished (Store.empty.createSubsidy Store.threeSeats Store.seatStamp).1))

theorem steps_seatsProvided : ReflTransGen ProvisionStep start seatsProvided :=
  steps_provide rfl Store.threeSeats (fresh_start _) (fresh_start _) (by decide)

/-- A seat for learner 7. -/
def seatOrder : SpendCommand := ⟨.filled 1, 7, "course-1", .filled 8, some ⟨"order-42"⟩⟩

/-- The subsidy that the seat is taken from. -/
def seats : Subsidy := Store.subsidyOf Store.threeSeats Store.seatStamp

/-- One lock was made, for the seats. -/
def seatLocks (holders : List (Nat × Nat)) : Locks := ⟨⟨[(.filled 1, 0)]⟩, 1, ⟨holders⟩⟩

/-- What task 1 asks for the enrollment with. -/
def seatBill : Transaction :=
  SpendRun.pendingTransaction seatOrder seats ⟨"order-42"⟩ (-1) ⟨.filled 4, ⟨5, 0⟩⟩

/-- What task 1 records when the enrollment is granted. -/
def seatPaid : Transaction :=
  { seatBill with
    state := .committed, modified := ⟨6, 0⟩, referenceId := some "enrollment-1",
    referenceType := some enrollmentReferenceType }

/-- The enrollment of learner 7. -/
def seatGranted : Fulfillment where
  task := 1
  request := SpendRun.enrollmentRequest seatOrder seats seatBill
  ledger := .filled 2
  key := ⟨"order-42"⟩
  reference := "enrollment-1"

/-- Task 1 has its learner enrolled. -/
def seatEnrolled : System :=
  (seatsProvided.granting (some seatGranted)).update 1 ⟨seatsProvided.store, seatLocks [(0, 1)]⟩
    (.spend seatOrder (.recording 0 seatPaid))

theorem steps_seatEnrolled : ReflTransGen WorkStep seatsProvided seatEnrolled := by
  have hfetch : seatsProvided.locks.fetch seats.uuid = (0, seatLocks []) := rfl
  have hfree : seatsProvided.Fresh (.filled 4) := (fresh_start _).update rfl rfl List.not_mem_nil
  exact (steps_checking rfl rfl hfetch rfl).trans
    (steps_recording "10" ⟨.filled 4, ⟨5, 0⟩⟩ "enrollment-1" ⟨6, 0⟩ rfl rfl rfl rfl (by decide) hfree)

/-- What the tasks share once the seat is sold. -/
def seatShared (holders : List (Nat × Nat)) : Shared :=
  ⟨(seatsProvided.store.append seatPaid).2, seatLocks holders⟩

/-- Task 1 has recorded its transaction. -/
def seatSold : System :=
  (seatsProvided.granting (some seatGranted)).update 1 (seatShared [])
    (.spend seatOrder (.finished (.ok (.created seatPaid))))

theorem steps_seatSold : ReflTransGen WorkStep seatsProvided seatSold :=
  steps_seatEnrolled.tail
    (workStep_update 1 (.proceed default) (.finished (.ok (.created seatPaid))) nofun rfl)

/-- Another seat, for learner 8. -/
def secondOrder : SpendCommand := { seatOrder with learner := 8, key := some ⟨"order-43"⟩ }

/-- What task 2 asks for the enrollment with. -/
def secondBill : Transaction :=
  SpendRun.pendingTransaction secondOrder seats ⟨"order-43"⟩ (-1) ⟨.filled 5, ⟨7, 0⟩⟩

/-- What task 2 records when the enrollment is granted. -/
def secondPaid : Transaction :=
  { secondBill with
    state := .committed, modified := ⟨8, 0⟩, referenceId := some "enrollment-2",
    referenceType := some enrollmentReferenceType }

/-- The enrollment of learner 8. -/
def secondGranted : Fulfillment where
  task := 2
  request := SpendRun.enrollmentRequest secondOrder seats secondBill
  ledger := .filled 2
  key := ⟨"order-43"⟩
  reference := "enrollment-2"

/-- Task 2 has its learner enrolled. -/
def secondEnrolled : System :=
  (seatSold.granting (some secondGranted)).update 2 (seatShared [(0, 2)])
    (.spend secondOrder (.recording 0 secondPaid))

/-- Task 2 has recorded its transaction, too. -/
def seatsSold : System :=
  (seatSold.granting (some secondGranted)).update 2
    ⟨(seatSold.store.append secondPaid).2, seatLocks []⟩
    (.spend secondOrder (.finished (.ok (.created secondPaid))))

/-- When the second seat is returned, and under what identifier. -/
def returnStamp : Stamp := ⟨.filled 6, ⟨9, 0⟩⟩

/-- Task 3 has reversed what task 2 recorded. -/
def seatReturned : System :=
  seatsSold.update 3 ⟨(seatsSold.store.reverse (.filled 5) returnStamp).2, seatLocks []⟩
    (.reverse (.filled 5) (.finished (.ok (Store.withReversal secondPaid returnStamp))))

theorem steps_seatsSold : ReflTransGen WorkStep seatSold seatsSold := by
  have hfetch : seatSold.locks.fetch seats.uuid = (0, seatLocks []) := rfl
  have hprovided : seatsProvided.Fresh (.filled 5) := (fresh_start _).update rfl rfl List.not_mem_nil
  have hfree : seatSold.Fresh (.filled 5) := (hprovided.granting _).update rfl rfl List.not_mem_nil
  have henrolled : ReflTransGen WorkStep seatSold secondEnrolled :=
    (steps_checking rfl rfl hfetch rfl).trans
      (steps_recording "10" ⟨.filled 5, ⟨7, 0⟩⟩ "enrollment-2" ⟨8, 0⟩ rfl rfl rfl rfl (by decide) hfree)
  exact henrolled.tail
    (workStep_update 2 (.proceed default) (.finished (.ok (.created secondPaid))) nofun rfl)

theorem steps_seatReturned : ReflTransGen WorkStep seatsSold seatReturned := by
  have hfetch : seatsSold.locks.fetch seats.uuid = (0, seatLocks []) := rfl
  have hstored : seatsSold.store.transaction? (.filled 5) = some secondPaid := rfl
  exact steps_reverse rfl returnStamp hstored rfl hfetch rfl

theorem reachable_seatReturned : ReflTransGen Step start seatReturned :=
  steps_of_provided steps_seatsProvided
    ((steps_seatSold.trans steps_seatsSold).trans steps_seatReturned)

theorem balance_not_negative_seatReturned :
    ReflTransGen Step start seatReturned ∧
      seatReturned.store.transaction? (.filled 4) = some seatPaid ∧
      seatReturned.store.transaction? (.filled 5) = some (Store.withReversal secondPaid returnStamp) ∧
      seatReturned.store.balance (.filled 2) = .ok 2 ∧
      ∃ b, seatReturned.store.balance (.filled 2) = .ok b ∧ 0 ≤ b :=
  ⟨reachable_seatReturned, rfl, rfl, rfl, balance_not_negative reachable_seatReturned rfl⟩

end System
end Bursar
