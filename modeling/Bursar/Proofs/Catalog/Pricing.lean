import Bursar.Proofs.Ledger.Debit
import Bursar.Proofs.Spend.Recording
import Bursar.Service.World

/-!
# The price that is told is the price that is paid

The price of a document goes two ways. As part of the metadata it is told to whoever
asks; as text it goes to the spends, which trim it, read it and debit it. Both are
the same number, digit for digit (`Decimal.parse_toString`), and there is one for a
document exactly if there is the other.

From the moment a spend has heard a price on, what it is about to debit does not change
any more (`SpendRun.Move.charges`), whatever happens beside it (`System.run_steps`).
-/

namespace Bursar

open Relation (ReflTransGen)

/-! ## Two ways to a price -/

/-- The metadata of a document has the document's price. -/
theorem ContentMetadata.price_of_ofCatalog {d : CatalogContent} {m : ContentMetadata}
    (h : ContentMetadata.ofCatalog d = .ok m) : d.price = some m.price := by
  unfold ContentMetadata.ofCatalog at h
  cases hp : d.price with
  | none => simp [hp] at h
  | some p =>
    simp only [hp] at h
    obtain rfl := Except.ok.inj h
    rfl

/-- A document has metadata exactly if it has a price. -/
theorem ContentMetadata.exists_ofCatalog_iff (d : CatalogContent) :
    (∃ m, ContentMetadata.ofCatalog d = .ok m) ↔ ∃ p, d.price = some p := by
  constructor
  · rintro ⟨m, hm⟩
    exact ⟨m.price, ContentMetadata.price_of_ofCatalog hm⟩
  · rintro ⟨p, hp⟩
    simp [ContentMetadata.ofCatalog, hp]

theorem CatalogContent.priceText_of_price {d : CatalogContent} {p : Decimal} (h : d.price = some p)
    (contentKey : String) : d.priceText contentKey = .ok p.toString := by
  simp [priceText, h]

/-- A document has a price as text exactly if it has a price. -/
theorem CatalogContent.exists_priceText_iff (d : CatalogContent) (contentKey : String) :
    (∃ text, d.priceText contentKey = .ok text) ↔ ∃ p, d.price = some p := by
  constructor
  · rintro ⟨text, ht⟩
    cases hp : d.price with
    | none => simp [priceText, hp] at ht
    | some p => exact ⟨p, rfl⟩
  · rintro ⟨p, hp⟩
    exact ⟨_, priceText_of_price hp contentKey⟩

namespace SpendRun

/-- **The debit of a written price is the debit of the price.** -/
theorem debitOfText_toString (unit : Denomination) (price : Decimal) :
    debitOfText unit price.toString =
      match unit.debit price with
      | .ok quantity => .ok quantity
      | .error e => .error (.ledger e) := by
  rw [debitOfText, Decimal.trim_toString, Decimal.parse_toString]
  simp only [Denomination.debit_plain]
  cases unit.debit price <;> rfl

/-- A spend that hears the price of a document weighs the debit of that price, or is refused for
the reason that there is no such debit. -/
theorem step_priced_of_price {d : CatalogContent} {price : Decimal} (h : d.price = some price)
    (p : Nat) (s : Shared) (c : SpendCommand) (x : Subsidy) (lock : Nat) (key : IdempotencyKey) :
    SpendRun.step p s (.pricing c x lock key) (.priced (priceOfDocument c.contentKey (.ok d))) =
      some (match x.unit.debit price with
        | .ok quantity => (s, .weighing c x lock key quantity)
        | .error e => finish s lock (.error (.ledger e))) := by
  have htext := CatalogContent.priceText_of_price h c.contentKey
  simp only [step, priceOfDocument, htext, debitOfText_toString]
  cases x.unit.debit price <;> rfl

/-! ## From the price to the transaction -/

/-- The run has heard its price, and debits `quantity` if it debits anything. -/
def Charges (quantity : Int) : SpendRun → Prop
  | .weighing _ _ _ _ q => q = quantity
  | .enrolling _ _ _ t | .recording _ t | .finished (.ok (.created t)) => t.quantity = quantity
  | .finished (.error _) => True
  | _ => False

/-- A spend that is over stays what it is. -/
theorem Move.not_finished {p : Nat} {s s' : Shared} {run' : SpendRun} {input : StepInput}
    {result : Except SpendError SpendOutcome} : ¬ Move p s (.finished result) input s' run' := by
  intro hm
  cases hm with
  | gaveUp hl => cases hl

/-- **A spend keeps to the debit of the price that it heard.** -/
theorem Move.charges {p : Nat} {s s' : Shared} {run run' : SpendRun} {input : StepInput}
    {quantity : Int} (hm : Move p s run input s' run') (h : run.Charges quantity) :
    run'.Charges quantity := by
  cases hm with
  | lost | unsettled | refused | gaveUp => trivial
  | located | fetched | acquired | replayed | missed | priced => exact h.elim
  | covered => exact h
  | fulfilled ht =>
    obtain ⟨-, rfl⟩ := Transaction.commit_eq_ok ht
    exact h
  | recorded ha =>
    obtain ⟨rfl, -⟩ := Store.recorded_of_append ha
    exact h

end SpendRun

namespace System

variable {c d : System} {p : Nat} {cmd : SpendCommand} {run : SpendRun} {quantity : Int}

/-- A step leaves a spend where it is, or is its own next step. -/
theorem spend_of_step (hstep : Step c d) (hw : c.work p = .spend cmd run) :
    d.work p = .spend cmd run ∨ ∃ input run',
      SpendRun.Move p c.shared run input d.shared run' ∧ d.work p = .spend cmd run' := by
  have hother {q : Nat} {shared : Shared} {w : Work} (hq : c.work q ≠ .spend cmd run) :
      (c.update q shared w).work p = .spend cmd run := by
    have hne : p ≠ q := by
      rintro rfl
      exact hq hw
    rw [c.update_work_of_ne hne, hw]
  rcases hstep with hstep | hstep
  · cases hstep with
    | spendArrives cmd' hq | reverseArrives u hq => exact .inl (hother (by simp [hq]))
    | @spend q cmd' run₁ run₂ input shared hq _ h =>
      by_cases hpq : p = q
      · subst hpq
        obtain ⟨rfl, rfl⟩ := Work.spend.inj (hq.symm.trans hw)
        exact .inr ⟨input, run₂, SpendRun.move_of_step h, by simp⟩
      · rw [granting_work, c.update_work_of_ne hpq, hw]
        exact .inl rfl
    | reverse hq _ => exact .inl (hother (by simp [hq]))
  · cases hstep with
    | arrives new hq => exact .inl (hother (by simp [hq]))
    | step hq _ _ => exact .inl (hother (by simp [hq]))

/-- **Whatever happens beside it, a spend keeps to what its own steps keep to.** -/
theorem run_steps {P : SpendRun → Prop}
    (hkept : ∀ {s s' run run' input}, SpendRun.Move p s run input s' run' → P run → P run')
    (hsteps : ReflTransGen Step c d) (hw : c.work p = .spend cmd run) (h : P run) :
    ∃ run', d.work p = .spend cmd run' ∧ P run' := by
  induction hsteps with
  | refl => exact ⟨run, hw, h⟩
  | tail _ hstep ih =>
    obtain ⟨run₁, hw₁, h₁⟩ := ih
    rcases spend_of_step hstep hw₁ with hw₂ | ⟨input, run₂, hm, hw₂⟩
    · exact ⟨run₁, hw₂, h₁⟩
    · exact ⟨run₂, hw₂, hkept hm h₁⟩

/-- A spend that heard its price comes to a transaction over that price, if to any. -/
theorem quantity_of_created (hsteps : ReflTransGen Step c d) (hw : c.work p = .spend cmd run)
    (h : run.Charges quantity) {t : Transaction}
    (ht : d.work p = .spend cmd (.finished (.ok (.created t)))) : t.quantity = quantity := by
  obtain ⟨run', hw', hcharges⟩ := run_steps SpendRun.Move.charges hsteps hw h
  obtain ⟨-, rfl⟩ := Work.spend.inj (hw'.symm.trans ht)
  exact hcharges

/-- A spend that is over stays over, with the same result. -/
theorem finished_steps (hsteps : ReflTransGen Step c d) {result : Except SpendError SpendOutcome}
    (hw : c.work p = .spend cmd (.finished result)) : d.work p = .spend cmd (.finished result) := by
  obtain ⟨run', hw', rfl⟩ := run_steps (P := fun run => run = .finished result)
    (fun hm he => absurd (he ▸ hm) SpendRun.Move.not_finished) hsteps hw rfl
  exact hw'

end System

/-- **The price that is told is the price that is paid.** A document has metadata exactly if
it has a price for the spends. The text of that price, trimmed and read, is the very
number in the metadata, its scale included; only a zero loses a minus sign. So a spend
that hears it takes a step: it weighs the debit of the price in the metadata, or is refused
for want of one, and the transaction that it comes to, whatever happens beside it, has that
quantity. -/
theorem quoted_price_is_charged (d : CatalogContent) (contentKey : String) :
    ((∃ m, ContentMetadata.ofCatalog d = .ok m) ↔ ∃ text, d.priceText contentKey = .ok text) ∧
      ∀ {m : ContentMetadata}, ContentMetadata.ofCatalog d = .ok m →
        (∃ text price, d.priceText contentKey = .ok text ∧
          Decimal.parse (Text.trim text) = .ok price ∧ price.magnitude = m.price.magnitude ∧
          price.scale = m.price.scale ∧ (m.price.IsPlain → price = m.price)) ∧
        ∀ (p : Nat) (cmd c : SpendCommand) (x : Subsidy) (lock : Nat) (key : IdempotencyKey)
          (before : System), ∃ shared run,
          SpendRun.step p before.shared (.pricing c x lock key)
              (.priced (priceOfDocument c.contentKey (.ok d))) = some (shared, run) ∧
          (shared, run) = (match x.unit.debit m.price with
            | .ok quantity => (before.shared, .weighing c x lock key quantity)
            | .error e => SpendRun.finish before.shared lock (.error (.ledger e))) ∧
          ∀ {after : System} {t : Transaction},
            ReflTransGen Step (before.update p shared (.spend cmd run)) after →
            after.work p = .spend cmd (.finished (.ok (.created t))) →
            x.unit.debit m.price = .ok t.quantity := by
  refine ⟨?_, ?_⟩
  · rw [ContentMetadata.exists_ofCatalog_iff, CatalogContent.exists_priceText_iff]
  · intro m hm
    have hprice := ContentMetadata.price_of_ofCatalog hm
    refine ⟨⟨_, m.price.plain, CatalogContent.priceText_of_price hprice contentKey, ?_, rfl, rfl,
      Decimal.plain_of_isPlain⟩, ?_⟩
    · rw [Decimal.trim_toString, Decimal.parse_toString]
    · intro p cmd c x lock key before
      have hstep := SpendRun.step_priced_of_price hprice p before.shared c x lock key
      refine ⟨_, _, hstep, rfl, fun {after t} hsteps hw => ?_⟩
      cases hdebit : x.unit.debit m.price with
      | ok quantity =>
        simp only [hdebit] at hsteps
        rw [System.quantity_of_created hsteps (before.update_work_self p ..) rfl hw]
      | error e =>
        -- a spend that is refused does not come to a transaction any more
        simp only [hdebit] at hsteps
        have hrefused := System.finished_steps hsteps (before.update_work_self p ..)
        cases hrefused.symm.trans hw

/-! ### The longest price -/

/-- All 96 bits of the magnitude are set, and all decimals used. -/
def Decimal.longest : Decimal := ⟨false, 79228162514264337593543950335, 28, by decide, by decide⟩

/-- Content at the longest price. -/
def longestPriced : CatalogContent where
  key := "course-1"
  uuid := .filled 9
  contentType := none
  entitlements := [⟨some "verified", .longest, none, none⟩]
  productSource := none

namespace System

/-- Ten dollars instead of the seats. -/
def tenDollars : NewSubsidy := { Store.threeSeats with unit := .usdCents, startingBalance := 1000 }

/-- The subsidy that holds them. -/
def dollars : Subsidy := Store.subsidyOf tenDollars Store.seatStamp

/-- Nothing is spent yet, and the lock of the subsidy is held by `holders`. -/
def dollarsShared (holders : List (Nat × Nat)) : Shared :=
  ⟨(Store.empty.createSubsidy tenDollars Store.seatStamp).2, seatLocks holders⟩

/-- What task 1 asks for the enrollment with. -/
def dollarsBill : Transaction :=
  SpendRun.pendingTransaction seatOrder dollars ⟨"order-42"⟩ (-792) ⟨.filled 4, ⟨5, 0⟩⟩

/-- What task 1 records. -/
def dollarsPaid : Transaction :=
  { dollarsBill with
    state := .committed, modified := ⟨6, 0⟩, referenceId := some "enrollment-1",
    referenceType := some enrollmentReferenceType }

/-- Task 1 has heard the price. -/
def dollarsWeighed : System :=
  start.update 1 (dollarsShared [(0, 1)])
    (.spend seatOrder (.weighing seatOrder dollars 0 ⟨"order-42"⟩ (-792)))

/-- Task 1 has its learner enrolled. -/
def dollarsEnrolled : System :=
  (start.granting (SpendRun.fulfillment? 1 (.enrolling seatOrder dollars 0 dollarsBill)
    (.enrolled (.ok "enrollment-1") ⟨6, 0⟩))).update 1 (dollarsShared [(0, 1)])
      (.spend seatOrder (.recording 0 dollarsPaid))

theorem steps_dollarsWeighed :
    ∃ c, ReflTransGen Step dollarsWeighed c ∧
      c.work 1 = .spend seatOrder (.finished (.ok (.created dollarsPaid))) := by
  have hfree : start.Fresh (.filled 4) := fresh_start _
  have henrolling : ReflTransGen WorkStep dollarsWeighed _ := .single <|
    workStep_update 1 (.proceed ⟨.filled 4, ⟨5, 0⟩⟩) (.enrolling seatOrder dollars 0 dollarsBill)
      (fun u hu => List.mem_singleton.mp hu ▸ hfree.update rfl rfl List.not_mem_nil) rfl
  have henrolled : ReflTransGen WorkStep dollarsWeighed dollarsEnrolled := henrolling.tail
    (workStep_update 1 (.enrolled (.ok "enrollment-1") ⟨6, 0⟩) (.recording 0 dollarsPaid) nofun rfl)
  have hcreated := henrolled.tail
    (workStep_update 1 (.proceed default) (.finished (.ok (.created dollarsPaid))) nofun rfl)
  exact ⟨_, ReflTransGen.mono (fun _ _ => .inl) _ _ hcreated, by simp⟩

end System

theorem quoted_price_is_charged_longestPriced :
    longestPriced.priceText "course-1" = .ok "7.9228162514264337593543950335" ∧
      Decimal.parse (Text.trim "7.9228162514264337593543950335") = .ok .longest ∧
      System.dollars.unit.debit .longest = .ok System.dollarsPaid.quantity := by
  obtain ⟨-, hpriced⟩ := quoted_price_is_charged longestPriced "course-1"
  obtain ⟨⟨text, price, htext, hread, -, -, hplain⟩, hcharged⟩ :=
    hpriced (m := ⟨.filled 9, "course-1", ContentMetadata.ownSource, .longest⟩) rfl
  have hwritten : longestPriced.priceText "course-1" = .ok "7.9228162514264337593543950335" := by
    decide +kernel
  have hdebit : System.dollars.unit.debit .longest = .ok (-792) := by decide +kernel
  obtain rfl := Except.ok.inj (htext.symm.trans hwritten)
  refine ⟨hwritten, ?_, ?_⟩
  · rw [hread, hplain (fun _ => rfl)]
  · obtain ⟨c, hsteps, hcreated⟩ := System.steps_dollarsWeighed
    obtain ⟨shared, run, -, hrun, hpaid⟩ := hcharged 1 System.seatOrder System.seatOrder System.dollars 0
      ⟨"order-42"⟩ { System.start with shared := System.dollarsShared [(0, 1)] }
    rw [hdebit] at hrun
    obtain ⟨rfl, rfl⟩ := Prod.mk.inj hrun
    exact hpaid hsteps hcreated

end Bursar
