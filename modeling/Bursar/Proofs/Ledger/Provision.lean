import Bursar.Proofs.Ledger.History

/-!
# The course of a provision

Providing a subsidy changes the store twice, and others may change it in between.
`ProvisionRun.step` is one undivided step of a provision: the request is checked
and identifiers are drawn, the subsidy is entered, its ledger is opened. What a step
does is one of the five moves (`ProvisionRun.move_of_step`).
-/

namespace Bursar

/-- Where a provision stands: what it does next. -/
inductive ProvisionRun where
  /-- Check the request and draw identifiers. -/
  | arrived (new : NewSubsidy)
  /-- Enter the subsidy. -/
  | registering (x : Subsidy) (balance : Int)
  /-- Open its ledger. -/
  | opening (x : Subsidy) (balance : Int)
  | finished (result : Except LedgerError Subsidy)

namespace ProvisionRun

/-- One step of a provision; `none` if it is over. -/
def step (s : Store) : ProvisionRun → ProvisionStamp → Option (Store × ProvisionRun)
  | .arrived new, stamp =>
    match Store.checkNew new with
    | .error e => some (s, .finished (.error e))
    | .ok () => some (s, .registering (Store.subsidyOf new stamp) new.startingBalance)
  | .registering x balance, _ =>
    match s.register x with
    | (.error e, s) => some (s, .finished (.error e))
    | (.ok (), s) => some (s, .opening x balance)
  | .opening x balance, stamp =>
    match s.openLedger x.uuid balance stamp.deposit with
    | (.error e, s) => some (s, .finished (.error e))
    | (.ok _, s) => some (s, .finished (.ok x))
  | .finished _, _ => none

/-- The identifiers that a step draws and that must be new. -/
def draws : ProvisionRun → ProvisionStamp → List Uuid
  | .arrived _, stamp => [stamp.ledger]
  | .opening _ _, stamp => [stamp.deposit.uuid]
  | _, _ => []

/-- What a provision does in one step. -/
inductive Move (s : Store) (stamp : ProvisionStamp) : ProvisionRun → Store → ProvisionRun → Prop
  /-- The request contradicts a rule. -/
  | declined {new e} : Move s stamp (.arrived new) s (.finished (.error e))
  | accepted {new} (hb : 0 ≤ new.startingBalance) :
      Move s stamp (.arrived new) s (.registering (Store.subsidyOf new stamp) new.startingBalance)
  /-- The identifier of the subsidy is taken. -/
  | refused {x balance e} : Move s stamp (.registering x balance) s (.finished (.error e))
  | entered {x balance} (hx : s.subsidies.get? x.uuid = none) :
      Move s stamp (.registering x balance) (s.entered x) (.opening x balance)
  | opened {x balance result} :
      Move s stamp (.opening x balance) (s.openLedger x.uuid balance stamp.deposit).2
        (.finished result)

theorem checkNew_eq_ok {new : NewSubsidy} (h : Store.checkNew new = .ok ()) :
    0 ≤ new.startingBalance := by
  obtain ⟨_, hbalance, -⟩ := bind_eq_ok_iff.mp h
  exact Store.checkStartingBalance_eq_ok_iff.mp hbalance

theorem move_of_step {s s' : Store} {stamp : ProvisionStamp} {run run' : ProvisionRun}
    (h : run.step s stamp = some (s', run')) : Move s stamp run s' run' := by
  cases run with
  | arrived new =>
    cases hc : Store.checkNew new with
    | error e =>
      obtain ⟨rfl, rfl⟩ := by simpa [step, hc] using h
      exact .declined
    | ok _ =>
      obtain ⟨rfl, rfl⟩ := by simpa [step, hc] using h
      exact .accepted (checkNew_eq_ok hc)
  | registering x balance =>
    rcases s.register_cases x with ⟨e, he⟩ | ⟨hx, he⟩
    · obtain ⟨rfl, rfl⟩ := by simpa [step, he] using h
      exact .refused
    · obtain ⟨rfl, rfl⟩ := by simpa [step, he] using h
      exact .entered hx
  | opening x balance =>
    have hs : s' = (s.openLedger x.uuid balance stamp.deposit).2 ∧ ∃ r, run' = .finished r := by
      cases ho : s.openLedger x.uuid balance stamp.deposit with
      | mk result s₁ =>
        cases result with
        | error e =>
          obtain ⟨rfl, rfl⟩ := by simpa [step, ho] using h
          exact ⟨rfl, _, rfl⟩
        | ok t =>
          obtain ⟨rfl, rfl⟩ := by simpa [step, ho] using h
          exact ⟨rfl, _, rfl⟩
    obtain ⟨rfl, r, rfl⟩ := hs
    exact .opened
  | finished r => cases h

end ProvisionRun
end Bursar
