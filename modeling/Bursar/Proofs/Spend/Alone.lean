import Bursar.Proofs.Ledger.Posting
import Bursar.Proofs.Spend.Moves
import Bursar.Service.World

/-!
# A task alone

A step of a spend or of a reversal leaves the store alone, or it is the one step
that writes, and then the task is over (`SpendRun.Move.outcome`,
`ReverseRun.step_outcome`). What a task posted is read off what it came to.

From this follows what a whole task does when nobody gets in its way: a spend out
of a subsidy appends one transaction to the subsidy's ledger and comes to it, or
leaves the store as it found it (`World.spend_spends`); a reversal reverses its
transaction and comes to it, or fails and leaves the store as it found it
(`World.reverse_reverses`). Both are invariants of the loop that takes a task from
its first step to its last (`World.follow_invariant`).
-/

namespace Bursar

/-! ## What was posted -/

/-- What a spend that came to the result has posted. -/
def spendPosting? : Except SpendError SpendOutcome → Option Posting
  | .ok (.created t) => some ⟨t.ledgerUuid, t.quantity⟩
  | _ => none

/-- What a reversal that came to the result has posted. -/
def reversePosting? : Except SpendError Transaction → Option Posting
  | .ok t => some ⟨t.ledgerUuid, -t.quantity⟩
  | .error _ => none

/-- What a spend has posted so far. -/
def SpendRun.posting? : SpendRun → Option Posting
  | .finished result => spendPosting? result
  | _ => none

/-- What a reversal has posted so far. -/
def ReverseRun.posting? : ReverseRun → Option Posting
  | .finished result => reversePosting? result
  | _ => none

/-- **A step of a spend** leaves the store alone and posts nothing, or appends the
transaction that the spend then comes to. -/
theorem SpendRun.Move.outcome {p : Nat} {s s' : Shared} {run run' : SpendRun} {input : StepInput}
    (hm : Move p s run input s' run') :
    (s'.store = s.store ∧ run'.posting? = none) ∨
      ∃ lock t, run = .recording lock t ∧ s.store.append t = (.ok t, s'.store) ∧
        run' = .finished (.ok (.created t)) := by
  cases hm with
  | lost | located | fetched | acquired | replayed | missed | priced | covered | fulfilled
  | unsettled | gaveUp => exact .inl ⟨rfl, rfl⟩
  | refused ha => exact .inl ⟨Store.same_of_append_error ha, rfl⟩
  | recorded ha =>
    obtain ⟨rfl, -⟩ := Store.recorded_of_append ha
    exact .inr ⟨_, _, rfl, ha, rfl⟩

/-- **A step of a reversal** leaves the store alone and posts nothing, or reverses the
transaction that the task then comes to. -/
theorem ReverseRun.step_outcome {p : Nat} {s s' : Shared} {run run' : ReverseRun} {stamp : Stamp}
    (h : run.step p s stamp = some (s', run')) :
    (s'.store = s.store ∧ run'.posting? = none) ∨
      ∃ u lock t, run = .reversing u lock ∧ s.store.reverse u stamp = (.ok t, s'.store) ∧
        run' = .finished (.ok t) := by
  by_cases hrun : ∃ u lock, run = .reversing u lock
  · obtain ⟨u, lock, rfl⟩ := hrun
    cases hr : s.store.reverse u stamp with
    | mk result store =>
      cases result with
      | error e =>
        simp only [step, hr] at h
        obtain ⟨rfl, rfl⟩ := Prod.mk.inj (Option.some.inj h)
        exact .inl ⟨Store.same_of_reverse_error hr, rfl⟩
      | ok t =>
        simp only [step, hr] at h
        obtain ⟨rfl, rfl⟩ := Prod.mk.inj (Option.some.inj h)
        exact .inr ⟨u, lock, t, rfl, hr, rfl⟩
  · cases move_of_step h with
    | lost | found | located | fetched | acquired => exact .inl ⟨rfl, rfl⟩
    | reversed => exact absurd ⟨_, _, rfl⟩ hrun

/-! ## What a task does to the store -/

namespace Store

/-- What a spend out of the subsidy `x` makes of the store, and comes to. -/
inductive Spends (s : Store) (x : Subsidy) : Store → Except SpendError SpendOutcome → Prop
  | kept {result} (h : spendPosting? result = none) : Spends s x s result
  | appended {t s'} (h : s.append t = (.ok t, s')) (hx : t.ledgerUuid = x.ledgerUuid)
      (hr : t.reversal = none) : Spends s x s' (.ok (.created t))

/-- What a reversal of the transaction `u` makes of the store, and comes to. -/
inductive Reverses (s : Store) (u : Uuid) : Store → Except SpendError Transaction → Prop
  | kept {e} : Reverses s u s (.error e)
  | reversed {t stamp s'} (h : s.reverse u stamp = (.ok t, s')) : Reverses s u s' (.ok t)

theorem Spends.of_same_store {s s' : Store} {x : Subsidy} {result : Except SpendError SpendOutcome}
    (hs : s' = s) (hp : spendPosting? result = none) : s.Spends x s' result := by
  subst hs
  exact .kept hp

theorem Reverses.of_same_store {s s' : Store} {u : Uuid} {e : SpendError} (hs : s' = s) :
    s.Reverses u s' (.error e) := by
  subst hs
  exact .kept

end Store

/-- What is true of a spend for `c` out of `x` at each station when it found the store `s₀`
and the store is `s` now. -/
def SpendRun.Alone (s₀ : Store) (c : SpendCommand) (x : Subsidy) (s : Store) : SpendRun → Prop
  | .arrived k => s = s₀ ∧ k = c ∧ s₀.subsidy? c.subsidy = some x
  | .located k y | .waiting k y _ | .checking k y _ | .pricing k y _ _ | .weighing k y _ _ _ =>
    s = s₀ ∧ k = c ∧ y = x
  | .enrolling k y _ t =>
    s = s₀ ∧ k = c ∧ y = x ∧ t.ledgerUuid = x.ledgerUuid ∧ t.reversal = none
  | .recording _ t => s = s₀ ∧ t.ledgerUuid = x.ledgerUuid ∧ t.reversal = none
  | .finished result => s₀.Spends x s result

/-- What is true of a reversal of `u` at each station when it found the store `s₀` and the
store is `s` now. -/
def ReverseRun.Alone (s₀ : Store) (u : Uuid) (s : Store) : ReverseRun → Prop
  | .arrived v | .found v _ | .located v _ | .waiting v _ | .reversing v _ => s = s₀ ∧ v = u
  | .finished result => s₀.Reverses u s result

namespace SpendRun

variable {p : Nat} {s s' : Shared} {run run' : SpendRun} {input : StepInput}
variable {s₀ : Store} {c : SpendCommand} {x : Subsidy}

theorem eq_finished {result : Except SpendError SpendOutcome} (h : run.result? = some result) :
    run = .finished result := by
  cases run with
  | finished r => rw [Option.some.inj h]
  | arrived | located | waiting | checking | pricing | weighing | enrolling | recording => cases h

/-- Until a spend is over, the store is what it found. -/
theorem Alone.store_eq {s : Store} (h : run.Alone s₀ c x s) (hrun : run.result? = none) :
    s = s₀ := by
  cases run with
  | finished => cases hrun
  | arrived | located | waiting | checking | pricing | weighing | enrolling | recording => exact h.1

theorem Move.alone (hm : Move p s run input s' run') (h : run.Alone s₀ c x s.store) :
    run'.Alone s₀ c x s'.store := by
  rcases hm.outcome with ⟨hs, hp⟩ | ⟨lock, t, rfl, ha, rfl⟩
  · cases hm with
    | lost | replayed | unsettled | recorded | refused =>
      exact Store.Spends.of_same_store (hs.trans h.1) hp
    | gaveUp hl =>
      refine Store.Spends.of_same_store (hs.trans (h.store_eq ?_)) hp
      cases run with
      | finished => cases hl
      | arrived | located | waiting | checking | pricing | weighing | enrolling | recording => rfl
    | located hx =>
      obtain ⟨rfl, rfl, hx'⟩ := h
      exact ⟨rfl, rfl, Option.some.inj (hx.symm.trans hx')⟩
    | fetched | acquired | missed | priced => exact h
    | covered =>
      obtain ⟨hs₀, hc, rfl⟩ := h
      exact ⟨hs₀, hc, rfl, rfl, rfl⟩
    | fulfilled ht =>
      obtain ⟨-, rfl⟩ := Transaction.commit_eq_ok ht
      obtain ⟨hs₀, -, -, hledger, hr⟩ := h
      exact ⟨hs₀, hledger, hr⟩
  · obtain ⟨rfl, hledger, hr⟩ := h
    exact .appended ha hledger hr

end SpendRun

namespace ReverseRun

variable {p : Nat} {s s' : Shared} {run run' : ReverseRun} {stamp : Stamp} {s₀ : Store} {u : Uuid}

theorem eq_finished {result : Except SpendError Transaction} (h : run.result? = some result) :
    run = .finished result := by
  cases run with
  | finished r => rw [Option.some.inj h]
  | arrived | found | located | waiting | reversing => cases h

/-- Until a reversal is over, the store is what it found. -/
theorem Alone.store_eq {s : Store} (h : run.Alone s₀ u s) (hrun : run.result? = none) : s = s₀ := by
  cases run with
  | finished => cases hrun
  | arrived | found | located | waiting | reversing => exact h.1

theorem step_alone (hstep : run.step p s stamp = some (s', run')) (h : run.Alone s₀ u s.store) :
    run'.Alone s₀ u s'.store := by
  rcases step_outcome hstep with ⟨hs, hp⟩ | ⟨v, lock, t, rfl, ha, rfl⟩
  · cases move_of_step hstep with
    | found | located | fetched | acquired => exact h
    | lost =>
      refine Store.Reverses.of_same_store (h.store_eq ?_)
      cases run with
      | finished => cases hstep
      | arrived | found | located | waiting | reversing => rfl
    | @reversed _ _ _ result =>
      cases result with
      | error e => exact Store.Reverses.of_same_store (hs.trans h.1)
      | ok t => cases hp
  · obtain ⟨rfl, rfl⟩ := h
    exact .reversed ha

end ReverseRun

/-! ## From the first step to the last -/

namespace World

variable {σ : Type} {s : Surroundings σ} {w : World σ}

/-- What holds of a run before a step and after it gives what holds of what the task comes
to, if it does so where the task is over and where it cannot go on. -/
theorem follow_invariant {ρ α : Type} {over? : ρ → Option α} {stuck : α}
    {advance : ρ → World σ → Option ρ × World σ} {I : World σ → ρ → Prop} {J : World σ → α → Prop}
    (hstep : ∀ {w run run'}, I w run → (advance run w).1 = some run' → I (advance run w).2 run')
    (hover : ∀ {w run result}, I w run → over? run = some result → J w result)
    (hstuck : ∀ {w run}, I w run → over? run = none →
      J w stuck ∧ ((advance run w).1 = none → J (advance run w).2 stuck))
    (steps : Nat) (run : ρ) (h : I w run) :
    J (follow over? stuck advance steps run w).2 (follow over? stuck advance steps run w).1 := by
  induction steps generalizing run w with
  | zero =>
    cases ho : over? run with
    | none => simpa [follow, ho] using (hstuck h ho).1
    | some result => simpa [follow, ho] using hover h ho
  | succ steps ih =>
    cases ho : over? run with
    | some result => simpa [follow, ho] using hover h ho
    | none =>
      cases ha : advance run w with
      | mk next w' =>
        cases next with
        | some run' =>
          have hnext := hstep h (congrArg Prod.fst ha)
          rw [ha] at hnext
          simpa [follow, ho, ha] using ih run' hnext
        | none =>
          have hstop := (hstuck h ho).2 (congrArg Prod.fst ha)
          rw [ha] at hstop
          simpa [follow, ho, ha] using hstop

theorem spendStep_eq_some {run run' : SpendRun} (h : (w.spendStep s run).1 = some run') :
    ∃ shared, run.step 0 w.shared (spendInput s run w.outside).1 = some (shared, run') ∧
      w.spendStep s run = (some run', { w with shared, outside := (spendInput s run w.outside).2 }) := by
  cases hstep : run.step 0 w.shared (spendInput s run w.outside).1 with
  | none => simp [spendStep, hstep] at h
  | some next =>
    obtain ⟨shared, run''⟩ := next
    obtain rfl : run'' = run' := by simpa [spendStep, hstep] using h
    exact ⟨shared, rfl, by simp [spendStep, hstep]⟩

theorem spendStep_eq_none {run : SpendRun} (h : (w.spendStep s run).1 = none) :
    w.spendStep s run = (none, { w with outside := (spendInput s run w.outside).2 }) := by
  cases hstep : run.step 0 w.shared (spendInput s run w.outside).1 with
  | none => simp [spendStep, hstep]
  | some next => simp [spendStep, hstep] at h

theorem reverseStep_eq_some {run run' : ReverseRun} (h : (w.reverseStep s run).1 = some run') :
    ∃ shared, run.step 0 w.shared (s.stamp w.outside).1 = some (shared, run') ∧
      w.reverseStep s run = (some run', { w with shared, outside := (s.stamp w.outside).2 }) := by
  cases hstep : run.step 0 w.shared (s.stamp w.outside).1 with
  | none => simp [reverseStep, hstep] at h
  | some next =>
    obtain ⟨shared, run''⟩ := next
    obtain rfl : run'' = run' := by simpa [reverseStep, hstep] using h
    exact ⟨shared, rfl, by simp [reverseStep, hstep]⟩

theorem reverseStep_eq_none {run : ReverseRun} (h : (w.reverseStep s run).1 = none) :
    w.reverseStep s run = (none, { w with outside := (s.stamp w.outside).2 }) := by
  cases hstep : run.step 0 w.shared (s.stamp w.outside).1 with
  | none => simp [reverseStep, hstep]
  | some next => simp [reverseStep, hstep] at h

theorem alone_spendStep {s₀ : Store} {c : SpendCommand} {x : Subsidy} {run run' : SpendRun}
    (h : run.Alone s₀ c x w.store) (hnext : (w.spendStep s run).1 = some run') :
    run'.Alone s₀ c x (w.spendStep s run).2.store := by
  obtain ⟨shared, hstep, hw⟩ := spendStep_eq_some hnext
  rw [hw]
  exact (SpendRun.move_of_step hstep).alone h

/-- **A spend alone** appends one transaction to the ledger of its subsidy and comes to it,
or leaves the store as it found it. -/
theorem spend_spends {c : SpendCommand} {x : Subsidy} (hx : w.store.subsidy? c.subsidy = some x) :
    w.store.Spends x (w.spend s c).2.store (w.spend s c).1 := by
  have hstart : (SpendRun.arrived c).Alone w.store c x w.store := ⟨rfl, rfl, hx⟩
  refine follow_invariant (I := fun w' run => SpendRun.Alone w.store c x w'.store run)
    (J := fun w' result => w.store.Spends x w'.store result) ?_ ?_ ?_ 8 (SpendRun.arrived c) hstart
  · exact fun h hnext => alone_spendStep h hnext
  · intro w' run result h ho
    obtain rfl := SpendRun.eq_finished ho
    exact h
  · intro w' run h ho
    have hs := h.store_eq ho
    refine ⟨.of_same_store hs rfl, fun hnone => ?_⟩
    rw [spendStep_eq_none hnone]
    exact .of_same_store hs rfl

/-- Without a subsidy nothing is spent. -/
theorem spend_of_no_subsidy {c : SpendCommand} (hx : w.store.subsidy? c.subsidy = none) :
    (w.spend s c).2.store = w.store ∧
      (w.spend s c).1 = .error (.ledger (Store.noSubsidy c.subsidy)) := by
  have hx' : w.shared.store.subsidy? c.subsidy = none := hx
  simp [spend, follow, spendStep, spendInput, SpendRun.step, SpendRun.result?, hx', store]

/-- **A reversal alone** reverses its transaction and comes to it, or fails and leaves the
store as it found it. -/
theorem reverse_reverses (s : Surroundings σ) (u : Uuid) (w : World σ) :
    w.store.Reverses u (w.reverse s u).2.store (w.reverse s u).1 := by
  have hstart : (ReverseRun.arrived u).Alone w.store u w.store := ⟨rfl, rfl⟩
  refine follow_invariant (I := fun w' run => ReverseRun.Alone w.store u w'.store run)
    (J := fun w' result => w.store.Reverses u w'.store result) ?_ ?_ ?_ 5 (ReverseRun.arrived u) hstart
  · intro w' run run' h hnext
    obtain ⟨shared, hstep, hw⟩ := reverseStep_eq_some hnext
    rw [hw]
    exact ReverseRun.step_alone hstep h
  · intro w' run result h ho
    obtain rfl := ReverseRun.eq_finished ho
    exact h
  · intro w' run h ho
    have hs := h.store_eq ho
    refine ⟨.of_same_store hs, fun hnone => ?_⟩
    rw [reverseStep_eq_none hnone]
    exact .of_same_store hs

end World
end Bursar
