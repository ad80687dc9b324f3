import Bursar.Proofs.Spend.Alone

/-!
# Two spends that cannot be told apart

A spend alone reads its subsidy, the subsidy's ledger, the transactions on it and the
keys that are live there, and nothing else of the store. So in two stores that have
the same ledger there (`Store.SameLedger`), whatever else they hold, a command goes
through the same stations, asks the collaborators for the same, and comes to the same
(`World.spend_twin`). Only the number of the lock may be another one, which is told to
nobody (`SpendRun.Alike`).
-/

namespace Bursar

/-! ## One ledger in two stores -/

namespace Store

/-- The ledger is the same in `s'` as in `s`: its entry, the transactions on it, and the keys
that are live there. -/
structure SameLedger (s s' : Store) (ledger : Uuid) : Prop where
  entry : s'.ledgers.get? ledger = s.ledgers.get? ledger
  transactions : ∀ {u t}, t.ledgerUuid = ledger →
    (s'.transactions.get? u = some t ↔ s.transactions.get? u = some t)
  liveKeys : ∀ key, s'.liveKeys.get? (ledger, key) = s.liveKeys.get? (ledger, key)

namespace SameLedger

variable {s s' : Store} {ledger : Uuid}

theorem findByKey_eq (h : s.SameLedger s' ledger) (hs : s.Coherent) (key : IdempotencyKey) :
    s'.findByKey ledger key = s.findByKey ledger key := by
  unfold findByKey
  rw [h.liveKeys]
  cases hk : s.liveKeys.get? (ledger, key) with
  | none => rfl
  | some u =>
    -- what holds the key is on the ledger
    obtain ⟨t, ht, hl, -⟩ := hs.liveKeys_iff.mp hk
    rw [Option.bind_some, Option.bind_some, ht]
    exact (h.transactions hl).mpr ht

theorem balance_eq (h : s.SameLedger s' ledger) (hs : s.Coherent) :
    s'.balance ledger = s.balance ledger := by
  unfold balance
  rw [h.entry]
  cases hl : s.ledgers.get? ledger with
  | none => rfl
  | some l =>
    have hlisted : l.transactions.filterMap s'.transactions.get? =
        l.transactions.filterMap s.transactions.get? := by
      refine List.filterMap_congr fun u hu => ?_
      rw [hs.ledger_list hl] at hu
      have hon := (List.mem_filter.mp hu).2
      unfold isOn at hon
      cases ht : s.transactions.get? u with
      | none => simp [ht] at hon
      | some t =>
        have htl : t.ledgerUuid = ledger := by simpa [ht] using hon
        exact (h.transactions htl).mpr ht
    simp only [hlisted]

/-- Whether a transaction is taken, and why not, depends on its ledger alone. -/
theorem append_eq (h : s.SameLedger s' ledger) (hs : s.Coherent) {t : Transaction}
    (ht : t.ledgerUuid = ledger) : (s'.append t).1 = (s.append t).1 := by
  subst ht
  have hfits : s'.checkFits t = s.checkFits t := by
    simp only [checkFits, checkSufficient, h.entry, h.balance_eq hs]
  have hrecord : (s'.record t).1 = (s.record t).1 := by
    unfold record Table.contains
    rw [h.liveKeys, h.entry]
    split
    · rfl
    · split <;> rfl
  unfold append
  rw [hfits]
  split
  · rfl
  · split
    · rfl
    · exact hrecord

/-! ### What is done to other ledgers -/

theorem refl (s : Store) (ledger : Uuid) : s.SameLedger s ledger :=
  ⟨rfl, fun _ => Iff.rfl, fun _ => rfl⟩

theorem entered (h : s.SameLedger s' ledger) {x : Subsidy} (hx : x.ledgerUuid ≠ ledger) :
    s.SameLedger (s'.entered x) ledger :=
  ⟨(Table.get?_insert_of_ne _ (Ne.symm hx) _).trans h.entry, h.transactions, h.liveKeys⟩

theorem marked (h : s.SameLedger s' ledger) {uuid : Uuid} (hu : uuid ≠ ledger) (l : Ledger) :
    s.SameLedger (s'.marked uuid l) ledger :=
  ⟨(Table.get?_insert_of_ne _ (Ne.symm hu) _).trans h.entry, h.transactions, h.liveKeys⟩

theorem recorded (h : s.SameLedger s' ledger) {t : Transaction} (ht : t.ledgerUuid ≠ ledger)
    (fresh : s'.transactions.get? t.uuid = none) (l : Ledger) :
    s.SameLedger (s'.recorded l t) ledger where
  entry := (Table.get?_insert_of_ne _ (Ne.symm ht) _).trans h.entry
  transactions := by
    intro u t' ht'
    rw [← h.transactions ht']
    constructor
    · intro hstored
      rcases Table.get?_insert_cases hstored with ⟨-, rfl⟩ | ⟨-, hold⟩
      · exact absurd ht' ht
      · exact hold
    · intro hold
      exact Table.get?_insert_of_get? fresh hold t
  liveKeys := by
    intro key
    refine (Table.get?_insert_of_ne _ (fun he => ?_) _).trans (h.liveKeys key)
    exact ht (Prod.mk.inj he).1.symm

end SameLedger
end Store

/-! ## Two runs, step by step -/

/-- No lock is held. -/
def Shared.Unheld (s : Shared) : Prop := ∀ lock, s.locks.holders.get? lock = none

/-- To fetch a lock is not to hold it. -/
theorem Shared.Unheld.fetched {s : Shared} (h : s.Unheld) (u : Uuid) :
    Shared.Unheld { s with locks := (s.locks.fetch u).2 } := by
  intro lock
  rw [Locks.holders_fetch]
  exact h lock

namespace SpendRun

/-- The two runs are at the same station, and differ at most in the number of their lock. -/
inductive Alike : SpendRun → SpendRun → Prop
  | arrived {c} : Alike (.arrived c) (.arrived c)
  | located {c x} : Alike (.located c x) (.located c x)
  | waiting {c x n m} : Alike (.waiting c x n) (.waiting c x m)
  | checking {c x n m} : Alike (.checking c x n) (.checking c x m)
  | pricing {c x n m key} : Alike (.pricing c x n key) (.pricing c x m key)
  | weighing {c x n m key quantity} : Alike (.weighing c x n key quantity) (.weighing c x m key quantity)
  | enrolling {c x n m t} : Alike (.enrolling c x n t) (.enrolling c x m t)
  | recording {n m t} : Alike (.recording n t) (.recording m t)
  | finished {result} : Alike (.finished result) (.finished result)

/-- The run has no lock yet. -/
def IsUnlocked : SpendRun → Prop
  | .arrived _ | .located _ _ | .waiting _ _ _ => True
  | _ => False

theorem Alike.result?_eq {run run' : SpendRun} (h : run.Alike run') : run'.result? = run.result? := by
  cases h <;> rfl

/-- Two runs for one command, each alone, where the ledger of the subsidy is the same. -/
structure Twin (c : SpendCommand) (x : Subsidy) (s₀ s₀' : Store) (s s' : Shared)
    (run run' : SpendRun) : Prop where
  alike : run.Alike run'
  alone : run.Alone s₀ c x s.store
  alone' : run'.Alone s₀' c x s'.store
  unheld : run.IsUnlocked → s.Unheld ∧ s'.Unheld

/-- Both runs stop, or both go on to one station again. -/
inductive Lockstep (s s' : Shared) (run run' : SpendRun) (input : StepInput) : Prop
  | stop (h : run.step 0 s input = none) (h' : run'.step 0 s' input = none)
  | go {t t' : Shared} {next next' : SpendRun} (h : run.step 0 s input = some (t, next))
    (h' : run'.step 0 s' input = some (t', next')) (alike : next.Alike next')
    (unheld : next.IsUnlocked → t.Unheld ∧ t'.Unheld)

variable {c : SpendCommand} {x : Subsidy} {s₀ s₀' : Store} {s s' : Shared} {run run' : SpendRun}

/-! ### The stations one by one -/

section Stations

variable {y : Subsidy} {n m : Nat} {key : IdempotencyKey} {quantity : Int} {t : Transaction}

theorem lockstep_arrived (hx : s.store.subsidy? c.subsidy = some x)
    (hx' : s'.store.subsidy? c.subsidy = some x) (hunheld : s.Unheld ∧ s'.Unheld) (stamp : Stamp) :
    Lockstep s s' (.arrived c) (.arrived c) (.proceed stamp) :=
  .go (step_located hx stamp) (step_located hx' stamp) .located fun _ => hunheld

theorem lockstep_located (hunheld : s.Unheld ∧ s'.Unheld) (stamp : Stamp) :
    Lockstep s s' (.located c y) (.located c y) (.proceed stamp) :=
  .go rfl rfl .waiting fun _ => ⟨hunheld.1.fetched y.uuid, hunheld.2.fetched y.uuid⟩

theorem lockstep_waiting (hunheld : s.Unheld ∧ s'.Unheld) (stamp : Stamp) :
    Lockstep s s' (.waiting c y n) (.waiting c y m) (.proceed stamp) :=
  .go (step_acquired (hunheld.1 n) stamp) (step_acquired (hunheld.2 m) stamp) .checking False.elim

theorem lockstep_checking
    (hfind : s'.store.findByKey y.ledgerUuid (c.resolveKey y.ledgerUuid) =
      s.store.findByKey y.ledgerUuid (c.resolveKey y.ledgerUuid)) (stamp : Stamp) :
    Lockstep s s' (.checking c y n) (.checking c y m) (.proceed stamp) := by
  cases hkey : s.store.findByKey y.ledgerUuid (c.resolveKey y.ledgerUuid) with
  | none =>
    exact .go (step_missed hkey stamp) (step_missed (hfind.trans hkey) stamp) .pricing False.elim
  | some t =>
    exact .go (step_replayed hkey stamp) (step_replayed (hfind.trans hkey) stamp) .finished False.elim

theorem lockstep_pricing (s s' : Shared) (answer : Except CatalogError String) :
    Lockstep s s' (.pricing c y n key) (.pricing c y m key) (.priced answer) := by
  cases answer with
  | error e => exact .go rfl rfl .finished False.elim
  | ok price =>
    cases hdebit : debitOfText y.unit price with
    | error e => exact .go (step_uncharged hdebit) (step_uncharged hdebit) .finished False.elim
    | ok quantity => exact .go (step_priced hdebit) (step_priced hdebit) .weighing False.elim

theorem lockstep_weighing (hbalance : s'.store.balance y.ledgerUuid = s.store.balance y.ledgerUuid)
    (stamp : Stamp) :
    Lockstep s s' (.weighing c y n key quantity) (.weighing c y m key quantity) (.proceed stamp) := by
  cases hb : s.store.balance y.ledgerUuid with
  | error e =>
    exact .go (step_unbalanced hb stamp) (step_unbalanced (hbalance.trans hb) stamp) .finished False.elim
  | ok b =>
    have hb' := hbalance.trans hb
    by_cases hq : b + quantity < 0
    · exact .go (step_uncovered hb hq stamp) (step_uncovered hb' hq stamp) .finished False.elim
    · exact .go (step_covered hb hq stamp) (step_covered hb' hq stamp) .enrolling False.elim

theorem lockstep_enrolling (s s' : Shared) (answer : Except EnrollmentError String) (now : Timestamp) :
    Lockstep s s' (.enrolling c y n t) (.enrolling c y m t) (.enrolled answer now) := by
  cases answer with
  | error e =>
    cases hfail : t.fail now with
    | error e' => exact .go (step_unfailed hfail e) (step_unfailed hfail e) .finished False.elim
    | ok failed => exact .go (step_unenrolled hfail e) (step_unenrolled hfail e) .finished False.elim
  | ok reference =>
    cases hcommit : t.commit (some reference) (some enrollmentReferenceType) now with
    | error e => exact .go (step_unsettled hcommit) (step_unsettled hcommit) .finished False.elim
    | ok committed => exact .go (step_fulfilled hcommit) (step_fulfilled hcommit) .recording False.elim

theorem lockstep_recording (happend : (s'.store.append t).1 = (s.store.append t).1) (stamp : Stamp) :
    Lockstep s s' (.recording n t) (.recording m t) (.proceed stamp) := by
  have hstep (u : Shared) (lock : Nat) : step 0 u (.recording lock t) (.proceed stamp) =
      some (finish { u with store := (u.store.append t).2 } lock
        (((u.store.append t).1.map .created).mapError .ledger)) := by
    cases ha : u.store.append t with
    | mk result store => cases result <;> simp only [step, ha, Except.map, Except.mapError]
  refine .go (hstep s n) (hstep s' m) ?_ False.elim
  rw [happend]
  exact .finished

end Stations

/-- **Twins stay in step.** A station that a run has come to reads the ledger of the subsidy
or nothing, and takes one kind of input; for every other both runs stop. -/
theorem Twin.lockstep (h : Twin c x s₀ s₀' s s' run run') (hs : s₀.Coherent)
    (hsame : s₀.SameLedger s₀' x.ledgerUuid) (input : StepInput) :
    Lockstep s s' run run' input := by
  obtain ⟨halike, halone, halone', hunheld⟩ := h
  -- the runs stand at one station; the steps that look into the store see what the two have in common
  cases halike with
  | finished => exact .stop rfl rfl
  | arrived =>
    cases input with
    | proceed stamp =>
      obtain ⟨rfl, rfl, hx⟩ := halone
      obtain ⟨rfl, -, hx'⟩ := halone'
      exact lockstep_arrived hx hx' (hunheld trivial) stamp
    | priced | enrolled | crashed => exact .stop rfl rfl
  | located =>
    cases input with
    | proceed stamp => exact lockstep_located (hunheld trivial) stamp
    | priced | enrolled | crashed => exact .stop rfl rfl
  | waiting =>
    cases input with
    | proceed stamp => exact lockstep_waiting (hunheld trivial) stamp
    | priced | enrolled | crashed => exact .stop rfl rfl
  | checking =>
    cases input with
    | proceed stamp =>
      obtain ⟨rfl, rfl, rfl⟩ := halone
      obtain ⟨rfl, -, -⟩ := halone'
      exact lockstep_checking (hsame.findByKey_eq hs _) stamp
    | priced | enrolled | crashed => exact .stop rfl rfl
  | pricing =>
    cases input with
    | priced answer => exact lockstep_pricing s s' answer
    | crashed => exact .go rfl rfl .finished False.elim
    | proceed | enrolled => exact .stop rfl rfl
  | weighing =>
    cases input with
    | proceed stamp =>
      obtain ⟨rfl, rfl, rfl⟩ := halone
      obtain ⟨rfl, -, -⟩ := halone'
      exact lockstep_weighing (hsame.balance_eq hs) stamp
    | priced | enrolled | crashed => exact .stop rfl rfl
  | enrolling =>
    cases input with
    | enrolled answer now => exact lockstep_enrolling s s' answer now
    | crashed => exact .go rfl rfl .finished False.elim
    | proceed | priced => exact .stop rfl rfl
  | recording =>
    cases input with
    | proceed stamp =>
      obtain ⟨rfl, hledger, -⟩ := halone
      obtain ⟨rfl, -, -⟩ := halone'
      exact lockstep_recording (hsame.append_eq hs hledger) stamp
    | priced | enrolled | crashed => exact .stop rfl rfl

end SpendRun

/-! ## From the first step to the last -/

namespace World

variable {σ : Type} {w w' : World σ}

/-- **Two tasks that stay in step come to the same.** `R` holds of both before a step; the step
stops both, or keeps `R`. -/
theorem follow_twin {ρ α : Type} {over? : ρ → Option α} {stuck : α}
    {advance : ρ → World σ → Option ρ × World σ} {R : World σ → World σ → ρ → ρ → Prop}
    (hover : ∀ {w w' run run'}, R w w' run run' → over? run' = over? run)
    (houtside : ∀ {w w' run run'}, R w w' run run' → w'.outside = w.outside)
    (hstep : ∀ {w w' run run'}, R w w' run run' →
      ((advance run w).1 = none ∧ (advance run' w').1 = none ∧
        (advance run' w').2.outside = (advance run w).2.outside) ∨
      ∃ next next', (advance run w).1 = some next ∧ (advance run' w').1 = some next' ∧
        R (advance run w).2 (advance run' w').2 next next')
    (steps : Nat) {run run' : ρ} (h : R w w' run run') :
    (follow over? stuck advance steps run' w').1 = (follow over? stuck advance steps run w).1 ∧
      (follow over? stuck advance steps run' w').2.outside =
        (follow over? stuck advance steps run w).2.outside := by
  induction steps generalizing run run' w w' with
  | zero => simp [follow, hover h, houtside h]
  | succ steps ih =>
    cases ho : over? run with
    | some result => simp [follow, hover h, ho, houtside h]
    | none =>
      cases ha : advance run w with
      | mk first w₁ =>
        cases ha' : advance run' w' with
        | mk first' w₁' =>
          have hboth := hstep h
          rw [ha, ha'] at hboth
          rcases hboth with ⟨rfl, rfl, hout⟩ | ⟨next, next', rfl, rfl, hnext⟩
          · simpa [follow, hover h, ho, ha, ha'] using hout
          · simpa [follow, hover h, ho, ha, ha'] using ih hnext

variable {s : Surroundings σ}

/-- Alike runs get the same from outside. -/
theorem spendInput_alike {run run' : SpendRun} (h : run.Alike run') (o : σ) :
    spendInput s run' o = spendInput s run o := by
  cases h <;> rfl

/-- **A command comes to the same in two stores that have the same ledger**, and leaves the
collaborators alike. -/
theorem spend_twin (hs : w.store.Coherent) {c : SpendCommand} {x : Subsidy}
    (hx : w.store.subsidy? c.subsidy = some x) (hx' : w'.store.subsidy? c.subsidy = some x)
    (hsame : w.store.SameLedger w'.store x.ledgerUuid) (hunheld : w.shared.Unheld)
    (hunheld' : w'.shared.Unheld) (houtside : w'.outside = w.outside) :
    (w'.spend s c).1 = (w.spend s c).1 ∧ (w'.spend s c).2.outside = (w.spend s c).2.outside := by
  have hstart : SpendRun.Twin c x w.store w'.store w.shared w'.shared (.arrived c) (.arrived c) :=
    ⟨.arrived, ⟨rfl, rfl, hx⟩, ⟨rfl, rfl, hx'⟩, fun _ => ⟨hunheld, hunheld'⟩⟩
  refine follow_twin (R := fun v v' run run' =>
    SpendRun.Twin c x w.store w'.store v.shared v'.shared run run' ∧ v'.outside = v.outside)
    (fun h => h.1.alike.result?_eq) (fun h => h.2) ?_ 8 ⟨hstart, houtside⟩
  rintro v v' run run' ⟨htwin, hout⟩
  have hinput : spendInput s run' v'.outside = spendInput s run v.outside := by
    rw [hout, spendInput_alike htwin.alike]
  cases htwin.lockstep hs hsame (spendInput s run v.outside).1 with
  | stop h h' =>
    refine .inl ?_
    simp [spendStep, hinput, h, h']
  | @go t t' next next' h h' halike hfree =>
    refine .inr ⟨next, next', by simp [spendStep, h], by simp [spendStep, hinput, h'], ?_⟩
    have hnext : SpendRun.Twin c x w.store w'.store t t' next next' :=
      ⟨halike, (SpendRun.move_of_step h).alone htwin.alone,
        (SpendRun.move_of_step h').alone htwin.alone', hfree⟩
    simpa [spendStep, hinput, h, h'] using hnext

end World
end Bursar
