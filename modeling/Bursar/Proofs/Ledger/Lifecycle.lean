import Bursar.Ledger.Transaction
import Bursar.Proofs.Ledger.DerivedKey

/-!
# The life of a transaction

A pending transaction is asked to commit or to fail, any number of times and in any order. The
first call settles it for good, and each later one is refused and leaves no trace
(`Transaction.first_call_settles`).

A call is looked at write by write here (`LifeCall.inPlace`): what it had written by the time it
is refused would stay written. That a refusal is without a trace is due to the order of the
writes, the check of the state being in front of all of them (`LifeCall.answer_eq`).
-/

namespace Bursar

/-- What a transaction is asked for in its life. -/
inductive LifeCall where
  | commit (referenceId referenceType : Option String)
  | fail
deriving DecidableEq

namespace LifeCall

variable {t : Transaction} {now : Timestamp}

/-- The state that the call asks for. -/
def target : LifeCall → TransactionState
  | commit .. => .committed
  | fail => .failed

/-- What becomes of a transaction by the call, or why nothing does. -/
def on (c : LifeCall) (t : Transaction) (now : Timestamp) : Except LedgerError Transaction :=
  match c with
  | commit referenceId referenceType => t.commit referenceId referenceType now
  | fail => t.fail now

/-! ## Write by write -/

/-- The move to another state as writes to a transaction in place. -/
def moveInPlace (target : TransactionState) (now : Timestamp) :
    ExceptT LedgerError (StateM Transaction) Unit := do
  let t ← get
  if !t.state.canBecome target then
    throw (.invalidTransition t.state.toText target.toText)
  modify fun t => { t with state := target }
  modify fun t => { t with modified := now }

/-- The call as writes to a transaction in place. A refusal does not undo the writes before it. -/
def inPlace (c : LifeCall) (now : Timestamp) : ExceptT LedgerError (StateM Transaction) Unit :=
  match c with
  | commit referenceId referenceType => do
    moveInPlace .committed now
    modify fun t => { t with referenceId := referenceId }
    modify fun t => { t with referenceType := referenceType }
  | fail => moveInPlace .failed now

/-- What the caller is told, and the transaction after the call. -/
def answer (c : LifeCall) (now : Timestamp) (t : Transaction) : Except LedgerError Unit × Transaction :=
  (c.inPlace now).run.run t

/-- **A call changes a transaction as a whole or not at all.** -/
theorem answer_eq (c : LifeCall) (now : Timestamp) (t : Transaction) : c.answer now t =
    match c.on t now with
    | .ok t' => (.ok (), t')
    | .error e => (.error e, t) := by
  -- the check comes out once the state is known
  obtain ⟨_, _, _, _, _, _, _, _, state, _⟩ := t
  cases c with
  | commit referenceId referenceType => cases state <;> rfl
  | fail => cases state <;> rfl

/-! ## The first call -/

/-- The transaction as the call leaves it if it is the first one. -/
def settle (c : LifeCall) (now : Timestamp) (t : Transaction) : Transaction :=
  match c with
  | commit referenceId referenceType =>
    { t with
      state := .committed, modified := now, referenceId := referenceId, referenceType := referenceType }
  | fail => { t with state := .failed, modified := now }

@[simp] theorem settle_state (c : LifeCall) : (c.settle now t).state = c.target := by
  cases c <;> rfl

@[simp] theorem settle_quantity (c : LifeCall) : (c.settle now t).quantity = t.quantity := by
  cases c <;> rfl

@[simp] theorem settle_reversal (c : LifeCall) : (c.settle now t).reversal = t.reversal := by
  cases c <;> rfl

theorem target_ne_created (c : LifeCall) : c.target ≠ .created := by
  cases c <;> nofun

/-- A transaction that has not been moved yet is moved as asked. -/
theorem answer_of_created (h : t.state = .created) (c : LifeCall) (now : Timestamp) :
    c.answer now t = (.ok (), c.settle now t) := by
  cases c <;> simp [answer_eq, on, settle, Transaction.commit, Transaction.fail, Transaction.moveTo,
    TransactionState.canBecome, Except.map, h]

/-- One that has been moved is left alone, and the caller is told from where to where it cannot go. -/
theorem answer_of_ne_created (h : t.state ≠ .created) (c : LifeCall) (now : Timestamp) :
    c.answer now t = (.error (.invalidTransition t.state.toText c.target.toText), t) := by
  have hstays : t.state.canBecome c.target = false := by
    cases hs : t.state with
    | created => exact absurd hs h
    | committed => rfl
    | failed => rfl
  cases c <;>
    simp_all [answer_eq, on, target, Transaction.commit, Transaction.fail, Transaction.moveTo, Except.map]

end LifeCall

namespace Transaction

variable {t : Transaction}

/-! ## Call after call -/

/-- The transaction after calls, each at its time, whatever the callers were told. -/
def afterCalls (t : Transaction) : List (LifeCall × Timestamp) → Transaction
  | [] => t
  | (c, now) :: calls => (c.answer now t).2.afterCalls calls

/-- **A transaction that has been moved stays as it is for good.** -/
theorem afterCalls_of_ne_created (h : t.state ≠ .created) (calls : List (LifeCall × Timestamp)) :
    t.afterCalls calls = t := by
  induction calls with
  | nil => rfl
  | cons call calls ih =>
    obtain ⟨c, now⟩ := call
    rw [afterCalls, LifeCall.answer_of_ne_created h, ih]

/-- **The first call settles it.** -/
theorem afterCalls_cons_of_created (h : t.state = .created) (c : LifeCall) (now : Timestamp)
    (calls : List (LifeCall × Timestamp)) : t.afterCalls ((c, now) :: calls) = c.settle now t := by
  have hmoved : (c.settle now t).state ≠ .created := by
    rw [LifeCall.settle_state]
    exact c.target_ne_created
  rw [afterCalls, LifeCall.answer_of_created h, afterCalls_of_ne_created hmoved]

/-! ## What a transaction counts -/

/-- A transaction that nothing has been asked of yet. -/
structure IsPending (t : Transaction) : Prop where
  state : t.state = .created
  referenceId : t.referenceId = none
  referenceType : t.referenceType = none
  reversal : t.reversal = none

theorem isPending_pending (stamp : Stamp) (ledger : Uuid) (unit : Denomination) (key : IdempotencyKey)
    (quantity : Int) : (pending stamp ledger unit key quantity).IsPending :=
  ⟨rfl, rfl, rfl, rfl⟩

theorem IsPending.forLearner (h : t.IsPending) (learner : Int) (content : String) (policy : Uuid) :
    (t.forLearner learner content policy).IsPending :=
  ⟨h.state, h.referenceId, h.referenceType, h.reversal⟩

/-- Without a reversal a committed transaction counts with its quantity. -/
theorem effect_of_not_reversed (h : t.reversal = none) :
    t.effect = if t.state = .committed then t.quantity else 0 := by
  rw [effect, h, reversedQuantity, Int.add_zero]

/-- **With its reversal a transaction counts nothing**, in whatever state it is. -/
theorem effect_reversed (t : Transaction) (stamp : Stamp) :
    { t with reversal := some (Reversal.of t stamp) }.effect = 0 := by
  by_cases h : t.state = .committed
  · simp only [effect, h, reversedQuantity, Reversal.of, if_true]
    omega
  · simp [effect, h]

/-- The opposite of a quantity fits 64 bits, but for that of the least one. -/
theorem fits64_reversed_iff (h : Text.Fits64 t.quantity) (stamp : Stamp) :
    Text.Fits64 (Reversal.of t stamp).quantity ↔ t.quantity ≠ Text.minInt64 := by
  have hquantity : (Reversal.of t stamp).quantity = -t.quantity := rfl
  rw [hquantity]
  simp only [Text.Fits64, Text.minInt64, Text.maxInt64] at h ⊢
  omega

/-! ## The whole life -/

/-- What can be said of a pending transaction `t` that calls leave as `t'`. -/
structure IsLeftBy (t : Transaction) (calls : List (LifeCall × Timestamp)) (t' : Transaction) : Prop where
  kept : t' = { t with state := t'.state, modified := t'.modified, referenceId := t'.referenceId,
                       referenceType := t'.referenceType }
  failed : t'.state = .failed → t'.referenceId = none ∧ t'.referenceType = none
  isLive : t'.isLive = true ↔ ∀ now, calls.head? ≠ some (.fail, now)
  effect : t'.effect = if t'.state = .committed then t.quantity else 0
  effect_reversed (stamp : Stamp) : { t' with reversal := some (Reversal.of t' stamp) }.effect = 0
  fits64_reversed (stamp : Stamp) : Text.Fits64 t.quantity →
    (Text.Fits64 (Reversal.of t' stamp).quantity ↔ t.quantity ≠ Text.minInt64)

theorem IsPending.isLeftBy_nothing (h : t.IsPending) : t.IsLeftBy [] t where
  kept := rfl
  failed := fun _ => ⟨h.referenceId, h.referenceType⟩
  isLive := by simp [isLive, h.state]
  effect := effect_of_not_reversed h.reversal
  effect_reversed := t.effect_reversed
  fits64_reversed := fun stamp hfits => fits64_reversed_iff hfits stamp

theorem IsPending.isLeftBy_settle (h : t.IsPending) (c : LifeCall) (now : Timestamp)
    (calls : List (LifeCall × Timestamp)) : t.IsLeftBy ((c, now) :: calls) (c.settle now t) where
  kept := by cases c <;> rfl
  failed := by
    intro hfailed
    cases c with
    | commit referenceId referenceType => cases hfailed
    | fail => exact ⟨h.referenceId, h.referenceType⟩
  isLive := by cases c <;> simp [isLive, LifeCall.target]
  effect := by
    have hreversal : (c.settle now t).reversal = none := by rw [LifeCall.settle_reversal, h.reversal]
    rw [effect_of_not_reversed hreversal, LifeCall.settle_quantity]
  effect_reversed := (c.settle now t).effect_reversed
  fits64_reversed := by
    intro stamp hfits
    have hquantity : (c.settle now t).quantity = t.quantity := LifeCall.settle_quantity c
    rw [fits64_reversed_iff (by rwa [hquantity]), hquantity]

/-- **The first call settles a pending transaction for good.** It is granted, and leaves the
transaction committed with its references, or failed with none. Each later one is told the state
that the transaction is in and the one that it cannot go to, and leaves the whole transaction as it
is. At every point the transaction is live unless failing was asked for first, counts with its
quantity exactly if it is committed, and nothing together with its reversal; what it is about does
not change. -/
theorem first_call_settles (h : t.IsPending) :
    (∀ (c : LifeCall) now, c.answer now t = (.ok (), c.settle now t)) ∧
      (∀ c now calls, t.afterCalls ((c, now) :: calls) = c.settle now t) ∧
      (∀ calls, calls ≠ [] → ∀ (c : LifeCall) now, c.answer now (t.afterCalls calls) =
        (.error (.invalidTransition (t.afterCalls calls).state.toText c.target.toText),
          t.afterCalls calls)) ∧
      ∀ calls, t.IsLeftBy calls (t.afterCalls calls) := by
  refine ⟨fun c now => LifeCall.answer_of_created h.state c now,
    fun c now calls => afterCalls_cons_of_created h.state c now calls, ?_, ?_⟩
  · intro calls hcalls c now
    cases calls with
    | nil => exact absurd rfl hcalls
    | cons call calls =>
      obtain ⟨first, earlier⟩ := call
      rw [afterCalls_cons_of_created h.state]
      refine LifeCall.answer_of_ne_created ?_ c now
      rw [LifeCall.settle_state]
      exact first.target_ne_created
  · intro calls
    cases calls with
    | nil => exact h.isLeftBy_nothing
    | cons call calls =>
      rw [afterCalls_cons_of_created h.state]
      exact h.isLeftBy_settle call.1 call.2 calls

/-- A seat for a learner, asked to commit, to fail, and to commit again: it is committed by the first call,
and live. -/
theorem first_call_settles_seat :
    let t := (pending default Uuid.nil .seats ⟨"seat"⟩ (-1)).forLearner 7 "course" Uuid.nil
    let calls : List (LifeCall × Timestamp) :=
      [(.commit (some "first") none, default), (.fail, default), (.commit (some "second") none, default)]
    t.IsPending ∧ t.afterCalls calls = LifeCall.settle (.commit (some "first") none) default t ∧
      (LifeCall.fail.answer default (t.afterCalls calls)).1 =
        .error (.invalidTransition "committed" "failed") ∧
      (t.afterCalls calls).isLive = true ∧ (t.afterCalls calls).effect = -1 := by
  intro t calls
  have hpending : t.IsPending := (isPending_pending ..).forLearner 7 "course" Uuid.nil
  obtain ⟨-, hfirst, hlater, hleft⟩ := first_call_settles hpending
  have hafter : t.afterCalls calls = LifeCall.settle (.commit (some "first") none) default t := hfirst ..
  refine ⟨hpending, hafter, ?_, (hleft calls).isLive.mpr (by simp [calls]), ?_⟩
  · rw [hlater calls (by simp [calls]), hafter]
    rfl
  · rw [(hleft calls).effect, hafter]
    rfl

end Transaction
end Bursar
