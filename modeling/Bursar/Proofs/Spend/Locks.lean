import Bursar.Proofs.Table
import Bursar.Spend.Locks

/-!
# What the locks remember

Fetching a lock makes one if there is none and changes nothing else; taking a
lock enters the task under it; giving one back clears that entry only. So
whatever a task does (`Locks.Change`), a lock once made stays the lock of its
subsidy, and what others hold they go on holding.
-/

namespace Bursar.Locks

/-- What is fetched is the subsidy's lock from then on. -/
theorem lockOf_fetch_self (l : Locks) (u : Uuid) :
    (l.fetch u).2.lockOf.get? u = some (l.fetch u).1 := by
  unfold fetch
  cases hu : l.lockOf.get? u with
  | some lock => exact hu
  | none => exact Table.get?_insert_self ..

/-- A lock once made stays the lock of its subsidy. -/
theorem lockOf_fetch {l : Locks} {v : Uuid} {lock : Nat} (h : l.lockOf.get? v = some lock)
    (u : Uuid) : (l.fetch u).2.lockOf.get? v = some lock := by
  unfold fetch
  cases hu : l.lockOf.get? u with
  | some lock => exact h
  | none => exact Table.get?_insert_of_get? hu h _

@[simp] theorem holders_fetch (l : Locks) (u : Uuid) : (l.fetch u).2.holders = l.holders := by
  unfold fetch
  cases l.lockOf.get? u <;> rfl

theorem acquire_eq_some {l l' : Locks} {lock task : Nat} (h : l.acquire lock task = some l') :
    l.holders.get? lock = none ∧ l' = { l with holders := l.holders.insert lock task } := by
  unfold acquire at h
  cases hh : l.holders.get? lock with
  | some q => simp [hh] at h
  | none =>
    rw [hh] at h
    exact ⟨rfl, (Option.some.inj h).symm⟩

theorem acquire_eq_none_iff {l : Locks} {lock task : Nat} :
    l.acquire lock task = none ↔ ∃ p, l.holders.get? lock = some p := by
  unfold acquire
  cases l.holders.get? lock <;> simp

theorem holders_release_of_ne (l : Locks) {lock n : Nat} (h : n ≠ lock) :
    (l.release lock).holders.get? n = l.holders.get? n :=
  (Table.get?_erase ..).trans (if_neg h)

/-- What task `p` may do to the locks in one step. -/
inductive Change (p : Nat) (l : Locks) : Locks → Prop
  | kept : Change p l l
  | fetched {u : Uuid} : Change p l (l.fetch u).2
  | acquired {lock : Nat} {l' : Locks} (h : l.acquire lock p = some l') : Change p l l'
  /-- A task gives back what it holds. -/
  | released {lock : Nat} (h : l.holders.get? lock = some p) : Change p l (l.release lock)

namespace Change

variable {p : Nat} {l l' : Locks}

theorem lockOf (h : Change p l l') {v : Uuid} {lock : Nat} (hv : l.lockOf.get? v = some lock) :
    l'.lockOf.get? v = some lock := by
  cases h with
  | kept | released => exact hv
  | fetched => exact lockOf_fetch hv _
  | acquired ha =>
    obtain ⟨-, rfl⟩ := acquire_eq_some ha
    exact hv

/-- The entry of a lock that another task holds stays. -/
theorem others (h : Change p l l') {q lock : Nat} (hq : q ≠ p)
    (hl : l.holders.get? lock = some q) : l'.holders.get? lock = some q := by
  cases h with
  | kept => exact hl
  | fetched =>
    rw [holders_fetch]
    exact hl
  | acquired ha =>
    obtain ⟨hfree, rfl⟩ := acquire_eq_some ha
    exact Table.get?_insert_of_get? hfree hl _
  | released hp =>
    refine (holders_release_of_ne _ ?_).trans hl
    rintro rfl
    exact hq (Option.some.inj (hl.symm.trans hp))

end Change
end Bursar.Locks
