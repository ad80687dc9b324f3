import Bursar.Table
import Bursar.Uuid

/-!
# Locks

Work on the ledger of one subsidy is done by one task at a time. Every subsidy
has a lock, made when it is first asked for. Getting it takes two steps: `fetch`
finds or makes the lock, `acquire` takes it if nobody holds it.
-/

namespace Bursar

/-- The locks made so far, numbered from zero, and the tasks that hold them. -/
structure Locks where
  lockOf : Table Uuid Nat
  made : Nat
  holders : Table Nat Nat
deriving Inhabited

namespace Locks

/-- No locks yet. -/
def empty : Locks := ⟨.empty, 0, .empty⟩

/-- The lock of a subsidy, made now if it has none. -/
def fetch (l : Locks) (subsidy : Uuid) : Nat × Locks :=
  match l.lockOf.get? subsidy with
  | some lock => (lock, l)
  | none => (l.made, { l with lockOf := l.lockOf.insert subsidy l.made, made := l.made + 1 })

/-- Takes a lock for a task, unless some task holds it. -/
def acquire (l : Locks) (lock task : Nat) : Option Locks :=
  match l.holders.get? lock with
  | some _ => none
  | none => some { l with holders := l.holders.insert lock task }

/-- Gives a lock back. -/
def release (l : Locks) (lock : Nat) : Locks := { l with holders := l.holders.erase lock }

end Locks
end Bursar
