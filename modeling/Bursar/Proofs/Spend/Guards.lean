import Bursar.Proofs.Spend.Locks
import Bursar.Proofs.Spend.Soundness

/-!
# Guards

Any number of tasks ask for the locks of any subsidies, and give back what they got. To ask takes
two steps, and other tasks may make theirs in between: a task fetches the lock, which makes it if
there is none, and then takes it, if nobody holds it. What it has after the first step is a
`Handle`; the same handle is its guard after the second. A task may have several of both, may stop
waiting, and may drop its guards in any order. A `LockUse` is the locks with what tasks have of
them, and `LockUse.Step` one step of one task.

Tasks that race for the first use of a subsidy still end up with one lock: the entry that the first
of them made is what the others find. Since a lock is numbered by how many were made before it, no
two subsidies share one (`Locks.Numbered`). And a lock is held exactly if there is a guard on it
(`LockUse.Valid`). So a guard keeps other tasks off its own subsidy, and off no other one
(`LockUse.take?_eq_none_iff`).

Spends and reversals are such tasks: whatever they do is a use of the locks
(`LockUse.exists_follows`).
-/

namespace Bursar

open Relation (ReflTransGen)

/-! ## Numbered locks -/

/-- The locks are numbered in the order they were made. -/
structure Locks.Numbered (l : Locks) : Prop where
  lt_made : ∀ {u n}, l.lockOf.get? u = some n → n < l.made
  injective : ∀ {u v n}, l.lockOf.get? u = some n → l.lockOf.get? v = some n → u = v

namespace Locks.Numbered

variable {l : Locks}

theorem empty : Locks.empty.Numbered := ⟨nofun, nofun⟩

/-- A lock that is made has a number of its own. -/
theorem fetch (h : l.Numbered) (u : Uuid) : (l.fetch u).2.Numbered := by
  unfold Locks.fetch
  cases hu : l.lockOf.get? u with
  | some lock => exact h
  | none =>
    constructor
    · intro v n hv
      rcases Table.get?_insert_cases hv with ⟨rfl, rfl⟩ | ⟨-, hv⟩
      · exact Nat.lt_succ_self _
      · exact Nat.lt_succ_of_lt (h.lt_made hv)
    · intro v w n hv hw
      rcases Table.get?_insert_cases hv with ⟨rfl, rfl⟩ | ⟨-, hv⟩
      · rcases Table.get?_insert_cases hw with ⟨rfl, -⟩ | ⟨-, hw⟩
        · rfl
        · exact absurd (h.lt_made hw) (Nat.lt_irrefl _)
      · rcases Table.get?_insert_cases hw with ⟨-, rfl⟩ | ⟨-, hw⟩
        · exact absurd (h.lt_made hv) (Nat.lt_irrefl _)
        · exact h.injective hv hw

end Locks.Numbered

/-! ## Handles and guards -/

/-- A lock that a task fetched for a subsidy. -/
structure Handle where
  task : Nat
  subsidy : Uuid
  lock : Nat
deriving DecidableEq

/-- The locks and what tasks have of them: every handle that was ever fetched, the handles whose lock
is still to be taken, and the guards, most recent first. -/
structure LockUse where
  locks : Locks
  fetched : List Handle
  waiting : List Handle
  guards : List Handle

namespace LockUse

/-- Nobody has asked for a lock yet. -/
def start : LockUse := ⟨.empty, [], [], []⟩

/-- What a task gets that asks for the lock of a subsidy. -/
def handle (s : LockUse) (task : Nat) (subsidy : Uuid) : Handle :=
  ⟨task, subsidy, (s.locks.fetch subsidy).1⟩

/-- A task fetches the lock of a subsidy. -/
def fetch (s : LockUse) (task : Nat) (subsidy : Uuid) : LockUse where
  locks := (s.locks.fetch subsidy).2
  fetched := s.handle task subsidy :: s.fetched
  waiting := s.handle task subsidy :: s.waiting
  guards := s.guards

/-- A task takes the lock that it fetched, unless it is held. -/
def take? (s : LockUse) (h : Handle) : Option LockUse :=
  (s.locks.acquire h.lock h.task).map fun locks =>
    { s with locks, waiting := s.waiting.erase h, guards := h :: s.guards }

/-- A task stops waiting for a lock. -/
def abandon (s : LockUse) (h : Handle) : LockUse := { s with waiting := s.waiting.erase h }

/-- A guard is dropped. -/
def drop (s : LockUse) (g : Handle) : LockUse :=
  { s with locks := s.locks.release g.lock, guards := s.guards.erase g }

/-- One step of one task. -/
inductive Step (s : LockUse) : LockUse → Prop
  | fetch (task : Nat) (subsidy : Uuid) : Step s (s.fetch task subsidy)
  | take {h : Handle} {s' : LockUse} (hwaiting : h ∈ s.waiting) (htake : s.take? h = some s') : Step s s'
  | abandon {h : Handle} (hwaiting : h ∈ s.waiting) : Step s (s.abandon h)
  | drop {g : Handle} (hguard : g ∈ s.guards) : Step s (s.drop g)

/-- What tasks can come to. -/
def Reachable (s : LockUse) : Prop := ReflTransGen Step start s

variable {s s' : LockUse} {h g : Handle}

theorem take?_eq_some (htake : s.take? h = some s') : s.locks.holders.get? h.lock = none ∧
    s' = { s with
      locks := { s.locks with holders := s.locks.holders.insert h.lock h.task }
      waiting := s.waiting.erase h, guards := h :: s.guards } := by
  obtain ⟨locks, hlocks, rfl⟩ := Option.map_eq_some_iff.mp htake
  obtain ⟨hfree, rfl⟩ := Locks.acquire_eq_some hlocks
  exact ⟨hfree, rfl⟩

/-! ## What is always so -/

/-- **The locks are in order**: what was ever fetched is the lock of its subsidy, and a lock is held by
the task that has the one guard on it. -/
structure Valid (s : LockUse) : Prop where
  numbered : s.locks.Numbered
  lockOf_fetched : ∀ h ∈ s.fetched, s.locks.lockOf.get? h.subsidy = some h.lock
  waiting_fetched : ∀ h ∈ s.waiting, h ∈ s.fetched
  guard_fetched : ∀ g ∈ s.guards, g ∈ s.fetched
  holder_iff : ∀ n p, s.locks.holders.get? n = some p ↔ ∃ g ∈ s.guards, g.lock = n ∧ g.task = p
  guard_unique : (s.guards.map Handle.lock).Nodup

theorem valid_start : start.Valid where
  numbered := .empty
  lockOf_fetched := nofun
  waiting_fetched := nofun
  guard_fetched := nofun
  holder_iff := by simp [start, Locks.empty]
  guard_unique := .nil

namespace Valid

/-- **Whoever fetches the lock of a subsidy gets the one that others got.** -/
theorem fetch (hs : s.Valid) (task : Nat) (subsidy : Uuid) : (s.fetch task subsidy).Valid where
  numbered := hs.numbered.fetch subsidy
  lockOf_fetched := List.forall_mem_cons.mpr
    ⟨Locks.lockOf_fetch_self .., fun h hh => Locks.lockOf_fetch (hs.lockOf_fetched h hh) subsidy⟩
  waiting_fetched := List.forall_mem_cons.mpr
    ⟨List.mem_cons_self, fun h hh => List.mem_cons_of_mem _ (hs.waiting_fetched h hh)⟩
  guard_fetched := fun g hg => List.mem_cons_of_mem _ (hs.guard_fetched g hg)
  holder_iff := by
    intro n p
    change (s.locks.fetch subsidy).2.holders.get? n = some p ↔ _
    rw [Locks.holders_fetch]
    exact hs.holder_iff n p
  guard_unique := hs.guard_unique

/-- There is no guard on a lock that nobody holds. -/
theorem not_guarded (hs : s.Valid) {n : Nat} (hfree : s.locks.holders.get? n = none) :
    ∀ g ∈ s.guards, g.lock ≠ n := by
  intro g hg hn
  have hheld := (hs.holder_iff n g.task).mpr ⟨g, hg, hn, rfl⟩
  rw [hfree] at hheld
  cases hheld

/-- **A lock that is taken has no other guard.** -/
theorem take (hs : s.Valid) (hwaiting : h ∈ s.waiting) (htake : s.take? h = some s') : s'.Valid := by
  obtain ⟨hfree, rfl⟩ := take?_eq_some htake
  have hfetched := hs.waiting_fetched h hwaiting
  have hnew := hs.not_guarded hfree
  constructor
  · exact ⟨hs.numbered.lt_made, hs.numbered.injective⟩
  · exact hs.lockOf_fetched
  · exact fun h' hh' => hs.waiting_fetched h' (List.mem_of_mem_erase hh')
  · exact List.forall_mem_cons.mpr ⟨hfetched, hs.guard_fetched⟩
  · intro n p
    rw [List.exists_mem_cons_iff, Table.get?_insert]
    by_cases hn : n = h.lock
    · rw [if_pos hn, Option.some.injEq]
      constructor
      · exact fun hp => .inl ⟨hn.symm, hp⟩
      · rintro (⟨-, hp⟩ | ⟨g, hg, hgn, -⟩)
        · exact hp
        · exact absurd (hgn.trans hn) (hnew g hg)
    · rw [if_neg hn, hs.holder_iff n p]
      constructor
      · exact .inr
      · rintro (⟨hhn, -⟩ | hold)
        · exact absurd hhn.symm hn
        · exact hold
  · exact List.nodup_cons.mpr ⟨by simpa using hnew, hs.guard_unique⟩

theorem abandon (hs : s.Valid) (h : Handle) : (s.abandon h).Valid :=
  { hs with waiting_fetched := fun h' hh' => hs.waiting_fetched h' (List.mem_of_mem_erase hh') }

/-- **A guard that is dropped was the only one on its lock.** -/
theorem drop (hs : s.Valid) (hguard : g ∈ s.guards) : (s.drop g).Valid where
  numbered := ⟨hs.numbered.lt_made, hs.numbered.injective⟩
  lockOf_fetched := hs.lockOf_fetched
  waiting_fetched := hs.waiting_fetched
  guard_fetched := fun g' hg' => hs.guard_fetched g' (List.mem_of_mem_erase hg')
  holder_iff := by
    intro n p
    have honly {g' : Handle} (hg' : g' ∈ s.guards) (hlock : g'.lock = g.lock) : g' = g :=
      List.inj_on_of_nodup_map hs.guard_unique hg' hguard hlock
    change (s.locks.release g.lock).holders.get? n = some p ↔ ∃ g' ∈ s.guards.erase g, _
    simp only [hs.guard_unique.of_map.mem_erase_iff]
    by_cases hn : n = g.lock
    · rw [Locks.release, Table.get?_erase, if_pos hn]
      constructor
      · intro hp
        cases hp
      · rintro ⟨g', ⟨hne, hg'⟩, hlock, -⟩
        exact absurd (honly hg' (hlock.trans hn)) hne
    · rw [Locks.holders_release_of_ne _ hn, hs.holder_iff n p]
      constructor
      · rintro ⟨g', hg', hlock, htask⟩
        refine ⟨g', ⟨?_, hg'⟩, hlock, htask⟩
        rintro rfl
        exact hn hlock.symm
      · rintro ⟨g', ⟨-, hg'⟩, hlock, htask⟩
        exact ⟨g', hg', hlock, htask⟩
  guard_unique := hs.guard_unique.sublist (List.erase_sublist.map _)

/-- **Every step keeps the locks in order.** -/
theorem step (hs : s.Valid) (hstep : Step s s') : s'.Valid := by
  cases hstep with
  | fetch task subsidy => exact hs.fetch task subsidy
  | take hwaiting htake => exact hs.take hwaiting htake
  | abandon => exact hs.abandon _
  | drop hguard => exact hs.drop hguard

/-- Two locks that were ever fetched are the same exactly if they were fetched for one subsidy. -/
theorem lock_eq_iff (hs : s.Valid) (hh : h ∈ s.fetched) (hg : g ∈ s.fetched) :
    h.lock = g.lock ↔ h.subsidy = g.subsidy := by
  have hhl := hs.lockOf_fetched h hh
  have hgl := hs.lockOf_fetched g hg
  constructor
  · intro hlock
    rw [hlock] at hhl
    exact hs.numbered.injective hhl hgl
  · intro hsubsidy
    rw [hsubsidy] at hhl
    exact Option.some.inj (hhl.symm.trans hgl)

/-- **No two guards are on one subsidy.** -/
theorem nodup_subsidies (hs : s.Valid) : (s.guards.map Handle.subsidy).Nodup := by
  refine List.Nodup.map_on (fun g hg g' hg' hsubsidy => ?_) hs.guard_unique.of_map
  have hlock := (hs.lock_eq_iff (hs.guard_fetched g hg) (hs.guard_fetched g' hg')).mpr hsubsidy
  exact List.inj_on_of_nodup_map hs.guard_unique hg hg' hlock

/-- **What keeps a task from taking a lock is a guard on the same subsidy**, and nothing else. -/
theorem take?_eq_none_iff (hs : s.Valid) (hh : h ∈ s.waiting) :
    s.take? h = none ↔ ∃ g ∈ s.guards, g.subsidy = h.subsidy := by
  have hfetched := hs.waiting_fetched h hh
  rw [take?, Option.map_eq_none_iff, Locks.acquire_eq_none_iff]
  constructor
  · rintro ⟨p, hp⟩
    obtain ⟨g, hg, hlock, -⟩ := (hs.holder_iff _ p).mp hp
    exact ⟨g, hg, (hs.lock_eq_iff (hs.guard_fetched g hg) hfetched).mp hlock⟩
  · rintro ⟨g, hg, hsubsidy⟩
    have hlock := (hs.lock_eq_iff (hs.guard_fetched g hg) hfetched).mpr hsubsidy
    exact ⟨g.task, (hs.holder_iff _ _).mpr ⟨g, hg, hlock, rfl⟩⟩

end Valid

/-- **The locks are in order whatever tasks come to.** -/
theorem Reachable.valid (hs : s.Reachable) : s.Valid := by
  induction hs with
  | refl => exact valid_start
  | tail _ hstep hvalid => exact hvalid.step hstep

end LockUse

/-- **One guard at a time on a subsidy.** Whatever steps tasks have made, no two guards are on one
subsidy; those who ever fetched the lock of a subsidy fetched the same one, and those who fetched for
different subsidies different ones; and a task that waits can take its lock exactly if there is no
guard on the subsidy that it waits for, whatever guards there are on others. -/
theorem one_guard_on_a_subsidy {s : LockUse} (hs : s.Reachable) :
    (s.guards.map Handle.subsidy).Nodup ∧
    (∀ h ∈ s.fetched, ∀ g ∈ s.fetched, h.lock = g.lock ↔ h.subsidy = g.subsidy) ∧
    ∀ h ∈ s.waiting, (∃ s', s.take? h = some s') ↔ ∀ g ∈ s.guards, g.subsidy ≠ h.subsidy := by
  have hvalid := hs.valid
  refine ⟨hvalid.nodup_subsidies, fun h hh g hg => hvalid.lock_eq_iff hh hg, fun h hh => ?_⟩
  have hkept := not_congr (hvalid.take?_eq_none_iff hh)
  rw [← Option.ne_none_iff_exists', ne_eq, hkept]
  simp only [not_exists, not_and, ne_eq]

/-- Two tasks ask for the lock of one subsidy, the second before the first has taken it, and a third
asks for that of another. -/
def LockUse.asked : LockUse := ((start.fetch 1 (.filled 1)).fetch 2 (.filled 1)).fetch 3 (.filled 2)

/-- The second and the third have their guards. -/
def LockUse.guarded : LockUse :=
  { asked with
    locks := { asked.locks with holders := (Table.empty.insert 0 2).insert 1 3 }
    waiting := [⟨1, .filled 1, 0⟩]
    guards := [⟨3, .filled 2, 1⟩, ⟨2, .filled 1, 0⟩] }

theorem LockUse.reachable_guarded : guarded.Reachable := by
  have hasked : asked.Reachable :=
    ((ReflTransGen.refl.tail (.fetch _ _)).tail (.fetch _ _)).tail (.fetch _ _)
  refine (hasked.tail (.take (h := ⟨2, .filled 1, 0⟩) (by decide) rfl)).tail
    (.take (h := ⟨3, .filled 2, 1⟩) (by decide) ?_)
  rfl

theorem one_guard_on_a_subsidy_guarded : LockUse.guarded.Reachable ∧
    (LockUse.guarded.guards.map Handle.subsidy).Nodup ∧
    ¬ ∃ s', LockUse.guarded.take? ⟨1, .filled 1, 0⟩ = some s' := by
  have hall := one_guard_on_a_subsidy LockUse.reachable_guarded
  refine ⟨LockUse.reachable_guarded, hall.1, fun htaken => ?_⟩
  have hfree := (hall.2.2 ⟨1, .filled 1, 0⟩ List.mem_cons_self).mp htaken
  exact hfree ⟨2, .filled 1, 0⟩ (by decide) rfl

/-! ## Spends and reversals -/

/-- The lock that a spend has fetched and not taken. -/
def SpendRun.awaited? : SpendRun → Option Nat
  | .waiting _ _ lock => some lock
  | _ => none

/-- The lock that a reversal has fetched and not taken. -/
def ReverseRun.awaited? : ReverseRun → Option Nat
  | .waiting _ lock => some lock
  | _ => none

/-- The lock that a task has fetched and not taken. -/
def Work.awaited? : Work → Option Nat
  | .spend _ run => run.awaited?
  | .reverse _ run => run.awaited?
  | .idle | .provide _ _ => none

/-- What task `p`, which was at `w` and comes to `w'`, does to the locks: nothing, or one of what a
task may do to them. -/
inductive Locks.Turn (p : Nat) (l : Locks) (w : Work) : Locks → Work → Prop
  | kept {w' : Work} (hheld : w'.lock? = w.lock?) (hawaited : w'.awaited? = none) : Turn p l w l w'
  | fetched {w' : Work} (u : Uuid) (hheld : w'.lock? = none)
      (hawaited : w'.awaited? = some (l.fetch u).1) :
      Turn p l w (l.fetch u).2 w'
  | acquired {w' : Work} {l' : Locks} {n : Nat} (hwaits : w.awaited? = some n)
      (h : l.acquire n p = some l')
      (hheld : w'.lock? = some n) (hawaited : w'.awaited? = none) : Turn p l w l' w'
  | released {w' : Work} {n : Nat} (hholds : w.lock? = some n) (hheld : w'.lock? = none)
      (hawaited : w'.awaited? = none) : Turn p l w (l.release n) w'

theorem SpendRun.Move.turn {p : Nat} {s s' : Shared} {run run' : SpendRun} {input : StepInput}
    (hm : Move p s run input s' run') (cmd : SpendCommand) :
    s.locks.Turn p (.spend cmd run) s'.locks (.spend cmd run') := by
  cases hm with
  | lost | located | missed | priced | covered | fulfilled => exact .kept rfl rfl
  | fetched => exact .fetched _ rfl rfl
  | acquired ha => exact .acquired rfl ha rfl rfl
  | gaveUp hl => exact .released hl rfl rfl
  | replayed | unsettled | recorded | refused => exact .released rfl rfl rfl

theorem ReverseRun.Move.turn {p : Nat} {s s' : Shared} {run run' : ReverseRun} {stamp : Stamp}
    (hm : Move p s run stamp s' run') (u : Uuid) :
    s.locks.Turn p (.reverse u run) s'.locks (.reverse u run') := by
  cases hm with
  | lost hl => exact .kept hl.symm rfl
  | found | located => exact .kept rfl rfl
  | fetched => exact .fetched _ rfl rfl
  | acquired ha => exact .acquired rfl ha rfl rfl
  | reversed => exact .released rfl rfl rfl

namespace LockUse

/-- The tasks of a system use the locks so: there is a handle for each lock that a task waits for, and a
guard for each one that it holds. -/
structure Follows (s : LockUse) (c : System) : Prop where
  locks : s.locks = c.locks
  waiting : ∀ {p n}, (c.work p).awaited? = some n → ∃ u, ⟨p, u, n⟩ ∈ s.waiting
  guards : ∀ {p n}, (c.work p).lock? = some n → ∃ u, ⟨p, u, n⟩ ∈ s.guards

namespace Follows

variable {s s' : LockUse} {h : Handle} {c d : System} {p : Nat} {shared : Shared} {w : Work}

theorem start : start.Follows System.start := ⟨rfl, nofun, nofun⟩

/-- What tasks other than `p` have stays theirs. -/
theorem update (hf : s.Follows c) (hlocks : s'.locks = shared.locks)
    (hawaited : ∀ {n}, w.awaited? = some n → ∃ u, ⟨p, u, n⟩ ∈ s'.waiting)
    (hheld : ∀ {n}, w.lock? = some n → ∃ u, ⟨p, u, n⟩ ∈ s'.guards)
    (hwaiting : ∀ h ∈ s.waiting, h.task ≠ p → h ∈ s'.waiting)
    (hguards : ∀ g ∈ s.guards, g.task ≠ p → g ∈ s'.guards) : s'.Follows (c.update p shared w) where
  locks := hlocks
  waiting := by
    intro q n hq
    by_cases hqp : q = p
    · rw [hqp, System.update_work_self] at hq
      rw [hqp]
      exact hawaited hq
    · rw [c.update_work_of_ne hqp] at hq
      obtain ⟨u, hu⟩ := hf.waiting hq
      exact ⟨u, hwaiting _ hu hqp⟩
  guards := by
    intro q n hq
    by_cases hqp : q = p
    · rw [hqp, System.update_work_self] at hq
      rw [hqp]
      exact hheld hq
    · rw [c.update_work_of_ne hqp] at hq
      obtain ⟨u, hu⟩ := hf.guards hq
      exact ⟨u, hguards _ hu hqp⟩

/-- What `p` gives up is nothing that another task has. -/
theorem mem_erase_of_task_ne {hs : List Handle} {u : Uuid} {n : Nat} (hh : h ∈ hs) (hp : h.task ≠ p) :
    h ∈ hs.erase ⟨p, u, n⟩ := by
  refine (List.mem_erase_of_ne ?_).mpr hh
  rintro rfl
  exact hp rfl

theorem kept (hf : s.Follows c) (hlocks : shared.locks = c.locks) (hheld : w.lock? = (c.work p).lock?)
    (hawaited : w.awaited? = none) : s.Follows (c.update p shared w) := by
  refine hf.update (hf.locks.trans hlocks.symm) ?_ ?_ (fun _ hh _ => hh) fun _ hg _ => hg
  · rw [hawaited]
    exact nofun
  · rw [hheld]
    exact hf.guards

theorem fetched (hf : s.Follows c) {u : Uuid} (hlocks : shared.locks = (c.locks.fetch u).2)
    (hheld : w.lock? = none) (hawaited : w.awaited? = some (c.locks.fetch u).1) :
    (s.fetch p u).Follows (c.update p shared w) := by
  refine hf.update ?_ ?_ ?_ (fun _ hh _ => List.mem_cons_of_mem _ hh) fun _ hg _ => hg
  · rw [hlocks, ← hf.locks]
    rfl
  · intro n hn
    rw [hawaited, Option.some.injEq, ← hf.locks] at hn
    exact ⟨u, hn ▸ List.mem_cons_self⟩
  · rw [hheld]
    exact nofun

theorem acquired (hf : s.Follows c) {u : Uuid} {n : Nat} (ha : c.locks.acquire n p = some shared.locks)
    (hheld : w.lock? = some n) (hawaited : w.awaited? = none) :
    ∃ s', s.take? ⟨p, u, n⟩ = some s' ∧ s'.Follows (c.update p shared w) := by
  rw [← hf.locks] at ha
  refine ⟨_, Option.map_eq_some_iff.mpr ⟨_, ha, rfl⟩, hf.update rfl ?_ ?_ ?_ ?_⟩
  · rw [hawaited]
    exact nofun
  · intro m hm
    rw [hheld, Option.some.injEq] at hm
    exact ⟨u, hm ▸ List.mem_cons_self⟩
  · exact fun _ hh hp => mem_erase_of_task_ne hh hp
  · exact fun _ hg _ => List.mem_cons_of_mem _ hg

theorem released (hf : s.Follows c) {u : Uuid} {n : Nat} (hlocks : shared.locks = c.locks.release n)
    (hheld : w.lock? = none) (hawaited : w.awaited? = none) :
    (s.drop ⟨p, u, n⟩).Follows (c.update p shared w) := by
  refine hf.update ?_ ?_ ?_ (fun _ hh _ => hh) fun _ hg hp => mem_erase_of_task_ne hg hp
  · rw [hlocks, ← hf.locks]
    rfl
  · rw [hawaited]
    exact nofun
  · rw [hheld]
    exact nofun

/-- **What a task does to the locks is a step of their use, or none.** -/
theorem turn (hf : s.Follows c) (hturn : c.locks.Turn p (c.work p) shared.locks w) :
    ∃ s', ReflTransGen Step s s' ∧ s'.Follows (c.update p shared w) := by
  generalize hlocks : shared.locks = l at hturn
  cases hturn with
  | kept hheld hawaited => exact ⟨s, .refl, hf.kept hlocks hheld hawaited⟩
  | fetched u hheld hawaited => exact ⟨_, .single (.fetch p u), hf.fetched hlocks hheld hawaited⟩
  | acquired hwaits ha hheld hawaited =>
    obtain ⟨u, hu⟩ := hf.waiting hwaits
    obtain ⟨s', htake, hf'⟩ := hf.acquired (hlocks ▸ ha) hheld hawaited
    exact ⟨s', .single (.take hu htake), hf'⟩
  | released hholds hheld hawaited =>
    obtain ⟨u, hu⟩ := hf.guards hholds
    exact ⟨_, .single (.drop hu), hf.released hlocks hheld hawaited⟩

/-- **Every step of a system is a step of the use of its locks, or none.** -/
theorem step (hf : s.Follows c) (hstep : Bursar.Step c d) :
    ∃ s', ReflTransGen Step s s' ∧ s'.Follows d := by
  rcases hstep with hstep | hstep
  · cases hstep with
    | spendArrives cmd hw => exact hf.turn (.kept (by rw [hw]; rfl) rfl)
    | reverseArrives u hw => exact hf.turn (.kept (by rw [hw]; rfl) rfl)
    | @spend p cmd run run' input shared hw _ h =>
      obtain ⟨s', hsteps, hf'⟩ := hf.turn (hw ▸ (SpendRun.move_of_step h).turn cmd)
      exact ⟨s', hsteps, hf'.locks, hf'.waiting, hf'.guards⟩
    | @reverse p u run run' stamp shared hw h =>
      exact hf.turn (hw ▸ (ReverseRun.move_of_step h).turn u)
  · cases hstep with
    | arrives new hw => exact hf.turn (.kept (by rw [hw]; rfl) rfl)
    | step hw _ _ => exact hf.turn (.kept (by rw [hw]; rfl) rfl)

end Follows

/-- **Spends and reversals are such tasks**: what they come to is what tasks can come to. -/
theorem exists_follows {c : System} (h : ReflTransGen Bursar.Step System.start c) :
    ∃ s : LockUse, s.Reachable ∧ s.Follows c := by
  induction h with
  | refl => exact ⟨start, .refl, .start⟩
  | tail _ hstep ih =>
    obtain ⟨s, hs, hf⟩ := ih
    obtain ⟨s', hsteps, hf'⟩ := hf.step hstep
    exact ⟨s', hs.trans hsteps, hf'⟩

end LockUse
end Bursar
