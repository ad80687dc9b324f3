import Bursar.Catalog.Lookup
import Bursar.Proofs.Table
import Mathlib.Logic.Relation

/-!
# The sections of a lookup

A lookup takes the cache for itself only for a moment at a time. What it reads there may be
over by then, in which case it comes back, looks again and takes the entry out; and the time
that an entry counts from is noted before the entry is put in. In between others may
use the cache, and time goes by.

`LookupCourse.step` is one such section. Sections that follow one another at once
are the steps of `LookupRun` (`LookupRun.course_of_step`).
-/

namespace Bursar

open Relation (ReflTransGen)

namespace MetadataCache

variable {c : MetadataCache} {key k : CacheKey} {e : CacheEntry} {now : Nat}

/-- Takes an entry out if its time is over. -/
def evict (c : MetadataCache) (now : Nat) (key : CacheKey) : MetadataCache :=
  match c.entries.get? key with
  | some e => if e.expires ≤ now then { c with entries := c.entries.erase key } else c
  | none => c

@[simp] theorem lifetime_evict (c : MetadataCache) (now : Nat) (key : CacheKey) :
    (c.evict now key).lifetime = c.lifetime := by
  unfold evict
  split
  · split <;> rfl
  · rfl

theorem evict_of_over (he : c.entries.get? key = some e) (h : e.expires ≤ now) :
    c.evict now key = { c with entries := c.entries.erase key } := by
  simp [evict, he, h]

/-- What is evicted was over. -/
theorem get?_evict_cases (c : MetadataCache) (now : Nat) (key k : CacheKey) :
    (c.evict now key).entries.get? k = c.entries.get? k ∨
      (c.evict now key).entries.get? k = none ∧
        ∃ e, c.entries.get? k = some e ∧ e.expires ≤ now := by
  cases he : c.entries.get? key with
  | none => exact .inl (by simp [evict, he])
  | some e =>
    by_cases hover : e.expires ≤ now
    · rw [evict_of_over he hover, Table.get?_erase]
      by_cases hk : k = key
      · subst hk
        exact .inr ⟨if_pos rfl, e, he, hover⟩
      · exact .inl (if_neg hk)
    · exact .inl (by simp [evict, he, hover])

theorem nodup_keys_evict (h : c.entries.keys.Nodup) (now : Nat) (key : CacheKey) :
    (c.evict now key).entries.keys.Nodup := by
  unfold evict
  split
  · split
    · exact Table.nodup_keys_erase h key
    · exact h
  · exact h

theorem nodup_keys_insert (h : c.entries.keys.Nodup) (now : Nat) (key : CacheKey)
    (m : ContentMetadata) : (c.insert now key m).entries.keys.Nodup :=
  Table.nodup_keys_insert (Table.nodup_keys_retain h _) key _

/-- What stands in the cache after an insertion is new, or stood there and is not over. -/
theorem get?_insert_cases (h : c.entries.keys.Nodup) {m : ContentMetadata}
    (he : (c.insert now key m).entries.get? k = some e) :
    (k = key ∧ e = ⟨m, now + c.lifetime⟩) ∨
      (k ≠ key ∧ c.entries.get? k = some e ∧ now < e.expires) := by
  rcases Table.get?_insert_cases he with hnew | ⟨hk, hold⟩
  · exact .inl hnew
  · obtain ⟨hstood, hfresh⟩ := (Table.get?_retain_eq_some_iff h).mp hold
    exact .inr ⟨hk, hstood, of_decide_eq_true hfresh⟩

end MetadataCache

/-- Where a lookup stands when it leaves the cache to others: what it does next. -/
inductive LookupCourse where
  /-- Read what the cache has. -/
  | arrived (key : CacheKey)
  /-- What was read is over: look again, and take it out. -/
  | evicting (key : CacheKey)
  /-- Hear the catalog. -/
  | asking (key : CacheKey)
  /-- Note the time. -/
  | stamping (key : CacheKey) (m : ContentMetadata)
  /-- Put the metadata into the cache, as of the time that was noted. -/
  | storing (key : CacheKey) (m : ContentMetadata) (stamp : Nat)
  | finished (result : Except MetadataError Lookup)

namespace LookupCourse

/-- One section of a lookup; `none` if the input is not what it waits for. -/
def step (c : MetadataCache) : LookupCourse → LookupInput → Option (MetadataCache × LookupCourse)
  | .arrived key, .proceed now =>
    match c.entries.get? key with
    | none => some (c, .asking key)
    | some e =>
      if now < e.expires then some (c, .finished (.ok { metadata := e.metadata, isHit := true }))
      else some (c, .evicting key)
  | .evicting key, .proceed now => some (c.evict now key, .asking key)
  | .asking key, .answered answer =>
    match LookupRun.ofAnswer answer with
    | .error e => some (c, .finished (.error e))
    | .ok m => some (c, .stamping key m)
  | .stamping key m, .proceed now => some (c, .storing key m now)
  | .storing key m stamp, .proceed _ =>
    some (c.insert stamp key m, .finished (.ok { metadata := m, isHit := false }))
  | _, _ => none

/-- What a lookup does in one section. -/
inductive Move (c : MetadataCache) : LookupCourse → LookupInput → MetadataCache → LookupCourse → Prop
  /-- What the cache has serves. -/
  | served {key e now} (he : c.entries.get? key = some e) (hnow : now < e.expires) :
      Move c (.arrived key) (.proceed now) c (.finished (.ok ⟨e.metadata, true⟩))
  | missed {key now} (he : c.entries.get? key = none) :
      Move c (.arrived key) (.proceed now) c (.asking key)
  | expired {key e now} (he : c.entries.get? key = some e) (hnow : e.expires ≤ now) :
      Move c (.arrived key) (.proceed now) c (.evicting key)
  | evicted {key now} : Move c (.evicting key) (.proceed now) (c.evict now key) (.asking key)
  /-- The catalog has no document, or the document no price. -/
  | failed {key answer e} (h : LookupRun.ofAnswer answer = .error e) :
      Move c (.asking key) (.answered answer) c (.finished (.error e))
  | resolved {key answer m} (h : LookupRun.ofAnswer answer = .ok m) :
      Move c (.asking key) (.answered answer) c (.stamping key m)
  | stamped {key m now} : Move c (.stamping key m) (.proceed now) c (.storing key m now)
  | stored {key m stamp now} :
      Move c (.storing key m stamp) (.proceed now) (c.insert stamp key m) (.finished (.ok ⟨m, false⟩))

theorem move_of_step {c c' : MetadataCache} {course course' : LookupCourse} {input : LookupInput}
    (h : course.step c input = some (c', course')) : Move c course input c' course' := by
  unfold step at h
  split at h
  · -- arrived
    split at h
    · obtain ⟨rfl, rfl⟩ := Prod.mk.inj (Option.some.inj h)
      exact .missed ‹_›
    · split at h <;> obtain ⟨rfl, rfl⟩ := Prod.mk.inj (Option.some.inj h)
      · exact .served ‹_› ‹_›
      · exact .expired ‹_› (by omega)
  · -- evicting
    obtain ⟨rfl, rfl⟩ := Prod.mk.inj (Option.some.inj h)
    exact .evicted
  · -- asking
    split at h <;> obtain ⟨rfl, rfl⟩ := Prod.mk.inj (Option.some.inj h)
    · exact .failed ‹_›
    · exact .resolved ‹_›
  · -- stamping
    obtain ⟨rfl, rfl⟩ := Prod.mk.inj (Option.some.inj h)
    exact .stamped
  · -- storing
    obtain ⟨rfl, rfl⟩ := Prod.mk.inj (Option.some.inj h)
    exact .stored
  · cases h

/-- The next section of a lookup that goes on at once. -/
def Next (input : LookupInput) (a b : MetadataCache × LookupCourse) : Prop :=
  a.2.step a.1 input = some b

end LookupCourse

/-- Where a lookup stands between two of its steps. -/
def LookupRun.course : LookupRun → LookupCourse
  | .arrived key => .arrived key
  | .asking key => .asking key
  | .storing key m => .stamping key m
  | .finished result => .finished result

/-- **A step of a lookup is its sections taken at once.** -/
theorem LookupRun.course_of_step {c c' : MetadataCache} {run run' : LookupRun} {input : LookupInput}
    (h : run.step c input = some (c', run')) :
    ReflTransGen (LookupCourse.Next input) (c, run.course) (c', run'.course) := by
  cases run with
  | arrived key =>
    cases input with
    | answered => cases h
    | proceed now =>
      cases he : c.entries.get? key with
      | none =>
        obtain ⟨rfl, rfl⟩ := by simpa [LookupRun.step, MetadataCache.get, he] using h
        exact .single (by simp [LookupCourse.Next, LookupCourse.step, LookupRun.course, he])
      | some e =>
        by_cases hnow : now < e.expires
        · obtain ⟨rfl, rfl⟩ := by simpa [LookupRun.step, MetadataCache.get, he, hnow] using h
          exact .single (by simp [LookupCourse.Next, LookupCourse.step, LookupRun.course, he, hnow])
        · -- two sections: the entry is read, and taken out
          obtain ⟨rfl, rfl⟩ := by simpa [LookupRun.step, MetadataCache.get, he, hnow] using h
          have hread : LookupCourse.Next (.proceed now) (c, .arrived key) (c, .evicting key) := by
            simp [LookupCourse.Next, LookupCourse.step, he, hnow]
          have hevicted : LookupCourse.Next (.proceed now) (c, .evicting key)
              ({ c with entries := c.entries.erase key }, .asking key) := by
            simp [LookupCourse.Next, LookupCourse.step,
              MetadataCache.evict_of_over he (Nat.le_of_not_lt hnow)]
          exact (ReflTransGen.single hread).tail hevicted
  | asking key =>
    cases input with
    | proceed => cases h
    | answered answer =>
      cases ha : LookupRun.ofAnswer answer with
      | error e =>
        obtain ⟨rfl, rfl⟩ := by simpa [LookupRun.step, ha] using h
        exact .single (by simp [LookupCourse.Next, LookupCourse.step, LookupRun.course, ha])
      | ok m =>
        obtain ⟨rfl, rfl⟩ := by simpa [LookupRun.step, ha] using h
        exact .single (by simp [LookupCourse.Next, LookupCourse.step, LookupRun.course, ha])
  | storing key m =>
    cases input with
    | answered => cases h
    | proceed now =>
      obtain ⟨rfl, rfl⟩ := by simpa [LookupRun.step] using h
      have hstamped : LookupCourse.Next (.proceed now) (c, .stamping key m) (c, .storing key m now) := rfl
      exact (ReflTransGen.single hstamped).tail rfl
  | finished => cases h

end Bursar
