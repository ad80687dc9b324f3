import Bursar.Proofs.Catalog.Sections
import Mathlib.Logic.Function.Basic

/-!
# Lookups side by side

Any number of lookups use one cache. At each instant one of them goes through one section,
or time goes by; what the catalog answers is up to the catalog. A `Lookups` is the
cache, the clock and what each task is at, and beside these two records that no lookup
reads: what the catalog answered to whom, and who put what into the cache and when.

**Metadata is what the catalog said** (`lookup_tells_the_catalog`): whatever a lookup comes
to goes back to an answer of the catalog to the very question, its own or one that was
stored less than a lifetime ago. What carries this is that each entry of the cache goes
back to a storing, and each storing to an answer (`Lookups.Traced`), and that a task at
each station has on record what it needs to have there (`LookupCourse.Traced`).
-/

namespace Bursar

open Relation (ReflTransGen)

/-- What the catalog answered to a task. -/
structure CatalogCall where
  task : Nat
  key : CacheKey
  answer : Except CatalogError CatalogContent

/-- What a task put into the cache: it counts from `stamp`, and was put in at `time`. -/
structure Storing where
  task : Nat
  key : CacheKey
  metadata : ContentMetadata
  stamp : Nat
  time : Nat

namespace LookupCourse

/-- What the catalog is asked and answers in a section. -/
def call? (task : Nat) : LookupCourse → LookupInput → Option CatalogCall
  | .asking key, .answered answer => some { task, key, answer }
  | _, _ => none

/-- What is put into the cache in a section. -/
def storing? (task : Nat) : LookupCourse → LookupInput → Option Storing
  | .storing key metadata stamp, .proceed time => some { task, key, metadata, stamp, time }
  | _, _ => none

end LookupCourse

/-- The input is there at the given time. -/
def LookupInput.IsAt (time : Nat) : LookupInput → Prop
  | .proceed now => now = time
  | .answered _ => True

/-- What a task looks up, where it stands, and when it came there. -/
structure LookupTask where
  key : CacheKey
  course : LookupCourse
  since : Nat

/-- The cache, the clock, what each task is at, and what was asked and stored so far. -/
structure Lookups where
  cache : MetadataCache
  now : Nat
  work : Nat → Option LookupTask
  calls : List CatalogCall
  storings : List Storing

namespace Lookups

/-- Nothing is cached, and no task has started. -/
def start (lifetime now : Nat) : Lookups := ⟨.empty lifetime, now, fun _ => none, [], []⟩

/-- The calls that a task has made. -/
def callsOf (c : Lookups) (p : Nat) : List CatalogCall := c.calls.filter fun call => call.task = p

/-- What is there after task `p` came to `t` through a section that left `cache` behind. -/
def update (c : Lookups) (p : Nat) (cache : MetadataCache) (t : LookupTask) (call : Option CatalogCall)
    (storing : Option Storing) : Lookups where
  cache := cache
  now := c.now
  work := Function.update c.work p (some t)
  calls := c.calls ++ call.toList
  storings := c.storings ++ storing.toList

variable (c : Lookups) (p : Nat) (cache : MetadataCache) (t : LookupTask) (call : Option CatalogCall)
  (storing : Option Storing)

@[simp] theorem update_cache : (c.update p cache t call storing).cache = cache := rfl

@[simp] theorem update_now : (c.update p cache t call storing).now = c.now := rfl

@[simp] theorem update_work_self : (c.update p cache t call storing).work p = some t :=
  Function.update_self ..

theorem update_work_of_ne {q : Nat} (h : q ≠ p) :
    (c.update p cache t call storing).work q = c.work q := Function.update_of_ne h ..

end Lookups

/-- **A section of a lookup**, the arrival of one, or time going by. -/
inductive LookupStep : Lookups → Lookups → Prop
  | waits {c : Lookups} {now : Nat} (later : c.now ≤ now) : LookupStep c { c with now }
  | arrives {c : Lookups} {p : Nat} (key : CacheKey) (hw : c.work p = none) :
      LookupStep c (c.update p c.cache ⟨key, .arrived key, c.now⟩ none none)
  | goesOn {c : Lookups} {p since : Nat} {key : CacheKey} {course course' : LookupCourse}
      {input : LookupInput} {cache : MetadataCache} (hw : c.work p = some ⟨key, course, since⟩)
      (hnow : input.IsAt c.now) (h : course.step c.cache input = some (cache, course')) :
      LookupStep c (c.update p cache ⟨key, course', c.now⟩ (course.call? p input)
        (course.storing? p input))

namespace Lookups

/-- Task `p` asked for this key, and the catalog gave it a document that has this metadata. -/
def Told (c : Lookups) (p : Nat) (key : CacheKey) (m : ContentMetadata) : Prop :=
  ∃ call ∈ c.calls, call.task = p ∧ call.key = key ∧
    ∃ content, call.answer = .ok content ∧ ContentMetadata.ofCatalog content = .ok m

/-- A task was told the metadata for the key, and stored it by `time`, less than a lifetime before. -/
def StoredBefore (c : Lookups) (key : CacheKey) (m : ContentMetadata) (time : Nat) : Prop :=
  ∃ s ∈ c.storings, s.key = key ∧ s.metadata = m ∧ s.time ≤ time ∧
    time < s.time + c.cache.lifetime ∧ c.Told s.task key m

/-- The task stored nothing. -/
def StoredNothing (c : Lookups) (p : Nat) : Prop := ∀ s ∈ c.storings, s.task ≠ p

/-- The task has made one call, for the key, and the catalog answered it. -/
def AskedOnce (c : Lookups) (p : Nat) (key : CacheKey) (answer : Except CatalogError CatalogContent) :
    Prop :=
  c.callsOf p = [⟨p, key, answer⟩]

/-- The other cache has what this one has, but for entries whose time is over. -/
def Sheds (c : Lookups) (cache : MetadataCache) : Prop :=
  ∀ key, cache.entries.get? key = c.cache.entries.get? key ∨
    cache.entries.get? key = none ∧ ∃ e, c.cache.entries.get? key = some e ∧ e.expires ≤ c.now

end Lookups

theorem LookupRun.ofAnswer_eq_ok {answer : Except CatalogError CatalogContent} {m : ContentMetadata}
    (h : LookupRun.ofAnswer answer = .ok m) :
    ∃ content, answer = .ok content ∧ ContentMetadata.ofCatalog content = .ok m := by
  cases answer with
  | error e => cases h
  | ok content => exact ⟨content, rfl, h⟩

/-! ## What is on record -/

/-- What is true at each station of task `p` that came there, at `since`, to look up `key`. -/
def LookupCourse.Traced (c : Lookups) (p : Nat) (key : CacheKey) (since : Nat) : LookupCourse → Prop
  | .arrived k | .evicting k | .asking k => k = key ∧ c.callsOf p = [] ∧ c.StoredNothing p
  | .stamping k m => k = key ∧ c.StoredNothing p ∧
      ∃ answer, c.AskedOnce p key answer ∧ LookupRun.ofAnswer answer = .ok m
  | .storing k m stamp => k = key ∧ c.StoredNothing p ∧ stamp ≤ since ∧
      ∃ answer, c.AskedOnce p key answer ∧ LookupRun.ofAnswer answer = .ok m
  | .finished (.ok ⟨m, true⟩) => c.callsOf p = [] ∧ c.StoredNothing p ∧ c.StoredBefore key m since
  | .finished (.ok ⟨m, false⟩) =>
      ∃ answer, c.AskedOnce p key answer ∧ LookupRun.ofAnswer answer = .ok m
  | .finished (.error e) => c.StoredNothing p ∧
      ∃ answer, c.AskedOnce p key answer ∧ LookupRun.ofAnswer answer = .error e

namespace Lookups

/-- **Everything goes back to the catalog**: an entry to a storing, a storing to an answer, and
what a task has in hand to what is on record. -/
structure Traced (c : Lookups) : Prop where
  nodup : c.cache.entries.keys.Nodup
  entries : ∀ {key e}, c.cache.entries.get? key = some e →
    ∃ s ∈ c.storings, s.key = key ∧ s.metadata = e.metadata ∧ e.expires = s.stamp + c.cache.lifetime
  storings : ∀ {s}, s ∈ c.storings → s.stamp ≤ s.time ∧ s.time ≤ c.now ∧ c.Told s.task s.key s.metadata
  since : ∀ {p t}, c.work p = some t → t.since ≤ c.now
  tasks : ∀ {p key course since}, c.work p = some ⟨key, course, since⟩ → course.Traced c p key since
  unmet : ∀ {p}, c.work p = none → c.callsOf p = [] ∧ c.StoredNothing p

theorem traced_start (lifetime now : Nat) : (start lifetime now).Traced where
  nodup := List.nodup_nil
  entries := nofun
  storings := nofun
  since := nofun
  tasks := nofun
  unmet := fun _ => ⟨rfl, nofun⟩

variable {c d : Lookups} {p q : Nat} {key k : CacheKey} {m : ContentMetadata}

theorem Told.mono (h : c.Told p k m) (hc : c.calls ⊆ d.calls) : d.Told p k m := by
  obtain ⟨call, hmem, hrest⟩ := h
  exact ⟨call, hc hmem, hrest⟩

theorem StoredBefore.mono {time : Nat} (h : c.StoredBefore k m time) (hc : c.calls ⊆ d.calls)
    (hs : c.storings ⊆ d.storings) (hl : d.cache.lifetime = c.cache.lifetime) :
    d.StoredBefore k m time := by
  obtain ⟨s, hmem, hkey, hm, htime, hless, htold⟩ := h
  exact ⟨s, hs hmem, hkey, hm, htime, by rwa [hl], htold.mono hc⟩

theorem AskedOnce.told {answer : Except CatalogError CatalogContent} (h : c.AskedOnce p key answer)
    (ha : LookupRun.ofAnswer answer = .ok m) : c.Told p key m := by
  have hmem : (⟨p, key, answer⟩ : CatalogCall) ∈ c.callsOf p := by
    rw [h]
    exact List.mem_singleton_self _
  exact ⟨_, (List.mem_filter.mp hmem).1, rfl, rfl, LookupRun.ofAnswer_eq_ok ha⟩

/-- What another task asks and stores changes nothing for a task. -/
theorem traced_of_same {course : LookupCourse} {since : Nat} (h : course.Traced c q key since)
    (hcalls : d.callsOf q = c.callsOf q) (hnothing : c.StoredNothing q → d.StoredNothing q)
    (htold : c.calls ⊆ d.calls) (hstored : c.storings ⊆ d.storings)
    (hl : d.cache.lifetime = c.cache.lifetime) : course.Traced d q key since := by
  have hasked {answer : Except CatalogError CatalogContent} (ha : c.AskedOnce q key answer) :
      d.AskedOnce q key answer := hcalls.trans ha
  cases course with
  | arrived | evicting | asking => exact ⟨h.1, hcalls.trans h.2.1, hnothing h.2.2⟩
  | stamping =>
    obtain ⟨hk, hs, answer, ha, hm⟩ := h
    exact ⟨hk, hnothing hs, answer, hasked ha, hm⟩
  | storing =>
    obtain ⟨hk, hs, hstamp, answer, ha, hm⟩ := h
    exact ⟨hk, hnothing hs, hstamp, answer, hasked ha, hm⟩
  | finished result =>
    rcases result with e | ⟨m, isHit⟩
    · obtain ⟨hs, answer, ha, he⟩ := h
      exact ⟨hnothing hs, answer, hasked ha, he⟩
    · cases isHit with
      | true =>
        obtain ⟨hnone, hs, hb⟩ := h
        exact ⟨hcalls.trans hnone, hnothing hs, hb.mono htold hstored hl⟩
      | false =>
        obtain ⟨answer, ha, hm⟩ := h
        exact ⟨answer, hasked ha, hm⟩

/-- A section in which the catalog is not heard adds no call. -/
theorem callsOf_update_none {cache : MetadataCache} {t : LookupTask} {storing : Option Storing} :
    (c.update p cache t none storing).callsOf p = c.callsOf p := by
  rw [callsOf, callsOf, Lookups.update, Option.toList_none, List.append_nil]

/-- The first call is the only one. -/
theorem askedOnce_update {cache : MetadataCache} {t : LookupTask} {storing : Option Storing}
    {answer : Except CatalogError CatalogContent} (h : c.callsOf p = []) :
    (c.update p cache t (some ⟨p, key, answer⟩) storing).AskedOnce p key answer := by
  have hold : c.calls.filter (fun x => x.task = p) = [] := h
  simp [AskedOnce, callsOf, Lookups.update, hold]

/-- A section adds no call to the record of another task. -/
theorem callsOf_update_of_ne {cache : MetadataCache} {t : LookupTask} {call : Option CatalogCall}
    {storing : Option Storing} (hq : q ≠ p) (hcall : ∀ {x}, call = some x → x.task = p) :
    (c.update p cache t call storing).callsOf q = c.callsOf q := by
  have hnone : call.toList.filter (fun x => x.task = q) = [] := by
    rw [List.filter_eq_nil_iff]
    intro x hx
    have hp := hcall (Option.mem_toList.mp hx)
    simpa [hp] using Ne.symm hq
  rw [callsOf, callsOf, Lookups.update, List.filter_append, hnone, List.append_nil]

/-- A section stores nothing for another task. -/
theorem StoredNothing.update_of_ne (h : c.StoredNothing q) {cache : MetadataCache} {t : LookupTask}
    {call : Option CatalogCall} {storing : Option Storing} (hq : q ≠ p)
    (hstoring : ∀ {s}, storing = some s → s.task = p) :
    (c.update p cache t call storing).StoredNothing q := by
  intro s hmem
  rcases List.mem_append.mp hmem with hold | hnew
  · exact h s hold
  · rw [hstoring (Option.mem_toList.mp hnew)]
    exact Ne.symm hq

theorem StoredNothing.update_none (h : c.StoredNothing p) {cache : MetadataCache} {t : LookupTask}
    {call : Option CatalogCall} : (c.update p cache t call none).StoredNothing p := by
  intro s hs
  rw [Lookups.update, Option.toList_none, List.append_nil] at hs
  exact h s hs

namespace Traced

/-- A section keeps everything traced, if what it stores and leaves in the cache is, and its own
task is. -/
theorem update (h : c.Traced) {cache : MetadataCache} {t : LookupTask} {call : Option CatalogCall}
    {storing : Option Storing} (hl : cache.lifetime = c.cache.lifetime)
    (hcall : ∀ {x}, call = some x → x.task = p) (hstoring : ∀ {s}, storing = some s → s.task = p)
    (hnodup : cache.entries.keys.Nodup)
    (hentries : ∀ {key e}, cache.entries.get? key = some e → c.cache.entries.get? key = some e ∨
      ∃ s, storing = some s ∧ s.key = key ∧ s.metadata = e.metadata ∧
        e.expires = s.stamp + c.cache.lifetime)
    (hstored : ∀ {s}, storing = some s →
      s.stamp ≤ s.time ∧ s.time ≤ c.now ∧ c.Told s.task s.key s.metadata)
    (hsince : t.since ≤ c.now)
    (htask : t.course.Traced (c.update p cache t call storing) p t.key t.since) :
    (c.update p cache t call storing).Traced := by
  have hcalls : c.calls ⊆ (c.update p cache t call storing).calls := List.subset_append_left ..
  have hstorings : c.storings ⊆ (c.update p cache t call storing).storings :=
    List.subset_append_left ..
  refine ⟨hnodup, ?_, ?_, ?_, ?_, ?_⟩
  · intro key e he
    rw [update_cache, hl]
    rcases hentries he with hold | ⟨s, hs, hrest⟩
    · obtain ⟨s, hs, hrest⟩ := h.entries hold
      exact ⟨s, hstorings hs, hrest⟩
    · exact ⟨s, List.mem_append_right _ (Option.mem_toList.mpr hs), hrest⟩
  · intro s hs
    rcases List.mem_append.mp hs with hs | hs
    · obtain ⟨hstamp, htime, htold⟩ := h.storings hs
      exact ⟨hstamp, htime, htold.mono hcalls⟩
    · obtain ⟨hstamp, htime, htold⟩ := hstored (Option.mem_toList.mp hs)
      exact ⟨hstamp, htime, htold.mono hcalls⟩
  · intro q t' hq
    by_cases hqp : q = p
    · rw [hqp, update_work_self] at hq
      obtain rfl := Option.some.inj hq
      exact hsince
    · rw [c.update_work_of_ne _ _ _ _ _ hqp] at hq
      exact h.since hq
  · intro q key course since hq
    by_cases hqp : q = p
    · rw [hqp, update_work_self] at hq
      obtain rfl := Option.some.inj hq
      rw [hqp]
      exact htask
    · rw [c.update_work_of_ne _ _ _ _ _ hqp] at hq
      exact traced_of_same (h.tasks hq) (callsOf_update_of_ne hqp hcall)
        (fun hs => hs.update_of_ne hqp hstoring)
        hcalls hstorings hl
  · intro q hq
    have hqp : q ≠ p := by
      rintro rfl
      rw [update_work_self] at hq
      cases hq
    rw [c.update_work_of_ne _ _ _ _ _ hqp] at hq
    exact ⟨(callsOf_update_of_ne hqp hcall).trans (h.unmet hq).1, (h.unmet hq).2.update_of_ne hqp hstoring⟩

/-- A section that stores nothing, and leaves no entry behind that was not there. -/
theorem update_quiet (h : c.Traced) {cache : MetadataCache} {t : LookupTask}
    {call : Option CatalogCall} (hl : cache.lifetime = c.cache.lifetime)
    (hcall : ∀ {x}, call = some x → x.task = p) (hnodup : cache.entries.keys.Nodup)
    (hentries : ∀ {key e}, cache.entries.get? key = some e → c.cache.entries.get? key = some e)
    (hsince : t.since ≤ c.now)
    (htask : t.course.Traced (c.update p cache t call none) p t.key t.since) :
    (c.update p cache t call none).Traced :=
  h.update hl hcall nofun hnodup (fun he => .inl (hentries he)) nofun hsince htask

/-- Time goes by. -/
theorem later (h : c.Traced) {now : Nat} (hnow : c.now ≤ now) : ({ c with now } : Lookups).Traced where
  nodup := h.nodup
  entries := h.entries
  storings := by
    intro s hs
    obtain ⟨hstamp, htime, htold⟩ := h.storings hs
    exact ⟨hstamp, Nat.le_trans htime hnow, htold⟩
  since := fun hw => Nat.le_trans (h.since hw) hnow
  tasks := h.tasks
  unmet := h.unmet

/-- What is in the cache and serves was stored not long ago. -/
theorem storedBefore_of_served (h : c.Traced) {e : CacheEntry}
    (he : c.cache.entries.get? key = some e) (hnow : c.now < e.expires) :
    c.StoredBefore key e.metadata c.now := by
  obtain ⟨s, hs, rfl, hm, hexpires⟩ := h.entries he
  obtain ⟨hstamp, htime, htold⟩ := h.storings hs
  rw [hm] at htold
  exact ⟨s, hs, rfl, hm, htime, by omega, htold⟩

theorem goesOn (h : c.Traced) {since : Nat} {course course' : LookupCourse} {input : LookupInput}
    {cache : MetadataCache} (hw : c.work p = some ⟨key, course, since⟩) (hnow : input.IsAt c.now)
    (hm : LookupCourse.Move c.cache course input cache course') :
    (c.update p cache ⟨key, course', c.now⟩ (course.call? p input) (course.storing? p input)).Traced := by
  have htask := h.tasks hw
  -- what is traced of the task before the section, with what it hears in it, is what is traced after
  cases hm with
  | @served k e now he hlt =>
    obtain ⟨rfl, hcalls, hnothing⟩ := htask
    obtain rfl := hnow
    have hbefore := h.storedBefore_of_served he hlt
    refine h.update_quiet rfl nofun h.nodup id (Nat.le_refl _) ?_
    exact ⟨callsOf_update_none.trans hcalls, hnothing.update_none,
      hbefore.mono (List.subset_append_left ..) (List.subset_append_left ..) rfl⟩
  | missed | expired =>
    obtain ⟨rfl, hcalls, hnothing⟩ := htask
    refine h.update_quiet rfl nofun h.nodup id (Nat.le_refl _) ?_
    exact ⟨rfl, callsOf_update_none.trans hcalls, hnothing.update_none⟩
  | @evicted k now =>
    obtain ⟨rfl, hcalls, hnothing⟩ := htask
    refine h.update_quiet (c.cache.lifetime_evict now k) nofun (c.cache.nodup_keys_evict h.nodup now k)
      ?_ (Nat.le_refl _) ?_
    · intro key e he
      rcases c.cache.get?_evict_cases now k key with hkept | ⟨hnone, -⟩
      · rwa [← hkept]
      · rw [hnone] at he
        cases he
    · exact ⟨rfl, callsOf_update_none.trans hcalls, hnothing.update_none⟩
  | @failed k answer e he =>
    obtain ⟨rfl, hcalls, hnothing⟩ := htask
    refine h.update_quiet rfl ?_ h.nodup id (Nat.le_refl _) ?_
    · intro x hx
      obtain rfl := Option.some.inj hx
      rfl
    · exact ⟨hnothing.update_none, answer, askedOnce_update hcalls, he⟩
  | @resolved k answer m ha =>
    obtain ⟨rfl, hcalls, hnothing⟩ := htask
    refine h.update_quiet rfl ?_ h.nodup id (Nat.le_refl _) ?_
    · intro x hx
      obtain rfl := Option.some.inj hx
      rfl
    · exact ⟨rfl, hnothing.update_none, answer, askedOnce_update hcalls, ha⟩
  | stamped =>
    obtain ⟨rfl, hnothing, answer, hasked, ha⟩ := htask
    obtain rfl := hnow
    refine h.update_quiet rfl nofun h.nodup id (Nat.le_refl _) ?_
    exact ⟨rfl, hnothing.update_none, Nat.le_refl _, answer, callsOf_update_none.trans hasked, ha⟩
  | @stored k m stamp now =>
    obtain ⟨rfl, -, hstamp, answer, hasked, ha⟩ := htask
    obtain rfl := hnow
    have hstamped : stamp ≤ c.now := Nat.le_trans hstamp (h.since hw)
    refine h.update rfl nofun ?_ (c.cache.nodup_keys_insert h.nodup stamp k m) ?_ ?_ (Nat.le_refl _) ?_
    · intro s hs
      obtain rfl := Option.some.inj hs
      rfl
    · intro key' e he
      rcases MetadataCache.get?_insert_cases h.nodup he with ⟨rfl, rfl⟩ | ⟨-, hold, -⟩
      · exact .inr ⟨_, rfl, rfl, rfl, rfl⟩
      · exact .inl hold
    · intro s hs
      obtain rfl := Option.some.inj hs
      exact ⟨hstamped, Nat.le_refl _, hasked.told ha⟩
    · exact ⟨answer, callsOf_update_none.trans hasked, ha⟩

/-- **Every step keeps everything traced.** -/
theorem step (h : c.Traced) (hstep : LookupStep c d) : d.Traced := by
  cases hstep with
  | waits hnow => exact h.later hnow
  | @arrives p key hw =>
    obtain ⟨hcalls, hnothing⟩ := h.unmet hw
    refine h.update_quiet rfl nofun h.nodup id (Nat.le_refl _) ?_
    exact ⟨rfl, callsOf_update_none.trans hcalls, hnothing.update_none⟩
  | goesOn hw hnow hstep => exact h.goesOn hw hnow (LookupCourse.move_of_step hstep)

theorem steps (h : c.Traced) (hsteps : ReflTransGen LookupStep c d) : d.Traced := by
  induction hsteps with
  | refl => exact h
  | tail _ hstep ih => exact ih.step hstep

end Traced

/-- No step changes how long entries serve. -/
theorem lifetime_of_step (h : LookupStep c d) : d.cache.lifetime = c.cache.lifetime := by
  cases h with
  | waits | arrives => rfl
  | goesOn _ _ hstep =>
    cases LookupCourse.move_of_step hstep with
    | evicted => exact c.cache.lifetime_evict ..
    | served | missed | expired | failed | resolved | stamped | stored => rfl

theorem lifetime_of_steps (h : ReflTransGen LookupStep c d) :
    d.cache.lifetime = c.cache.lifetime := by
  induction h with
  | refl => rfl
  | tail _ hstep ih => exact (lifetime_of_step hstep).trans ih

/-! ## What a step does to the cache -/

/-- In this step task `p` stores the metadata under the key, and is over. -/
def StoresAt (c d : Lookups) (p : Nat) (key : CacheKey) (m : ContentMetadata) : Prop :=
  ∃ stamp since, c.work p = some ⟨key, .storing key m stamp, since⟩ ∧
    d.work p = some ⟨key, .finished (.ok ⟨m, false⟩), c.now⟩ ∧
    d.cache = c.cache.insert stamp key m

theorem sheds_refl (c : Lookups) : c.Sheds c.cache := fun _ => .inl rfl

/-- **A step takes out what is over, and nothing else happens to the cache**, unless it is the last
step of a lookup that stores what it found. -/
theorem Traced.sheds_of_step (h : c.Traced) (hstep : LookupStep c d) :
    c.Sheds d.cache ∨ ∃ p key m, c.StoresAt d p key m := by
  cases hstep with
  | waits | arrives => exact .inl c.sheds_refl
  | @goesOn p since key _ _ _ _ hw hnow hstep =>
    have htask := h.tasks hw
    cases LookupCourse.move_of_step hstep with
    | served | missed | expired | failed | resolved | stamped => exact .inl c.sheds_refl
    | evicted =>
      obtain rfl := hnow
      exact .inl fun k => c.cache.get?_evict_cases c.now _ k
    | stored =>
      obtain ⟨rfl, -⟩ := htask
      exact .inr ⟨p, _, _, _, _, hw, update_work_self .., rfl⟩

/-! ## Undivided steps -/

/-- **A step of a lookup is some sections of its task**: where a task takes an undivided step, the
lookups come to the same by sections, at the same time and with nobody in between. -/
theorem steps_of_run {since : Nat} {run run' : LookupRun} {input : LookupInput} {cache : MetadataCache}
    (hw : c.work p = some ⟨key, run.course, since⟩) (hnow : input.IsAt c.now)
    (hstep : run.step c.cache input = some (cache, run')) :
    ∃ d, ReflTransGen LookupStep c d ∧ d.cache = cache ∧ d.now = c.now ∧
      (∃ since', d.work p = some ⟨key, run'.course, since'⟩) ∧ ∀ q, q ≠ p → d.work q = c.work q := by
  suffices h : ∀ b, ReflTransGen (LookupCourse.Next input) (c.cache, run.course) b →
      ∃ d, ReflTransGen LookupStep c d ∧ d.cache = b.1 ∧ d.now = c.now ∧
        (∃ since', d.work p = some ⟨key, b.2, since'⟩) ∧ ∀ q, q ≠ p → d.work q = c.work q from
    h _ (LookupRun.course_of_step hstep)
  intro b hb
  induction hb with
  | refl => exact ⟨c, .refl, rfl, rfl, ⟨since, hw⟩, fun _ _ => rfl⟩
  | @tail b b' _ hnext ih =>
    obtain ⟨d, hsteps, hcache, hd, ⟨since', hwork⟩, hothers⟩ := ih
    rw [LookupCourse.Next, ← hcache] at hnext
    refine ⟨_, hsteps.tail (.goesOn hwork (hd ▸ hnow) hnext), rfl, hd, ⟨_, update_work_self ..⟩, ?_⟩
    intro q hq
    exact (d.update_work_of_ne _ _ _ _ _ hq).trans (hothers q hq)

end Lookups

/-- **Metadata is what the catalog said**, whatever the catalog answers and when, however long
entries serve, and whatever lookups do side by side.

A lookup that the cache served has asked nothing, and its metadata is that of a document
which the catalog gave for the very content and enterprise to whoever stored it under them,
less than a lifetime before. A lookup that it did not serve has asked once, for its own
content and enterprise, and comes to the metadata of the document it was given, or fails
for the answer it was given or for want of a price; if it fails, it has stored nothing. And
a step changes the cache only by taking out what is over, unless it is the last one of a
lookup that succeeds and stores what it found, under its own key. -/
theorem lookup_tells_the_catalog {lifetime began : Nat} {c : Lookups}
    (h : ReflTransGen LookupStep (.start lifetime began) c) :
    (∀ {p : Nat} {key : CacheKey} {result : Except MetadataError Lookup} {time : Nat},
      c.work p = some ⟨key, .finished result, time⟩ →
      (∀ m, result = .ok ⟨m, true⟩ → c.callsOf p = [] ∧
        ∃ s ∈ c.storings, s.key = key ∧ s.metadata = m ∧ s.time ≤ time ∧ time < s.time + lifetime ∧
          ∃ call ∈ c.calls, call.task = s.task ∧ call.key = key ∧
            ∃ content, call.answer = .ok content ∧ ContentMetadata.ofCatalog content = .ok m) ∧
      (∀ m, result = .ok ⟨m, false⟩ → ∃ content, c.callsOf p = [⟨p, key, .ok content⟩] ∧
        ContentMetadata.ofCatalog content = .ok m) ∧
      (∀ e, result = .error e → (∀ s ∈ c.storings, s.task ≠ p) ∧
        ∃ answer, c.callsOf p = [⟨p, key, answer⟩] ∧ LookupRun.ofAnswer answer = .error e)) ∧
    ∀ {d : Lookups}, LookupStep c d → c.Sheds d.cache ∨ ∃ p key m, c.StoresAt d p key m := by
  have htraced := (Lookups.traced_start lifetime began).steps h
  have hlifetime : c.cache.lifetime = lifetime := Lookups.lifetime_of_steps h
  refine ⟨fun {p key result time} hw => ⟨?_, ?_, ?_⟩, htraced.sheds_of_step⟩
  · rintro m rfl
    obtain ⟨hcalls, -, s, hs, hkey, hm, htime, hless, htold⟩ := htraced.tasks hw
    rw [hlifetime] at hless
    exact ⟨hcalls, s, hs, hkey, hm, htime, hless, htold⟩
  · rintro m rfl
    obtain ⟨answer, hasked, ha⟩ := htraced.tasks hw
    obtain ⟨content, rfl, hm⟩ := LookupRun.ofAnswer_eq_ok ha
    exact ⟨content, hasked, hm⟩
  · rintro e rfl
    exact htraced.tasks hw

/-! ### A price is looked up twice -/

/-- The decimal `10`. -/
def Decimal.ten : Decimal := ⟨false, 10, 0, Nat.le_of_ble_eq_true rfl, Nat.zero_le _⟩

/-- A course that costs ten. -/
def tenPriced : CatalogContent where
  key := "course-1"
  uuid := default
  contentType := none
  entitlements := [⟨some "verified", .ten, none, none⟩]
  productSource := none

/-- What is told about it. -/
def tenTold : ContentMetadata :=
  ⟨default, "course-1", ContentMetadata.ownSource, .ten⟩

/-- Task 1 asks the catalog; task 2 comes two milliseconds later, within the lifetime of five. -/
theorem steps_tenTold : ∃ c, ReflTransGen LookupStep (.start 5 0) c ∧
    c.storings = [⟨1, ("course-1", default), tenTold, 0, 0⟩] ∧
    c.work 1 = some ⟨("course-1", default), .finished (.ok ⟨tenTold, false⟩), 0⟩ ∧
    c.work 2 = some ⟨("course-1", default), .finished (.ok ⟨tenTold, true⟩), 2⟩ := by
  let key : CacheKey := ("course-1", default)
  have harrived : ReflTransGen LookupStep (.start 5 0) _ := .single (.arrives (p := 1) key rfl)
  have hmissed := harrived.tail (.goesOn (p := 1) rfl (show (LookupInput.proceed 0).IsAt 0 from rfl) rfl)
  have htold := hmissed.tail
    (.goesOn (p := 1) rfl (show (LookupInput.answered (.ok tenPriced)).IsAt 0 from trivial) rfl)
  have hstamped := htold.tail (.goesOn (p := 1) rfl (show (LookupInput.proceed 0).IsAt 0 from rfl) rfl)
  have hstored := hstamped.tail (.goesOn (p := 1) rfl (show (LookupInput.proceed 0).IsAt 0 from rfl) rfl)
  have hlater := hstored.tail (.waits (show 0 ≤ 2 by decide))
  have hcame := hlater.tail (.arrives (p := 2) key rfl)
  have hserved := hcame.tail (.goesOn (p := 2) rfl (show (LookupInput.proceed 2).IsAt 2 from rfl) rfl)
  exact ⟨_, hserved, rfl, rfl, rfl⟩

theorem lookup_tells_the_catalog_tenTold :
    ∃ c, ReflTransGen LookupStep (.start 5 0) c ∧ c.callsOf 2 = [] ∧
      (∃ content, c.callsOf 1 = [⟨1, ("course-1", default), .ok content⟩] ∧
        ContentMetadata.ofCatalog content = .ok tenTold) ∧
      ∃ s ∈ c.storings, s.metadata = tenTold ∧ 2 < s.time + 5 := by
  obtain ⟨c, hsteps, -, hmissed, hserved⟩ := steps_tenTold
  obtain ⟨hover, -⟩ := lookup_tells_the_catalog hsteps
  obtain ⟨hcalls, s, hs, -, hm, -, hless, -⟩ := (hover hserved).1 _ rfl
  exact ⟨c, hsteps, hcalls, (hover hmissed).2.1 _ rfl, s, hs, hm, hless⟩

end Bursar
