import Bursar.Proofs.Catalog.Lookups

/-!
# What the cache answers

The uses of a cache, with their times, are a log from which nothing is ever taken off. What
it says about a key is the latest insertion under it since everything was taken out
(`CacheUse.latest`), as long as that one's time is not over (`CacheUse.serves`). The cache
answers as the log does (`answers_as_log`), although it forgets entries in three places.

An entry is only taken out when its time is over, and time does not go back. So of each key the
cache has what the log says, or it has nothing and what the log says is over
(`MetadataCache.Reflects`); every use keeps that.
-/

namespace Bursar

/-- What is done with a cache. -/
inductive CacheUse where
  | get (key : CacheKey)
  | insert (key : CacheKey) (m : ContentMetadata)
  | clear

/-- What was done with a cache and when, the latest first. -/
abbrev CacheLog := List (Nat × CacheUse)

/-- The times of a log do not go back, and none is after `now`. -/
def CacheLog.UpTo (now : Nat) (log : CacheLog) : Prop :=
  log.Pairwise (fun later earlier => earlier.1 ≤ later.1) ∧ ∀ u ∈ log, u.1 ≤ now

instance (now : Nat) (log : CacheLog) : Decidable (log.UpTo now) := inferInstanceAs (Decidable (_ ∧ _))

namespace CacheUse

/-- The latest insertion under a key since everything was taken out: its time and the metadata. -/
def latest (key : CacheKey) : CacheLog → Option (Nat × ContentMetadata)
  | [] => none
  | (now, .insert k m) :: earlier => if k = key then some (now, m) else latest key earlier
  | (_, .clear) :: _ => none
  | (_, .get _) :: earlier => latest key earlier

/-- What serves at a time by the log alone, each insertion for `lifetime` milliseconds. -/
def serves (lifetime : Nat) (log : CacheLog) (now : Nat) (key : CacheKey) : Option ContentMetadata :=
  (latest key log).bind fun (time, m) => if now < time + lifetime then some m else none

/-- The use takes nothing out that stands under the key, and puts nothing in there. -/
def Spares (key : CacheKey) (use : CacheUse) : Prop := use ≠ .clear ∧ ∀ m, use ≠ .insert key m

/-- **The latest insertion** under a key is the one after which the key was spared. -/
theorem latest_eq_some_iff {key : CacheKey} {log : CacheLog} {time : Nat} {m : ContentMetadata} :
    latest key log = some (time, m) ↔ ∃ later earlier,
      log = later ++ (time, .insert key m) :: earlier ∧ ∀ u ∈ later, u.2.Spares key := by
  constructor
  · intro h
    -- the log is read from the last use on, up to one that decides
    induction log with
    | nil => cases h
    | cons u log ih =>
      obtain ⟨now, use⟩ := u
      cases use with
      | get k =>
        obtain ⟨later, earlier, rfl, hspared⟩ := ih h
        refine ⟨(now, .get k) :: later, earlier, rfl, ?_⟩
        exact List.forall_mem_cons.mpr ⟨⟨nofun, nofun⟩, hspared⟩
      | insert k m' =>
        by_cases hk : k = key
        · subst hk
          obtain ⟨rfl, rfl⟩ : now = time ∧ m' = m := by simpa [latest] using h
          exact ⟨[], log, rfl, nofun⟩
        · obtain ⟨later, earlier, rfl, hspared⟩ := ih (by simpa [latest, hk] using h)
          refine ⟨(now, .insert k m') :: later, earlier, rfl, ?_⟩
          refine List.forall_mem_cons.mpr ⟨⟨nofun, ?_⟩, hspared⟩
          rintro _ ⟨⟩
          exact hk rfl
      | clear => cases h
  · rintro ⟨later, earlier, rfl, hspared⟩
    induction later with
    | nil => simp [latest]
    | cons u later ih =>
      obtain ⟨⟨hclear, hinsert⟩, hrest⟩ := List.forall_mem_cons.mp hspared
      obtain ⟨now, use⟩ := u
      cases use with
      | get k => exact ih hrest
      | insert k m' =>
        have hk : k ≠ key := by
          rintro rfl
          exact hinsert m' rfl
        simpa [latest, hk] using ih hrest
      | clear => exact absurd rfl hclear

theorem serves_eq_some_iff {lifetime now : Nat} {log : CacheLog} {key : CacheKey}
    {m : ContentMetadata} : serves lifetime log now key = some m ↔
      ∃ time, latest key log = some (time, m) ∧ now < time + lifetime := by
  unfold serves
  cases h : latest key log with
  | none => simp
  | some i => by_cases hnow : now < i.1 + lifetime <;> simp [hnow, Prod.ext_iff]

end CacheUse

namespace MetadataCache

open CacheUse

variable {c : MetadataCache} {log : CacheLog} {lifetime now later : Nat} {key k : CacheKey}

/-- The cache after a use. -/
def after (c : MetadataCache) (now : Nat) : CacheUse → MetadataCache
  | .get key => (c.get now key).2
  | .insert key m => c.insert now key m
  | .clear => c.clear

/-- The cache after all uses of a log, the latest of which stands first. -/
def run (lifetime : Nat) : CacheLog → MetadataCache
  | [] => .empty lifetime
  | (now, use) :: earlier => (run lifetime earlier).after now use

/-! ## Getting -/

theorem get_of_none (h : c.entries.get? key = none) (now : Nat) : c.get now key = (none, c) := by
  rw [get, h]

theorem get_of_some {e : CacheEntry} (h : c.entries.get? key = some e) (now : Nat) :
    c.get now key =
      if now < e.expires then (some e.metadata, c)
      else (none, { c with entries := c.entries.erase key }) := by
  rw [get, h]

/-- What is missed is gone, and a second look, however late it comes, takes out no more than that. -/
theorem evict_of_missed (h : (c.get now key).1 = none) (hle : now ≤ later) :
    c.evict later key = (c.get now key).2 := by
  cases he : c.entries.get? key with
  | none => simp [get_of_none he, evict, he]
  | some e =>
    rw [get_of_some he] at h ⊢
    by_cases hnow : now < e.expires
    · simp [hnow] at h
    · have hover : e.expires ≤ later := by omega
      rw [evict_of_over he hover, if_neg hnow]

theorem not_mem_of_missed (h : (c.get now key).1 = none) {e : CacheKey × CacheEntry}
    (he : e ∈ (c.get now key).2.entries.entries) : e.1 ≠ key := by
  intro hk
  have hgone : (c.get now key).2.entries.get? key = none := by
    cases hfound : c.entries.get? key with
    | none => rwa [get_of_none hfound]
    | some e =>
      rw [get_of_some hfound] at h ⊢
      by_cases hnow : now < e.expires
      · simp [hnow] at h
      · rw [if_neg hnow, Table.get?_erase, if_pos rfl]
  exact Table.get?_eq_none_iff.mp hgone (List.mem_map.mpr ⟨e, he, hk⟩)

/-! ## Inserting -/

/-- After an insertion there is the new entry, and nothing else whose time is over. -/
theorem mem_insert {m : ContentMetadata} {e : CacheKey × CacheEntry}
    (he : e ∈ (c.insert now key m).entries.entries) :
    e = (key, ⟨m, now + c.lifetime⟩) ∨ now < e.2.expires := by
  rcases Table.mem_put he with rfl | hkept
  · exact .inl rfl
  · exact .inr (of_decide_eq_true (List.mem_filter.mp hkept).2)

/-! ## What the cache keeps of its log -/

/-- **The cache has what the log says**, or nothing where what the log says is over. -/
structure Reflects (c : MetadataCache) (lifetime : Nat) (log : CacheLog) (now : Nat) : Prop where
  lifetime_eq : c.lifetime = lifetime
  nodup : c.entries.keys.Nodup
  found : ∀ {key e}, c.entries.get? key = some e →
    ∃ time, latest key log = some (time, e.metadata) ∧ e.expires = time + lifetime
  lost : ∀ {key time m}, c.entries.get? key = none → latest key log = some (time, m) →
    time + lifetime ≤ now

namespace Reflects

theorem empty (lifetime now : Nat) : (MetadataCache.empty lifetime).Reflects lifetime [] now where
  lifetime_eq := rfl
  nodup := List.nodup_nil
  found := nofun
  lost := nofun

/-- What is over stays over. -/
theorem mono (h : c.Reflects lifetime log now) (hle : now ≤ later) : c.Reflects lifetime log later where
  lifetime_eq := h.lifetime_eq
  nodup := h.nodup
  found := h.found
  lost hnone hlatest := Nat.le_trans (h.lost hnone hlatest) hle

/-- **The cache answers as its log does.** -/
theorem get_eq (h : c.Reflects lifetime log now) (key : CacheKey) :
    (c.get now key).1 = serves lifetime log now key := by
  unfold serves
  cases he : c.entries.get? key with
  | none =>
    rw [get_of_none he]
    cases hlatest : latest key log with
    | none => rfl
    | some i =>
      have hover : ¬ now < i.1 + lifetime := Nat.not_lt.mpr (h.lost he hlatest)
      simp [hover]
  | some e =>
    obtain ⟨time, hlatest, hexpires⟩ := h.found he
    rw [get_of_some he, hlatest, Option.bind_some, hexpires]
    by_cases hnow : now < time + lifetime <;> simp [hnow]

/-- An eviction loses what is over. -/
theorem get (h : c.Reflects lifetime log now) (key : CacheKey) :
    (c.get now key).2.Reflects lifetime ((now, .get key) :: log) now := by
  have hsame : c.Reflects lifetime ((now, .get key) :: log) now :=
    ⟨h.lifetime_eq, h.nodup, h.found, h.lost⟩
  cases he : c.entries.get? key with
  | none => rwa [get_of_none he]
  | some e =>
    rw [get_of_some he]
    by_cases hnow : now < e.expires
    · rwa [if_pos hnow]
    · rw [if_neg hnow]
      refine ⟨h.lifetime_eq, Table.nodup_keys_erase h.nodup key, ?_, ?_⟩
      · intro k r hr
        rw [Table.get?_erase] at hr
        by_cases hk : k = key
        · rw [if_pos hk] at hr
          cases hr
        · rw [if_neg hk] at hr
          exact h.found hr
      · intro k time m hnone hlatest
        by_cases hk : k = key
        · -- what was erased is the latest insertion, and its time is over
          subst hk
          obtain ⟨time', hlatest', hexpires⟩ := h.found he
          obtain ⟨rfl, -⟩ := Prod.mk.inj (Option.some.inj (hlatest'.symm.trans hlatest))
          omega
        · rw [Table.get?_erase, if_neg hk] at hnone
          exact h.lost hnone hlatest

/-- A sweep loses what is over, and what is put in is the latest. -/
theorem insert (h : c.Reflects lifetime log now) (key : CacheKey) (m : ContentMetadata) :
    (c.insert now key m).Reflects lifetime ((now, .insert key m) :: log) now where
  lifetime_eq := h.lifetime_eq
  nodup := nodup_keys_insert h.nodup now key m
  found := by
    intro k e he
    rcases get?_insert_cases h.nodup he with ⟨rfl, rfl⟩ | ⟨hk, hold, -⟩
    · exact ⟨now, by simp [latest], by rw [← h.lifetime_eq]⟩
    · obtain ⟨time, hlatest, hexpires⟩ := h.found hold
      exact ⟨time, by simpa [latest, Ne.symm hk] using hlatest, hexpires⟩
  lost := by
    intro k time m' hnone hlatest
    have hk : k ≠ key := by
      rintro rfl
      have hnew : (c.insert now k m).entries.get? k = some ⟨m, now + c.lifetime⟩ :=
        Table.get?_insert_self ..
      rw [hnew] at hnone
      cases hnone
    have hlatest' : latest k log = some (time, m') := by
      simpa [latest, Ne.symm hk] using hlatest
    cases hold : c.entries.get? k with
    | none => exact h.lost hold hlatest'
    | some e =>
      -- the entry was there and is not kept, so it was swept
      obtain ⟨time', hlatest'', hexpires⟩ := h.found hold
      obtain ⟨rfl, -⟩ := Prod.mk.inj (Option.some.inj (hlatest''.symm.trans hlatest'))
      by_contra hless
      have hkept : (c.entries.retain fun _ e => now < e.expires).get? k = some e := by
        refine (Table.get?_retain_eq_some_iff h.nodup).mpr ⟨hold, decide_eq_true ?_⟩
        omega
      have hthere : (c.insert now key m).entries.get? k = some e :=
        (Table.get?_insert_of_ne _ hk _).trans hkept
      rw [hthere] at hnone
      cases hnone

theorem clear (h : c.Reflects lifetime log now) :
    c.clear.Reflects lifetime ((now, .clear) :: log) now where
  lifetime_eq := h.lifetime_eq
  nodup := List.nodup_nil
  found := nofun
  lost := nofun

/-- Every use keeps the cache to its log. -/
theorem after (h : c.Reflects lifetime log now) (use : CacheUse) :
    (c.after now use).Reflects lifetime ((now, use) :: log) now := by
  cases use with
  | get key => exact h.get key
  | insert key m => exact h.insert key m
  | clear => exact h.clear

end Reflects

/-- **The cache keeps to its log** as long as time does not go back. -/
theorem reflects_run (lifetime : Nat) {log : CacheLog} {now : Nat} (h : log.UpTo now) :
    (run lifetime log).Reflects lifetime log now := by
  induction log generalizing now with
  | nil => exact .empty lifetime now
  | cons u earlier ih =>
    obtain ⟨hfirst, hordered⟩ := List.pairwise_cons.mp h.1
    have hnow : u.1 ≤ now := h.2 u List.mem_cons_self
    have hbefore := ih ⟨hordered, hfirst⟩
    exact (hbefore.after u.2).mono hnow

/-- **The cache answers as its log does**, and so as if nothing had ever been taken out: what it
serves is what was put in last under the key, since everything was taken out, if that is not over.
Neither a look at the cache nor what is put in under another key changes any later answer. After an
insertion nothing else is left whose time is over; and after a look that found nothing there is no
entry under the key, with or without a second look later. -/
theorem answers_as_log (lifetime : Nat) {log : CacheLog} {now : Nat} (h : log.UpTo now)
    (key : CacheKey) :
    ((run lifetime log).get now key).1 = serves lifetime log now key ∧
      (∀ m, ((run lifetime log).get now key).1 = some m ↔ ∃ time later earlier,
        log = later ++ (time, .insert key m) :: earlier ∧ (∀ u ∈ later, u.2.Spares key) ∧
          now < time + lifetime) ∧
      (∀ k later, now ≤ later →
        ((((run lifetime log).get now k).2.get later key).1 = ((run lifetime log).get later key).1)) ∧
      (∀ k m later, k ≠ key → now ≤ later →
        (((run lifetime log).insert now k m).get later key).1 = ((run lifetime log).get later key).1) ∧
      (∀ m, ∀ e ∈ ((run lifetime log).insert now key m).entries.entries,
        e = (key, ⟨m, now + lifetime⟩) ∨ now < e.2.expires) ∧
      (((run lifetime log).get now key).1 = none →
        (∀ e ∈ ((run lifetime log).get now key).2.entries.entries, e.1 ≠ key) ∧
          ∀ later, now ≤ later →
            (run lifetime log).evict later key = ((run lifetime log).get now key).2) := by
  have hrun := reflects_run lifetime h
  refine ⟨hrun.get_eq key, fun m => ?_, fun k later hle => ?_, fun k m later hk hle => ?_,
    fun m e he => ?_, fun hmissed => ⟨fun e he => not_mem_of_missed hmissed he, fun later hle => ?_⟩⟩
  · rw [hrun.get_eq, serves_eq_some_iff]
    constructor
    · rintro ⟨time, hlatest, hnow⟩
      obtain ⟨later, earlier, hlog, hspared⟩ := latest_eq_some_iff.mp hlatest
      exact ⟨time, later, earlier, hlog, hspared, hnow⟩
    · rintro ⟨time, later, earlier, hlog, hspared, hnow⟩
      exact ⟨time, latest_eq_some_iff.mpr ⟨later, earlier, hlog, hspared⟩, hnow⟩
  · -- to look is no insertion, so it is nothing to the log
    rw [((hrun.get k).mono hle).get_eq, (hrun.mono hle).get_eq]
    rfl
  · rw [((hrun.insert k m).mono hle).get_eq, (hrun.mono hle).get_eq]
    simp [serves, latest, hk]
  · rw [← hrun.lifetime_eq]
    exact mem_insert he
  · exact evict_of_missed hmissed hle

/-- A price is told twice, looked at in between, and then another one is. -/
def pricesTold : CacheLog :=
  [(7, .insert ("course-2", default) tenTold), (6, .get ("course-1", default)),
    (3, .insert ("course-1", default) { tenTold with source := "elsewhere" }),
    (0, .insert ("course-1", default) tenTold)]

theorem upTo_pricesTold : pricesTold.UpTo 7 := by decide

/-- The second telling serves until its own time is over, and not a millisecond longer. -/
theorem answers_as_log_pricesTold :
    pricesTold.UpTo 7 ∧ pricesTold.UpTo 8 ∧
      ((run 5 pricesTold).get 7 ("course-1", default)).1 = some { tenTold with source := "elsewhere" } ∧
      ((run 5 pricesTold).get 8 ("course-1", default)).1 = none ∧
      ∀ e ∈ ((run 5 pricesTold).get 8 ("course-1", default)).2.entries.entries,
        e.1 ≠ ("course-1", default) := by
  have hlater : pricesTold.UpTo 8 := by decide
  have hserved := (answers_as_log 5 upTo_pricesTold ("course-1", default)).1
  obtain ⟨hover, -, -, -, -, hgone⟩ := answers_as_log 5 hlater ("course-1", default)
  exact ⟨upTo_pricesTold, hlater, hserved, hover, (hgone hover).1⟩

end MetadataCache
end Bursar
