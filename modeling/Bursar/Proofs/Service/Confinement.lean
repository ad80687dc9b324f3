import Bursar.Proofs.Ledger.Writes
import Bursar.Proofs.Service.Acts
import Bursar.Proofs.Spend.Alone

/-!
# Acts are confined to one enterprise

An act is for one capability over one enterprise: a spend or a reversal for creating
transactions over the enterprise of its subsidy, a lookup for reading metadata over
the enterprise of its key (`Act.For`). Taken alone it does nothing for any other
(`World.doing_confined`). The store changes, if at all, in the records of one ledger,
that of a subsidy of the enterprise, and every call of a collaborator is made for
the enterprise and is of the kind that the capability is needed for.
-/

namespace Bursar

/-! ## Changes at one ledger -/

namespace Store

/-- The store is another one only in the records of the ledger. -/
structure DiffersAt (ledger : Uuid) (s s' : Store) : Prop where
  subsidies : s'.subsidies = s.subsidies
  transactions : ∀ {u t}, s'.transactions.get? u = some t →
    s.transactions.get? u = some t ∨ t.ledgerUuid = ledger
  ledgers : ∀ {v}, v ≠ ledger → s'.ledgers.get? v = s.ledgers.get? v
  liveKeys : ∀ {v key}, v ≠ ledger → s'.liveKeys.get? (v, key) = s.liveKeys.get? (v, key)

variable {s s' : Store} {t : Transaction}

theorem differsAt_of_append (h : s.append t = (.ok t, s')) : s.DiffersAt t.ledgerUuid s' := by
  obtain ⟨-, l, -, rfl⟩ := recorded_of_append h
  refine ⟨rfl, fun {u t'} ht' => ?_, fun hv => Table.get?_insert_of_ne _ hv _, fun {v key} hv => ?_⟩
  · rcases Table.get?_insert_cases ht' with ⟨-, rfl⟩ | ⟨-, ht'⟩
    · exact .inr rfl
    · exact .inl ht'
  · refine Table.get?_insert_of_ne _ (fun he => ?_) _
    exact hv (Prod.mk.inj he).1

theorem differsAt_of_reverse {u : Uuid} {stamp : Stamp} (h : s.reverse u stamp = (.ok t, s')) :
    ∃ t₀, s.transaction? u = some t₀ ∧ s.DiffersAt t₀.ledgerUuid s' := by
  obtain ⟨t₀, ht, rfl, rfl⟩ := reversed_of_reverse h
  refine ⟨t₀, ht.stored, rfl, fun {v t'} ht' => ?_, fun _ => rfl, fun _ => rfl⟩
  rcases Table.get?_insert_cases ht' with ⟨-, rfl⟩ | ⟨-, ht'⟩
  · exact .inr rfl
  · exact .inl ht'

/-- **The store is the same, or differs for the enterprise**: in the records of the ledger of
one of its subsidies, which takes the capability to create transactions. -/
def DiffersFor (capability : Capability) (enterprise : Uuid) (s s' : Store) : Prop :=
  s' = s ∨ capability = .createTransactions ∧
    ∃ x ∈ s.subsidies.values, x.enterprise = enterprise ∧ s.DiffersAt x.ledgerUuid s'

theorem mem_values_of_subsidy {u : Uuid} {x : Subsidy} (hx : s.subsidy? u = some x) :
    x ∈ s.subsidies.values :=
  List.mem_map.mpr ⟨(u, x), Table.mem_entries_of_get? hx, rfl⟩

theorem subsidyOfLedger_eq_some {ledger : Uuid} {x : Subsidy}
    (hx : s.subsidyOfLedger? ledger = some x) : x ∈ s.subsidies.values ∧ x.ledgerUuid = ledger :=
  ⟨List.mem_of_find?_eq_some hx, by simpa using List.find?_some hx⟩

theorem Spends.differsFor {x : Subsidy} {result : Except SpendError SpendOutcome}
    (h : s.Spends x s' result) (hx : x ∈ s.subsidies.values) :
    s.DiffersFor .createTransactions x.enterprise s' := by
  cases h with
  | kept => exact .inl rfl
  | appended ha hledger => exact .inr ⟨rfl, x, hx, rfl, hledger ▸ differsAt_of_append ha⟩

theorem Reverses.differsFor {u : Uuid} {x : Subsidy} {result : Except SpendError Transaction}
    (h : s.Reverses u s' result) (ht : s.transaction? u = some t)
    (hx : s.subsidyOfLedger? t.ledgerUuid = some x) :
    s.DiffersFor .createTransactions x.enterprise s' := by
  cases h with
  | kept => exact .inl rfl
  | reversed ha =>
    obtain ⟨t₀, ht₀, hd⟩ := differsAt_of_reverse ha
    obtain rfl := Option.some.inj (ht.symm.trans ht₀)
    obtain ⟨hmem, hledger⟩ := subsidyOfLedger_eq_some hx
    exact .inr ⟨rfl, x, hmem, rfl, hledger ▸ hd⟩

theorem Spends.written {x : Subsidy} {result : Except SpendError SpendOutcome}
    (h : s.Spends x s' result) (hs : s.Written) : s'.Written := by
  cases h with
  | kept => exact hs
  | @appended t _ ha =>
    have he : s' = s.after (.append t) := (congrArg Prod.snd ha).symm
    exact he ▸ hs.write _

theorem Reverses.written {u : Uuid} {result : Except SpendError Transaction}
    (h : s.Reverses u s' result) (hs : s.Written) : s'.Written := by
  cases h with
  | kept => exact hs
  | @reversed _ stamp _ ha =>
    have he : s' = s.after (.reverse u stamp) := (congrArg Prod.snd ha).symm
    exact he ▸ hs.write _

end Store

/-! ## What an act is for -/

/-- The capability that an act is for, and the enterprise over which. -/
inductive Act.For (store : Store) : Act → Capability → Uuid → Prop
  | spend {c x} (hx : store.subsidy? c.subsidy = some x) :
    For store (.spend c) .createTransactions x.enterprise
  | reverse {u t x} (ht : store.transaction? u = some t)
    (hx : store.subsidyOfLedger? t.ledgerUuid = some x) :
    For store (.reverse u) .createTransactions x.enterprise
  | lookup {content enterprise} : For store (.lookup (content, enterprise)) .readMetadata enterprise

/-- The call is made for the enterprise, and the capability is needed for it. -/
def Outcall.For (capability : Capability) (enterprise : Uuid) (call : Outcall) : Prop :=
  call.capability = capability ∧ call.enterprise = enterprise

/-- A spend calls for the enterprise of its subsidy. -/
theorem SpendRun.Alone.for_of_call {s₀ s : Store} {c : SpendCommand} {x : Subsidy} {run : SpendRun}
    {call : Outcall} (h : run.Alone s₀ c x s) (hcall : run.call? = some call) :
    call.For .createTransactions x.enterprise := by
  cases run with
  | pricing =>
    obtain ⟨-, -, rfl⟩ := h
    obtain rfl := Option.some.inj hcall
    exact ⟨rfl, rfl⟩
  | enrolling =>
    obtain ⟨-, -, rfl, -⟩ := h
    obtain rfl := Option.some.inj hcall
    exact ⟨rfl, rfl⟩
  | arrived | located | waiting | checking | weighing | recording | finished => cases hcall

/-- The run is that of a lookup for the key. -/
def LookupRun.IsFor (key : CacheKey) : LookupRun → Prop
  | .arrived k | .asking k | .storing k _ => k = key
  | .finished _ => True

namespace LookupRun

variable {key : CacheKey} {run run' : LookupRun}

theorem isFor_step {c c' : MetadataCache} {input : LookupInput} (h : run.IsFor key)
    (hstep : run.step c input = some (c', run')) : run'.IsFor key := by
  unfold step at hstep
  split at hstep
  · -- the cache is asked
    split at hstep
    · obtain ⟨-, rfl⟩ := Prod.mk.inj (Option.some.inj hstep)
      trivial
    · obtain ⟨-, rfl⟩ := Prod.mk.inj (Option.some.inj hstep)
      exact h
  · -- the catalog is heard
    split at hstep
    · obtain ⟨-, rfl⟩ := Prod.mk.inj (Option.some.inj hstep)
      trivial
    · obtain ⟨-, rfl⟩ := Prod.mk.inj (Option.some.inj hstep)
      exact h
  · -- the metadata is stored
    obtain ⟨-, rfl⟩ := Prod.mk.inj (Option.some.inj hstep)
    trivial
  · cases hstep

/-- A lookup calls for the enterprise of its key. -/
theorem IsFor.for_of_call {call : Outcall} (h : run.IsFor key) (hcall : run.call? = some call) :
    call.For .readMetadata key.2 := by
  cases run with
  | asking =>
    obtain rfl := Option.some.inj hcall
    exact ⟨rfl, congrArg Prod.snd h⟩
  | arrived | storing | finished => cases hcall

end LookupRun

/-! ## What an act does -/

namespace World

variable {σ : Type} {capability : Capability} {enterprise : Uuid}

/-- Every call since the first world is for the capability over the enterprise. -/
def CallsFor (capability : Capability) (enterprise : Uuid) (w w' : World (σ × List Outcall)) : Prop :=
  ∀ call ∈ w'.outside.2, call ∈ w.outside.2 ∨ call.For capability enterprise

/-- **Nothing is done but for the capability over the enterprise**, from the first world to
the second. -/
structure Confined (capability : Capability) (enterprise : Uuid) (w w' : World (σ × List Outcall)) :
    Prop where
  store : w.store.DiffersFor capability enterprise w'.store
  calls : w.CallsFor capability enterprise w'

theorem CallsFor.refl (w : World (σ × List Outcall)) : w.CallsFor capability enterprise w :=
  fun _ => .inl

theorem CallsFor.step {w w' w'' : World (σ × List Outcall)} {next : Option Outcall}
    (h : w.CallsFor capability enterprise w') (hcalls : w''.outside.2 = w'.outside.2 ++ next.toList)
    (hnext : ∀ call, next = some call → call.For capability enterprise) :
    w.CallsFor capability enterprise w'' := by
  intro call hcall
  rw [hcalls] at hcall
  rcases List.mem_append.mp hcall with hcall | hcall
  · exact h call hcall
  · exact .inr (hnext call (Option.mem_toList.mp hcall))

section

variable (s : Surroundings σ) {w : World σ} {run run' : LookupRun}

theorem lookupStep_isFor {key : CacheKey} (h : run.IsFor key)
    (hnext : (w.lookupStep s run).1 = some run') : run'.IsFor key := by
  cases hstep : run.step w.cache (lookupInput s run w).1 with
  | none => simp [lookupStep, hstep] at hnext
  | some next =>
    obtain rfl : next.2 = run' := by simpa [lookupStep, hstep] using hnext
    exact LookupRun.isFor_step h hstep

theorem store_lookupStep (w : World σ) (run : LookupRun) :
    (w.lookupStep s run).2.store = w.store := by
  cases hstep : run.step w.cache (lookupInput s run w).1 with
  | none | some =>
    simp only [lookupStep, hstep]
    rfl

end

variable (s : Surroundings σ) {w : World (σ × List Outcall)}

theorem spend_confined {c : SpendCommand} {x : Subsidy} (hx : w.store.subsidy? c.subsidy = some x) :
    w.Confined .createTransactions x.enterprise (w.spend s.watched c).2 where
  store := (spend_spends hx).differsFor (Store.mem_values_of_subsidy hx)
  calls := by
    have hstep {w' : World (σ × List Outcall)} {run : SpendRun}
        (h : run.Alone w.store c x w'.store ∧ w.CallsFor .createTransactions x.enterprise w') :
        w.CallsFor .createTransactions x.enterprise (w'.spendStep s.watched run).2 :=
      h.2.step (calls_spendStep s run w') fun _ => h.1.for_of_call
    -- each call names the subsidy of the station, which is `x` as long as the spend is alone
    exact follow_invariant
      (I := fun w' run => SpendRun.Alone w.store c x w'.store run ∧
        w.CallsFor .createTransactions x.enterprise w')
      (J := fun w' _ => w.CallsFor .createTransactions x.enterprise w')
      (fun h hnext => ⟨alone_spendStep h.1 hnext, hstep h⟩) (fun h _ => h.2)
      (fun h _ => ⟨h.2, fun _ => hstep h⟩) 8 (SpendRun.arrived c) ⟨⟨rfl, rfl, hx⟩, .refl w⟩

theorem reverse_confined {u : Uuid} {t : Transaction} {x : Subsidy}
    (ht : w.store.transaction? u = some t) (hx : w.store.subsidyOfLedger? t.ledgerUuid = some x) :
    w.Confined .createTransactions x.enterprise (w.reverse s.watched u).2 where
  store := (reverse_reverses s.watched u w).differsFor ht hx
  calls := by
    have hstep {w' : World (σ × List Outcall)} {run : ReverseRun}
        (h : w.CallsFor .createTransactions x.enterprise w') :
        w.CallsFor .createTransactions x.enterprise (w'.reverseStep s.watched run).2 := by
      unfold CallsFor
      rw [calls_reverseStep]
      exact h
    exact follow_invariant (I := fun w' _ => w.CallsFor .createTransactions x.enterprise w')
      (J := fun w' _ => w.CallsFor .createTransactions x.enterprise w') (fun h _ => hstep h)
      (fun h _ => h) (fun h _ => ⟨h, fun _ => hstep h⟩) 5 (ReverseRun.arrived u) (.refl w)

/-- A lookup leaves the store alone. -/
theorem lookup_confined (key : CacheKey) (w : World (σ × List Outcall)) :
    (w.lookup s.watched key).2.store = w.store ∧
      w.CallsFor .readMetadata key.2 (w.lookup s.watched key).2 := by
  have hstep {w' : World (σ × List Outcall)} {run : LookupRun}
      (h : run.IsFor key ∧ w'.store = w.store ∧ w.CallsFor .readMetadata key.2 w') :
      (w'.lookupStep s.watched run).2.store = w.store ∧
        w.CallsFor .readMetadata key.2 (w'.lookupStep s.watched run).2 :=
    ⟨(store_lookupStep s.watched w' run).trans h.2.1,
      h.2.2.step (calls_lookupStep s run w') fun _ => h.1.for_of_call⟩
  exact follow_invariant
    (I := fun w' run => LookupRun.IsFor key run ∧ w'.store = w.store ∧
      w.CallsFor .readMetadata key.2 w')
    (J := fun w' _ => w'.store = w.store ∧ w.CallsFor .readMetadata key.2 w')
    (fun h hnext => ⟨lookupStep_isFor s.watched h.1 hnext, hstep h⟩) (fun h _ => h.2)
    (fun h _ => ⟨h.2, fun _ => hstep h⟩) 3 (LookupRun.arrived key) ⟨rfl, rfl, .refl w⟩

/-- **An act does nothing but what it is for.** -/
theorem doing_confined {a : Act} (h : a.For w.store capability enterprise) :
    w.Confined capability enterprise (w.doing s.watched (some a)) := by
  cases h with
  | spend hx => exact spend_confined s hx
  | reverse ht hx => exact reverse_confined s ht hx
  | @lookup content =>
    obtain ⟨hstore, hcalls⟩ := lookup_confined s (content, enterprise) w
    exact ⟨.inl hstore, hcalls⟩

/-- An act leads from one store that writes lead to to another. -/
theorem written_doing (hw : w.store.Written) {a : Act} (h : a.For w.store capability enterprise) :
    (w.doing s.watched (some a)).store.Written := by
  cases h with
  | @spend c x hx => exact (spend_spends (s := s.watched) hx).written hw
  | @reverse u => exact (reverse_reverses s.watched u w).written hw
  | @lookup content =>
    have hstore := (lookup_confined s (content, enterprise) w).1
    exact hstore ▸ hw

end World
end Bursar
