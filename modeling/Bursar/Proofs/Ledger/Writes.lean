import Bursar.Proofs.Ledger.History
import Mathlib.Logic.Relation

/-!
# Writes with any arguments

A history counts as one only if the identifiers in it are new. Here nothing is
asked of a write at all: an appended transaction may come with an identifier that
is in use and with a reversal of its own making. What such writes lead to is
`Store.Written`.

Every write comes down to the four changes of a store, made one after the other
(`changes_after`). A few facts hold whatever the identifiers are
(`Store.Grounded`): a stored transaction holds its key, the list of a ledger names
nothing but stored transactions, and a subsidy stands under its own identifier.
-/

namespace Bursar.Store

open Relation (ReflTransGen)

/-- The stores that writes lead to, whatever their arguments and their outcome. -/
inductive Written : Store → Prop where
  | empty : Written empty
  | write {s : Store} (w : Write) : Written s → Written (s.after w)

theorem Written.of_reachable {s : Store} (h : Reachable s) : Written s := by
  induction h with
  | empty => exact .empty
  | write w _ _ ih => exact ih.write w

/-- Another seat taken, of those that `seatsReturned` still has. -/
def seatTakenNext : Transaction :=
  { seatTaken with uuid := .filled 6, key := ⟨"order-43"⟩ }

/-- **One undivided change** of a store. -/
inductive Change (s : Store) : Store → Prop
  | entered {x : Subsidy} (hx : s.subsidies.get? x.uuid = none) : Change s (s.entered x)
  | marked {uuid : Uuid} {l : Ledger} (hl : s.ledgers.get? uuid = some l) : Change s (s.marked uuid l)
  | recorded {l : Ledger} {t : Transaction} (hl : s.ledgers.get? t.ledgerUuid = some l)
      (hk : s.liveKeys.get? (t.ledgerUuid, t.key) = none) : Change s (s.recorded l t)
  | reversed {u : Uuid} {t : Transaction} (ht : s.Reversible u t) (stamp : Stamp) :
      Change s (s.reversed u t stamp)

variable {s : Store}

/-- **Providing a subsidy**: a request that is not refused at once has the subsidy entered
and its ledger opened. -/
theorem createSubsidy_cases (s : Store) (new : NewSubsidy) (stamp : ProvisionStamp) :
    (∃ e, s.createSubsidy new stamp = (.error e, s)) ∨
      (s.subsidies.get? (subsidyOf new stamp).uuid = none ∧
        s.createSubsidy new stamp =
          let opened := (s.entered (subsidyOf new stamp)).openLedger (subsidyOf new stamp).uuid
            new.startingBalance stamp.deposit
          (opened.1.map fun _ => subsidyOf new stamp, opened.2)) := by
  unfold createSubsidy
  cases checkNew new with
  | error e => exact .inl ⟨e, rfl⟩
  | ok _ =>
    rcases s.register_cases (subsidyOf new stamp) with ⟨e, he⟩ | ⟨hx, he⟩
    · exact .inl ⟨e, by simp only [he]⟩
    · refine .inr ⟨hx, ?_⟩
      simp only [he]
      cases (s.entered (subsidyOf new stamp)).openLedger (subsidyOf new stamp).uuid
        new.startingBalance stamp.deposit with
      | mk result s' => cases result <;> rfl

theorem changes_openLedger (s : Store) (subsidy : Uuid) (balance : Int) (stamp : Stamp) :
    ReflTransGen Change s (s.openLedger subsidy balance stamp).2 := by
  rcases s.openLedger_cases subsidy balance stamp with
    ⟨e, he⟩ | ⟨x, l, ho, ⟨e, u, -, he⟩ | ⟨hk, he⟩⟩
  · rw [he]
  · rw [he]
    exact .single (.marked ho.ledger)
  · rw [he]
    exact (ReflTransGen.single (.marked ho.ledger)).tail
      (.recorded (Table.get?_insert_self ..) hk)

/-- **Every write is a sequence of changes.** -/
theorem changes_after (s : Store) (w : Write) : ReflTransGen Change s (s.after w) := by
  cases w with
  | create new stamp =>
    rcases s.createSubsidy_cases new stamp with ⟨e, he⟩ | ⟨hx, he⟩
    · simp only [after, he]
      exact .refl
    · simp only [after, he]
      exact (ReflTransGen.single (.entered hx)).trans (changes_openLedger ..)
  | register x =>
    rcases s.register_cases x with ⟨e, he⟩ | ⟨hx, he⟩
    · simp only [after, he]
      exact .refl
    · simp only [after, he]
      exact .single (.entered hx)
  | openLedger subsidy balance stamp => exact s.changes_openLedger subsidy balance stamp
  | append t =>
    rcases s.append_cases t with ⟨e, he⟩ | ⟨l, ht, -, he⟩
    · simp only [after, he]
      exact .refl
    · simp only [after, he]
      exact .single (.recorded ht.ledger ht.free)
  | reverse transaction stamp =>
    rcases s.reverse_cases transaction stamp with ⟨e, he⟩ | ⟨t, ht, -, he⟩
    · simp only [after, he]
      exact .refl
    · simp only [after, he]
      exact .single (.reversed ht stamp)

/-- What holds of the store without records, and is kept by every change, holds after any
writes. -/
theorem Written.of_changes {P : Store → Prop} (h : Written s) (hempty : P .empty)
    (hchange : ∀ {s s'}, P s → Change s s' → P s') : P s := by
  induction h with
  | empty => exact hempty
  | @write s w _ ih =>
    have hall {s'} (hc : ReflTransGen Change s s') : P s' := by
      induction hc with
      | refl => exact ih
      | tail _ hc ih => exact hchange ih hc
    exact hall (s.changes_after w)

/-! ## What stays -/

theorem Change.subsidies {s' : Store} (hc : Change s s') {u : Uuid} {x : Subsidy}
    (hx : s.subsidies.get? u = some x) : s'.subsidies.get? u = some x := by
  cases hc with
  | entered hnew => exact Table.get?_insert_of_get? hnew hx _
  | marked | recorded | reversed => exact hx

theorem subsidies_changes {s' : Store} (hc : ReflTransGen Change s s') {u : Uuid} {x : Subsidy}
    (hx : s.subsidies.get? u = some x) : s'.subsidies.get? u = some x := by
  induction hc with
  | refl => exact hx
  | tail _ hc ih => exact hc.subsidies ih

/-- A write takes no subsidy away. -/
theorem subsidies_after (w : Write) {u : Uuid} {x : Subsidy} (hx : s.subsidies.get? u = some x) :
    (s.after w).subsidies.get? u = some x :=
  subsidies_changes (s.changes_after w) hx

theorem keeps_openLedger {subsidy : Uuid} {balance : Int} {stamp : Stamp}
    (fresh : s.transactions.get? stamp.uuid = none) :
    s.Keeps (s.openLedger subsidy balance stamp).2 := by
  rcases s.openLedger_cases subsidy balance stamp with
    ⟨e, he⟩ | ⟨x, l, -, ⟨e, u, -, he⟩ | ⟨-, he⟩⟩
  · rw [he]
    exact keeps_of_eq rfl
  · rw [he]
    exact keeps_of_eq rfl
  · rw [he]
    exact keeps_recorded (s := s.marked x.ledgerUuid l) (t := opening x balance stamp) fresh

/-- A write with new identifiers takes no transaction away. -/
theorem keeps_after {w : Write} (hw : s.Fresh w) : s.Keeps (s.after w) := by
  cases w with
  | create new stamp =>
    rcases s.createSubsidy_cases new stamp with ⟨e, he⟩ | ⟨-, he⟩
    · simp only [after, he]
      exact keeps_of_eq rfl
    · simp only [after, he]
      exact keeps_openLedger (s := s.entered (subsidyOf new stamp)) hw.2
  | register x =>
    rcases s.register_cases x with ⟨e, he⟩ | ⟨-, he⟩ <;> simp only [after, he] <;>
      exact keeps_of_eq rfl
  | openLedger subsidy balance stamp => exact keeps_openLedger hw
  | append t =>
    rcases s.append_cases t with ⟨e, he⟩ | ⟨l, -, -, he⟩
    · simp only [after, he]
      exact keeps_of_eq rfl
    · simp only [after, he]
      exact keeps_recorded hw.1
  | reverse u stamp =>
    rcases s.reverse_cases u stamp with ⟨e, he⟩ | ⟨t, ht, -, he⟩
    · simp only [after, he]
      exact keeps_of_eq rfl
    · simp only [after, he]
      exact keeps_reversed ht stamp

/-! ## What holds after any writes -/

/-- **What every write keeps**, whatever identifiers it comes with. -/
structure Grounded (s : Store) : Prop where
  held : ∀ {u t}, s.transactions.get? u = some t →
    (s.liveKeys.get? (t.ledgerUuid, t.key)).isSome
  listed : ∀ {uuid l u}, s.ledgers.get? uuid = some l → u ∈ l.transactions →
    (s.transactions.get? u).isSome
  subsidy_uuid_eq : ∀ {u x}, s.subsidies.get? u = some x → x.uuid = u

namespace Grounded

theorem empty : empty.Grounded where
  held := by simp [Store.empty]
  listed := by simp [Store.empty]
  subsidy_uuid_eq := by simp [Store.empty]

theorem entered (h : s.Grounded) (x : Subsidy) : (s.entered x).Grounded where
  held := h.held
  listed := by
    intro uuid l u hl hu
    rcases Table.get?_insert_cases hl with ⟨-, rfl⟩ | ⟨-, hl⟩
    · cases hu
    · exact h.listed hl hu
  subsidy_uuid_eq := by
    intro u y hy
    rcases Table.get?_insert_cases hy with ⟨rfl, rfl⟩ | ⟨-, hy⟩
    · rfl
    · exact h.subsidy_uuid_eq hy

theorem marked (h : s.Grounded) {uuid : Uuid} {l : Ledger} (hl : s.ledgers.get? uuid = some l) :
    (s.marked uuid l).Grounded where
  held := h.held
  listed := by
    intro v r u hr hu
    rcases Table.get?_insert_cases hr with ⟨-, rfl⟩ | ⟨-, hr⟩
    · exact h.listed hl hu
    · exact h.listed hr hu
  subsidy_uuid_eq := h.subsidy_uuid_eq

theorem recorded (h : s.Grounded) {l : Ledger} {t : Transaction}
    (hl : s.ledgers.get? t.ledgerUuid = some l) : (s.recorded l t).Grounded where
  held := by
    intro u t' ht'
    rcases Table.get?_insert_cases ht' with ⟨-, rfl⟩ | ⟨-, ht'⟩
    · exact Option.isSome_of_eq_some (Table.get?_insert_self ..)
    · exact Table.isSome_get?_insert (h.held ht') _ _
  listed := by
    intro v r u hr hu
    change ((s.transactions.insert t.uuid t).get? u).isSome
    rcases Table.get?_insert_cases hr with ⟨-, rfl⟩ | ⟨-, hr⟩
    · rcases List.mem_append.mp hu with hu | hu
      · exact Table.isSome_get?_insert (h.listed hl hu) _ _
      · obtain rfl := List.mem_singleton.mp hu
        exact Option.isSome_of_eq_some (Table.get?_insert_self ..)
    · exact Table.isSome_get?_insert (h.listed hr hu) _ _
  subsidy_uuid_eq := h.subsidy_uuid_eq

theorem reversed (h : s.Grounded) {u : Uuid} {t : Transaction} (ht : s.Reversible u t)
    (stamp : Stamp) : (s.reversed u t stamp).Grounded where
  held := by
    intro v t' ht'
    rcases Table.get?_insert_cases ht' with ⟨-, rfl⟩ | ⟨-, ht'⟩
    · exact h.held (t := t) ht.stored
    · exact h.held ht'
  listed := fun hl hu => Table.isSome_get?_insert (h.listed hl hu) _ _
  subsidy_uuid_eq := h.subsidy_uuid_eq

theorem change {s' : Store} (h : s.Grounded) (hc : Change s s') : s'.Grounded := by
  cases hc with
  | entered hx => exact h.entered _
  | marked hl => exact h.marked hl
  | recorded hl hk => exact h.recorded hl
  | reversed ht stamp => exact h.reversed ht stamp

theorem of_written (h : Written s) : s.Grounded := h.of_changes Grounded.empty change

end Grounded
end Bursar.Store
