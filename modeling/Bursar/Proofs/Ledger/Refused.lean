import Bursar.Proofs.Ledger.Awaiting
import Bursar.Proofs.Ledger.Provision
import Bursar.Proofs.Ledger.Reached

/-!
# Refused writes leave no trace

Writes that come one after the other, a subsidy being provided in one go, either are
answered and change the store, or are refused and leave it exactly as it was
(`refused_iff_unchanged`).

Two refusals could come after a change: the second half of a provision, when the subsidy is
entered already, and the deposit of a ledger that is marked as open already. Neither does. A
ledger that is new has nothing on it, not even a key, so its deposit is recorded
(`createSubsidy_sequential`); and then it is open, so that in between two writes no ledger is
left to be opened (`Sequential.allOpen`).
-/

namespace Bursar.Store

variable {s : Store}

/-! ## Writes one after the other -/

/-- The write is a call of its own, and not the first half of one. -/
def Write.IsWhole : Write → Prop
  | .register _ => False
  | .create _ _ | .openLedger _ _ _ | .append _ | .reverse _ _ => True

/-- The stores that whole writes lead to, one after the other, when every subsidy comes with a
ledger of its own. Nothing else is asked of the writes. -/
inductive Sequential : Store → Prop where
  | empty : Sequential empty
  | write {s : Store} (w : Write) : Sequential s → w.IsWhole → s.OpensNew w → Sequential (s.after w)

theorem Sequential.written (h : Sequential s) : Written s := by
  induction h with
  | empty => exact .empty
  | write w _ _ _ ih => exact ih.write w

/-- The write is refused for this reason. -/
def Refuses (s : Store) (e : LedgerError) : Write → Prop
  | .create new stamp => (s.createSubsidy new stamp).1 = .error e
  | .register x => (s.register x).1 = .error e
  | .openLedger subsidy balance stamp => (s.openLedger subsidy balance stamp).1 = .error e
  | .append t => (s.append t).1 = .error e
  | .reverse transaction stamp => (s.reverse transaction stamp).1 = .error e

/-! ## No ledger is left to be opened -/

/-- Every ledger has had its deposit. -/
def AllOpen (s : Store) : Prop := ∀ u l, s.ledgers.get? u = some l → l.isOpen = true

/-- Where all ledgers are open, to open one is refused before anything is changed. -/
theorem AllOpen.openLedger_eq (h : s.AllOpen) (subsidy : Uuid) (balance : Int) (stamp : Stamp) :
    ∃ e, s.openLedger subsidy balance stamp = (.error e, s) := by
  rcases s.openLedger_cases subsidy balance stamp with he | ⟨x, l, hopenable, -⟩
  · exact he
  · have hclosed := hopenable.closed
    rw [h _ l hopenable.ledger] at hclosed
    cases hclosed

/-- **A subsidy is provided as a whole or not at all**, if its ledger is new and nobody comes in
between. -/
theorem createSubsidy_sequential (h : s.Based) (new : NewSubsidy) {stamp : ProvisionStamp}
    (hl : s.ledgers.get? stamp.ledger = none) :
    (∃ e, s.createSubsidy new stamp = (.error e, s)) ∨
      ∃ l, s.createSubsidy new stamp = (.ok (subsidyOf new stamp),
        (s.entered (subsidyOf new stamp)).opened (subsidyOf new stamp) l new.startingBalance
          stamp.deposit) := by
  unfold createSubsidy
  cases hnew : checkNew new with
  | error e => exact .inl ⟨e, rfl⟩
  | ok _ =>
    rcases s.register_cases (subsidyOf new stamp) with ⟨e, he⟩ | ⟨-, he⟩
    · exact .inl ⟨e, by simp only [he]⟩
    · -- the ledger awaits its deposit, and a deposit that passed the check is not below zero
      have hawaits : (s.entered (subsidyOf new stamp)).Awaits (subsidyOf new stamp) :=
        .of_entered h hl
      obtain ⟨l, hopened⟩ := hawaits.openLedger_eq (Table.get?_insert_self ..)
        (ProvisionRun.checkNew_eq_ok hnew) stamp.deposit
      exact .inr ⟨l, by simp only [he, hopened]⟩

theorem AllOpen.entered_opened (h : s.AllOpen) (x : Subsidy) (l : Ledger) (balance : Int)
    (stamp : Stamp) : ((s.entered x).opened x l balance stamp).AllOpen := by
  intro u r hr
  rcases Table.get?_insert_cases hr with ⟨-, rfl⟩ | ⟨hu, hmarked⟩
  · rfl
  · -- what was entered and marked stands under the identifier that the deposit was put under
    have hx : u ≠ x.ledgerUuid := hu
    have hentered := (Table.get?_insert_of_ne _ hx _).symm.trans hmarked
    exact h u r ((Table.get?_insert_of_ne _ hx _).symm.trans hentered)

theorem AllOpen.recorded (h : s.AllOpen) {l : Ledger} {t : Transaction}
    (hl : s.ledgers.get? t.ledgerUuid = some l) : (s.recorded l t).AllOpen := by
  intro u r hr
  rcases Table.get?_insert_cases hr with ⟨-, rfl⟩ | ⟨-, hold⟩
  · exact h _ l hl
  · exact h u r hold

theorem Sequential.allOpen (h : Sequential s) : s.AllOpen := by
  induction h with
  | empty => intro u l hl; cases hl
  | @write s w hs hw hnew ih =>
    cases w with
    | create new stamp =>
      rcases createSubsidy_sequential (.of_written hs.written) new hnew with ⟨e, he⟩ | ⟨l, he⟩
      · rw [Store.after, he]
        exact ih
      · rw [Store.after, he]
        exact ih.entered_opened _ l _ _
    | register x => exact hw.elim
    | openLedger subsidy balance stamp =>
      obtain ⟨e, he⟩ := ih.openLedger_eq subsidy balance stamp
      rw [Store.after, he]
      exact ih
    | append t =>
      rcases s.append_cases t with ⟨e, he⟩ | ⟨l, hadmits, -, he⟩
      · rw [Store.after, he]
        exact ih
      · rw [Store.after, he]
        exact ih.recorded hadmits.ledger
    | reverse u stamp =>
      rcases s.reverse_cases u stamp with ⟨e, he⟩ | ⟨t, -, -, he⟩
      · rw [Store.after, he]
        exact ih
      · rw [Store.after, he]
        exact ih

/-! ## What is answered shows -/

/-- One more transaction stands in the order. -/
theorem recorded_ne {r : Store} (hr : r.transactionOrder = s.transactionOrder) (l : Ledger)
    (t : Transaction) : r.recorded l t ≠ s := by
  intro h
  have horder : r.transactionOrder ++ [t.uuid] = s.transactionOrder :=
    congrArg Store.transactionOrder h
  have hlength := congrArg List.length horder
  rw [hr, List.length_append, List.length_singleton] at hlength
  omega

/-- The transaction had no reversal before. -/
theorem reversed_ne {u : Uuid} {t : Transaction} (ht : s.Reversible u t) (stamp : Stamp) :
    s.reversed u t stamp ≠ s := by
  intro h
  have hstored : (s.reversed u t stamp).transactions.get? u = some (withReversal t stamp) :=
    Table.get?_insert_self ..
  rw [h, ht.stored] at hstored
  have hreversal := congrArg Transaction.reversal (Option.some.inj hstored)
  rw [ht.unreversed] at hreversal
  cases hreversal

/-- **A write is refused and leaves the store, or is answered and changes it.** -/
theorem Sequential.write_cases (h : Sequential s) {w : Write} (hw : w.IsWhole) (hnew : s.OpensNew w) :
    ((∃ e, s.Refuses e w) ∧ s.after w = s) ∨ ((∀ e, ¬ s.Refuses e w) ∧ s.after w ≠ s) := by
  cases w with
  | create new stamp =>
    rcases createSubsidy_sequential (.of_written h.written) new hnew with ⟨e, he⟩ | ⟨l, he⟩
    · exact .inl ⟨⟨e, by rw [Refuses, he]⟩, by rw [after, he]⟩
    · refine .inr ⟨fun e hrefused => ?_, ?_⟩
      · rw [Refuses, he] at hrefused
        cases hrefused
      rw [after, he]
      exact recorded_ne (s := s) (r := (s.entered (subsidyOf new stamp)).marked _ l) rfl _ _
  | register x => exact hw.elim
  | openLedger subsidy balance stamp =>
    obtain ⟨e, he⟩ := h.allOpen.openLedger_eq subsidy balance stamp
    exact .inl ⟨⟨e, by rw [Refuses, he]⟩, by rw [after, he]⟩
  | append t =>
    rcases s.append_cases t with ⟨e, he⟩ | ⟨l, -, -, he⟩
    · exact .inl ⟨⟨e, by rw [Refuses, he]⟩, by rw [after, he]⟩
    · refine .inr ⟨fun e hrefused => ?_, ?_⟩
      · rw [Refuses, he] at hrefused
        cases hrefused
      rw [after, he]
      exact recorded_ne rfl _ _
  | reverse u stamp =>
    rcases s.reverse_cases u stamp with ⟨e, he⟩ | ⟨t, ht, -, he⟩
    · exact .inl ⟨⟨e, by rw [Refuses, he]⟩, by rw [after, he]⟩
    · refine .inr ⟨fun e hrefused => ?_, ?_⟩
      · rw [Refuses, he] at hrefused
        cases hrefused
      rw [after, he]
      exact reversed_ne ht stamp

/-- **Refused writes leave no trace.** Of writes that come one after the other, with whatever
arguments, those that are refused are exactly those after which the whole store is what it was. -/
theorem refused_iff_unchanged (h : Sequential s) {w : Write} (hw : w.IsWhole) (hnew : s.OpensNew w) :
    (∃ e, s.Refuses e w) ↔ s.after w = s := by
  rcases h.write_cases hw hnew with ⟨hrefused, hsame⟩ | ⟨hanswered, hchanged⟩
  · exact ⟨fun _ => hsame, fun _ => hrefused⟩
  · exact ⟨fun ⟨e, he⟩ => absurd he (hanswered e), fun hsame => absurd hsame hchanged⟩

/-- Seats under the identifier of those that are provided already. -/
def seatsAgain : Write :=
  .create { threeSeats with uuid := some (.filled 1) } ⟨.filled 7, .filled 8, ⟨.filled 9, ⟨0, 0⟩⟩⟩

theorem sequential_seatsReturned : Sequential seatsReturned :=
  ((Sequential.empty.write (.create threeSeats seatStamp) trivial rfl).write (.append seatTaken)
    trivial trivial).write (.reverse (.filled 4) _) trivial trivial

theorem refused_iff_unchanged_seatsAgain :
    Sequential seatsReturned ∧ seatsAgain.IsWhole ∧ seatsReturned.OpensNew seatsAgain ∧
      (∃ e, seatsReturned.Refuses e seatsAgain) ∧ seatsReturned.after seatsAgain = seatsReturned := by
  have hwhole : seatsAgain.IsWhole := trivial
  have hnew : seatsReturned.OpensNew seatsAgain := rfl
  have hrefused : ∃ e, seatsReturned.Refuses e seatsAgain := ⟨_, rfl⟩
  exact ⟨sequential_seatsReturned, hwhole, hnew, hrefused,
    (refused_iff_unchanged sequential_seatsReturned hwhole hnew).mp hrefused⟩

end Bursar.Store
