import Bursar.Proofs.Ledger.Provision
import Bursar.Proofs.Ledger.Writes
import Mathlib.Logic.Function.Basic
import Mathlib.Logic.Relation

/-!
# Writers at one store

Any number of writers have one store: they provide subsidies, open ledgers and append
transactions, with whatever arguments. At each instant one writer takes one undivided
step (`Writers.Step`). To open a ledger and to append are one step each; to provide a
subsidy takes three, and others may take theirs in between.

What no step breaks is that every ledger has its own subsidy, that a ledger which was
drawn and not entered yet is not there, and that each subsidy whose ledger waits to be
opened is there (`Writers.Sound`). Nothing is asked of appended transactions.
-/

namespace Bursar

open Relation (ReflTransGen)

/-- Where a writer stands with its call. -/
inductive Writer where
  | idle
  | provide (new : NewSubsidy) (run : ProvisionRun)
  /-- There is a result once the step was taken. -/
  | openLedger (subsidy : Uuid) (balance : Int) (result : Option (Except LedgerError Transaction))
  | append (t : Transaction) (result : Option (Except LedgerError Transaction))

namespace Writer

/-- The call is made, and no step of it is taken. -/
inductive IsCall : Writer → Prop
  | provide (new : NewSubsidy) : IsCall (.provide new (.arrived new))
  | openLedger (subsidy : Uuid) (balance : Int) : IsCall (.openLedger subsidy balance none)
  | append (t : Transaction) : IsCall (.append t none)

/-- The ledger that was drawn and not entered yet. -/
def drawn? : Writer → Option Uuid
  | .provide _ (.registering x _) => some x.ledgerUuid
  | _ => none

/-- The subsidy that was entered and whose ledger is to be opened next. -/
def entered? : Writer → Option Subsidy
  | .provide _ (.opening x _) => some x
  | _ => none

/-- What is deposited is what was asked for. -/
def IsAsked : Writer → Prop
  | .provide new (.arrived new') => new' = new
  | .provide new (.registering _ b) | .provide new (.opening _ b) => b = new.startingBalance ∧ 0 ≤ b
  | _ => True

end Writer

/-- A store and the writers that have it. -/
structure Writers where
  store : Store
  writer : Nat → Writer

namespace Writers

/-- Nothing is stored, and no call is made. -/
def start : Writers := ⟨.empty, fun _ => .idle⟩

/-- The writer `p` came to `w` and left the store behind. -/
def update (c : Writers) (p : Nat) (store : Store) (w : Writer) : Writers :=
  ⟨store, Function.update c.writer p w⟩

/-- An identifier that is not stored, and that no writer has drawn for a ledger. -/
def Fresh (c : Writers) (u : Uuid) : Prop :=
  c.store.transactions.get? u = none ∧ c.store.ledgers.get? u = none ∧
    ∀ q, (c.writer q).drawn? ≠ some u

/-- **The writer takes an undivided step.** What is drawn in it is fresh. -/
inductive Step (c : Writers) (p : Nat) : Writers → Prop
  | call {w : Writer} (hw : c.writer p = .idle) (hcall : w.IsCall) : Step c p (c.update p c.store w)
  | provide {new : NewSubsidy} {run run' : ProvisionRun} {stamp : ProvisionStamp} {store : Store}
      (hw : c.writer p = .provide new run) (fresh : ∀ u ∈ run.draws stamp, c.Fresh u)
      (h : run.step c.store stamp = some (store, run')) :
      Step c p (c.update p store (.provide new run'))
  | openLedger {subsidy : Uuid} {balance : Int} {stamp : Stamp}
      (hw : c.writer p = .openLedger subsidy balance none) (fresh : c.Fresh stamp.uuid) :
      Step c p (c.update p (c.store.openLedger subsidy balance stamp).2
        (.openLedger subsidy balance (some (c.store.openLedger subsidy balance stamp).1)))
  | append {t : Transaction} (hw : c.writer p = .append t none) :
      Step c p (c.update p (c.store.append t).2 (.append t (some (c.store.append t).1)))

/-- The writers have come this far from the start. -/
def Reachable (c : Writers) : Prop := ReflTransGen (fun c d => ∃ p, Step c p d) start c

@[simp] theorem update_store (c : Writers) (p : Nat) (store : Store) (w : Writer) :
    (c.update p store w).store = store := rfl

@[simp] theorem update_writer_self (c : Writers) (p : Nat) (store : Store) (w : Writer) :
    (c.update p store w).writer p = w := Function.update_self ..

theorem update_writer_of_ne (c : Writers) {p q : Nat} (h : q ≠ p) (store : Store) (w : Writer) :
    (c.update p store w).writer q = c.writer q := Function.update_of_ne h ..

end Writers

/-! ## What opening and appending leave alone -/

namespace Store

/-- The subsidies are the same, and so are their ledgers as far as which there are. -/
structure SameBooks (s s' : Store) : Prop where
  subsidies : s'.subsidies = s.subsidies
  ledgers : ∀ {u}, s.ledgers.get? u = none → s'.ledgers.get? u = none
  paired : s.Paired → s'.Paired

variable {s : Store}

namespace SameBooks

theorem refl (s : Store) : s.SameBooks s := ⟨rfl, id, id⟩

theorem trans {s₁ s₂ s₃ : Store} (h : s₁.SameBooks s₂) (h' : s₂.SameBooks s₃) : s₁.SameBooks s₃ :=
  ⟨h'.subsidies.trans h.subsidies, fun hu => h'.ledgers (h.ledgers hu),
    fun hp => h'.paired (h.paired hp)⟩

/-- A ledger that is rewritten was there before. -/
theorem ledger_of_insert {uuid u : Uuid} {l : Ledger} (hl : s.ledgers.get? uuid = some l) (l' : Ledger)
    (hu : s.ledgers.get? u = none) : (s.ledgers.insert uuid l').get? u = none := by
  refine (Table.get?_insert_of_ne _ ?_ _).trans hu
  rintro rfl
  cases hl.symm.trans hu

theorem marked {uuid : Uuid} {l : Ledger} (hl : s.ledgers.get? uuid = some l) :
    s.SameBooks (s.marked uuid l) where
  subsidies := rfl
  ledgers := ledger_of_insert hl _
  paired hp := hp.insert_ledger { l with isOpen := true } hl rfl

theorem recorded {t : Transaction} {l : Ledger} (hl : s.ledgers.get? t.ledgerUuid = some l) :
    s.SameBooks (s.recorded l t) where
  subsidies := rfl
  ledgers := ledger_of_insert hl _
  paired hp :=
    { hp.insert_ledger { l with transactions := l.transactions ++ [t.uuid] } hl rfl with }

end SameBooks

theorem sameBooks_openLedger (s : Store) (subsidy : Uuid) (balance : Int) (stamp : Stamp) :
    s.SameBooks (s.openLedger subsidy balance stamp).2 := by
  rcases s.openLedger_cases subsidy balance stamp with
    ⟨e, he⟩ | ⟨x, l, ho, ⟨e, u, -, he⟩ | ⟨-, he⟩⟩
  · rw [he]
    exact .refl s
  · rw [he]
    exact .marked ho.ledger
  · rw [he]
    exact (SameBooks.marked ho.ledger).trans (.recorded (Table.get?_insert_self ..))

theorem sameBooks_append (s : Store) (t : Transaction) : s.SameBooks (s.append t).2 := by
  rcases s.append_cases t with ⟨e, he⟩ | ⟨l, ht, -, he⟩
  · rw [he]
    exact .refl s
  · rw [he]
    exact .recorded ht.ledger

theorem register_of_new {x : Subsidy} (hx : s.subsidies.get? x.uuid = none) :
    s.register x = (.ok (), s.entered x) := by
  rw [register, Table.contains_eq_false_iff.mpr hx]
  rfl

end Store

/-! ## What no step breaks -/

namespace Writers

/-- **What no step breaks.** -/
structure Sound (c : Writers) : Prop where
  written : c.store.Written
  paired : c.store.Paired
  drawn : ∀ {p u}, (c.writer p).drawn? = some u → c.store.ledgers.get? u = none
  distinct : ∀ {p q u}, (c.writer p).drawn? = some u → (c.writer q).drawn? = some u → p = q
  entered : ∀ {p x}, (c.writer p).entered? = some x → c.store.subsidies.get? x.uuid = some x
  apart : ∀ {p q x y}, (c.writer p).entered? = some x → (c.writer q).entered? = some y →
    x.uuid = y.uuid → p = q
  asked : ∀ p, (c.writer p).IsAsked

theorem sound_start : start.Sound where
  written := .empty
  paired := Store.coherent_empty.toPaired
  drawn := nofun
  distinct := nofun
  entered := nofun
  apart := nofun
  asked _ := trivial

namespace Sound

variable {c d : Writers} {p : Nat}

/-- What is to be shown of the writer that takes a step, and of the store that it leaves. -/
theorem update (h : c.Sound) {store : Store} {w : Writer} (hwritten : store.Written)
    (hpaired : store.Paired)
    (hothers : ∀ {q u}, q ≠ p → (c.writer q).drawn? = some u → store.ledgers.get? u = none)
    (hsubsidies : ∀ {u x}, c.store.subsidies.get? u = some x → store.subsidies.get? u = some x)
    (hdrawn : ∀ {u}, w.drawn? = some u →
      store.ledgers.get? u = none ∧ ∀ {q}, q ≠ p → (c.writer q).drawn? ≠ some u)
    (hentered : ∀ {x}, w.entered? = some x → store.subsidies.get? x.uuid = some x ∧
      ∀ {q y}, q ≠ p → (c.writer q).entered? = some y → x.uuid ≠ y.uuid)
    (hasked : w.IsAsked) : (c.update p store w).Sound where
  written := hwritten
  paired := hpaired
  drawn := by
    intro q u hq
    by_cases hqp : q = p
    · subst hqp
      rw [update_writer_self] at hq
      exact (hdrawn hq).1
    · rw [c.update_writer_of_ne hqp] at hq
      exact hothers hqp hq
  distinct := by
    intro q r u hq hr
    -- writers clash if they drew the same identifier
    refine eq_of_clash_update (R := fun v w : Writer => ∃ u, v.drawn? = some u ∧ w.drawn? = some u)
      (fun ⟨u, hv, hw⟩ => ⟨u, hw, hv⟩) (fun ⟨u, hv, hw⟩ => h.distinct hv hw) ?_ ⟨u, hq, hr⟩
    rintro q hqp ⟨u, hw, hv⟩
    exact (hdrawn hw).2 hqp hv
  entered := by
    intro q x hq
    by_cases hqp : q = p
    · subst hqp
      rw [update_writer_self] at hq
      exact (hentered hq).1
    · rw [c.update_writer_of_ne hqp] at hq
      exact hsubsidies (h.entered hq)
  apart := by
    intro q r x y hq hr hxy
    -- or if they entered subsidies of the same identifier
    refine eq_of_clash_update
      (R := fun v w : Writer => ∃ x y, v.entered? = some x ∧ w.entered? = some y ∧ x.uuid = y.uuid)
      (fun ⟨x, y, hv, hw, hxy⟩ => ⟨y, x, hw, hv, hxy.symm⟩)
      (fun ⟨x, y, hv, hw, hxy⟩ => h.apart hv hw hxy) ?_ ⟨x, y, hq, hr, hxy⟩
    rintro q hqp ⟨x, y, hw, hv, hxy⟩
    exact (hentered hw).2 hqp hv hxy
  asked := by
    intro q
    by_cases hqp : q = p
    · subst hqp
      rw [update_writer_self]
      exact hasked
    · rw [c.update_writer_of_ne hqp]
      exact h.asked q

/-- A writer that has drawn and entered nothing, and left the books as they are. -/
theorem update_of_sameBooks (h : c.Sound) {store : Store} {w : Writer} (hwritten : store.Written)
    (hsame : c.store.SameBooks store) (hdrawn : w.drawn? = none) (hentered : w.entered? = none)
    (hasked : w.IsAsked) : (c.update p store w).Sound := by
  refine h.update hwritten (hsame.paired h.paired) (fun _ hq => hsame.ledgers (h.drawn hq)) ?_ ?_ ?_
    hasked
  · intro u x hx
    rwa [hsame.subsidies]
  · intro u hu
    cases hdrawn.symm.trans hu
  · intro x hx
    cases hentered.symm.trans hx

/-- **A step of a provision.** -/
theorem provide (h : c.Sound) {new : NewSubsidy} {run run' : ProvisionRun} {stamp : ProvisionStamp}
    {store : Store} (hw : c.writer p = .provide new run) (fresh : ∀ u ∈ run.draws stamp, c.Fresh u)
    (hmove : ProvisionRun.Move c.store stamp run store run') :
    (c.update p store (.provide new run')).Sound := by
  have hasked := h.asked p
  rw [hw] at hasked
  cases hmove with
  | declined | refused => exact h.update_of_sameBooks h.written (.refl _) rfl rfl trivial
  | opened =>
    exact h.update_of_sameBooks (h.written.write (.openLedger _ _ _))
      (Store.sameBooks_openLedger ..) rfl rfl trivial
  | @accepted new' hb =>
    obtain rfl : new' = new := hasked
    obtain ⟨-, hledger, hnobody⟩ := fresh stamp.ledger (List.mem_singleton_self _)
    refine h.update h.written h.paired (fun _ hq => h.drawn hq) id ?_ ?_ ⟨rfl, hb⟩
    · rintro u ⟨⟩
      exact ⟨hledger, fun {q} _ => hnobody q⟩
    · rintro x ⟨⟩
  | @entered x b hx =>
    have hdrawn : (c.writer p).drawn? = some x.ledgerUuid := by rw [hw]; rfl
    have hledger := h.drawn hdrawn
    have hwritten : (c.store.entered x).Written := by
      have hregistered := h.written.write (.register x)
      rwa [Store.after, Store.register_of_new hx] at hregistered
    refine h.update hwritten (h.paired.entered hx hledger) ?_ ?_ ?_ ?_ hasked
    · intro q u hq hu
      -- no other writer has drawn the ledger that is entered
      refine (Table.get?_insert_of_ne _ ?_ _).trans (h.drawn hu)
      rintro rfl
      exact hq (h.distinct hu hdrawn)
    · intro u y hy
      exact Table.get?_insert_of_get? hx hy x
    · rintro u ⟨⟩
    · rintro y ⟨⟩
      refine ⟨Table.get?_insert_self .., fun {q y} _ hy hxy => ?_⟩
      rw [hxy, h.entered hy] at hx
      cases hx

theorem step (h : c.Sound) (hs : Step c p d) : d.Sound := by
  cases hs with
  | call hw hcall =>
    cases hcall with
    | provide => exact h.update_of_sameBooks h.written (.refl _) rfl rfl rfl
    | openLedger | append => exact h.update_of_sameBooks h.written (.refl _) rfl rfl trivial
  | provide hw fresh hstep => exact h.provide hw fresh (ProvisionRun.move_of_step hstep)
  | openLedger =>
    exact h.update_of_sameBooks (h.written.write (.openLedger _ _ _))
      (Store.sameBooks_openLedger ..) rfl rfl trivial
  | append =>
    exact h.update_of_sameBooks (h.written.write (.append _)) (Store.sameBooks_append ..) rfl rfl
      trivial

theorem of_reachable (h : c.Reachable) : c.Sound := by
  induction h with
  | refl => exact sound_start
  | tail _ hs ih =>
    obtain ⟨p, hs⟩ := hs
    exact ih.step hs

end Sound
end Writers
end Bursar
