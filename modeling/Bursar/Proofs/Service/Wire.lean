import Bursar.Console.Client
import Bursar.Proofs.Json.ReadBack
import Bursar.Proofs.Ledger.DerivedKey
import Bursar.Service.Page
import Bursar.Service.View

/-!
# Answers survive the wire

The service writes a view as JSON and a client reads it as a view again. Field by field the
two agree: what `toJson` writes under a key is what the record reads there
(`ReversalView.readsBack`, `TransactionView.readsBack`, `SubsidyView.readsBack`), and a page
of what is read back is read back, however long it is (`Page.readsBack`).

Strings and metadata may be anything. Integers have to be of 64 bits, which they are where
they come from, and times have to be in a year of four digits.
-/

namespace Bursar

open Json Json.Decoder Json.Record

/-! ## What is written exactly -/

/-- The quantity has 64 bits, and the times can be written. -/
structure Reversal.Fits (r : Reversal) : Prop where
  quantity : Text.Fits64 r.quantity
  created : r.created.IsWritable
  modified : r.modified.IsWritable

/-- The integers have 64 bits, and the times can be written. -/
structure Transaction.Fits (t : Transaction) : Prop where
  learner : ∀ n ∈ t.learner, Text.Fits64 n
  quantity : Text.Fits64 t.quantity
  reversal : ∀ r ∈ t.reversal, r.Fits
  created : t.created.IsWritable
  modified : t.modified.IsWritable

/-- The numbers of a page have 64 bits. -/
structure Page.Fits {α : Type} (p : Page α) : Prop where
  total : p.total ≤ Text.maxNat64
  page : p.page ≤ Text.maxNat64
  pageSize : p.pageSize ≤ Text.maxNat64

/-! ## Views -/

theorem Uuid.readsBack_option (need : Nat) (o : Option Uuid) :
    uuid.option.ReadsBack need (Uuid.optionToJson o) o := by
  cases o with
  | none => exact readsBack_none _ need
  | some u => exact (readsBack_uuid need u).some nofun

theorem readsBack_intOption {o : Option Int} (h : ∀ n ∈ o, Text.Fits64 n) (need : Nat) :
    int64.option.ReadsBack need (intOptionToJson o) o := by
  cases o with
  | none => exact readsBack_none _ need
  | some n => exact (readsBack_int64 (h n rfl) need).some nofun

theorem Denomination.readsBack (need : Nat) (unit : Denomination) :
    Denomination.decoder.ReadsBack need (.string unit.toText) unit :=
  readsBack_name (by cases unit <;> decide) need

/-- **A reversal's view is read back.** -/
theorem ReversalView.readsBack {r : Reversal} (h : r.Fits) :
    ReversalView.record.decoder.ReadsBack 1 (ReversalView.of r).toJson (ReversalView.of r) :=
  (readsBack_required "uuid" (readsBack_uuid 0 r.uuid)).map ReversalView.mk
    |>.seq (readsBack_required "idempotency_key" (readsBack_string 0 r.key.text))
    |>.seq (readsBack_required "quantity" (readsBack_int64 h.quantity 0))
    |>.seq (readsBack_required "state" (readsBack_string 0 r.state.toText))
    |>.seq (readsBack_required "metadata" (readsBack_string 0 (metadataText r.metadata)))
    |>.seq (readsBack_required "created" (readsBack_timestamp h.created 0))
    |>.seq (readsBack_required "modified" (readsBack_timestamp h.modified 0))
    |>.object (by decide)

theorem ReversalView.readsBack_option {o : Option Reversal} (h : ∀ r ∈ o, r.Fits) :
    ReversalView.record.decoder.option.ReadsBack 1
      (match o.map ReversalView.of with | some r => r.toJson | none => .null)
      (o.map ReversalView.of) := by
  cases o with
  | none => exact readsBack_none _ 1
  | some r => exact (ReversalView.readsBack (h r rfl)).some nofun

/-- **A transaction's view is read back.** The reversal in it is one more container. -/
theorem TransactionView.readsBack {t : Transaction} (h : t.Fits) :
    TransactionView.record.decoder.ReadsBack 2 (TransactionView.of t).toJson (TransactionView.of t) :=
  (readsBack_required "uuid" (readsBack_uuid 1 t.uuid)).map TransactionView.mk
    |>.seq (readsBack_required "idempotency_key" (readsBack_string 1 t.key.text))
    |>.seq (readsBack_required "ledger" (readsBack_uuid 1 t.ledgerUuid))
    |>.seq (readsBack_nullable "lms_user_id" (readsBack_intOption h.learner 1))
    |>.seq (readsBack_nullable "content_key" (readsBack_optionString 1 t.contentKey))
    |>.seq (readsBack_nullable "subsidy_access_policy_uuid" (Uuid.readsBack_option 1 t.policyUuid))
    |>.seq (readsBack_required "metadata" (readsBack_string 1 (metadataText t.metadata)))
    |>.seq (readsBack_required "unit" (Denomination.readsBack 1 t.unit))
    |>.seq (readsBack_required "quantity" (readsBack_int64 h.quantity 1))
    |>.seq (readsBack_nullable "reference_id" (readsBack_optionString 1 t.referenceId))
    |>.seq (readsBack_nullable "reference_type" (readsBack_optionString 1 t.referenceType))
    |>.seq (readsBack_nullable "reversal" (ReversalView.readsBack_option h.reversal))
    |>.seq (readsBack_required "state" (readsBack_string 1 t.state.toText))
    |>.seq (readsBack_required "created" (readsBack_timestamp h.created 1))
    |>.seq (readsBack_required "modified" (readsBack_timestamp h.modified 1))
    |>.object (by decide)

/-- **A subsidy's view is read back.** -/
theorem SubsidyView.readsBack {s : SubsidyView} (h : Text.Fits64 s.balance) :
    SubsidyView.record.decoder.ReadsBack 1 s.toJson s :=
  (readsBack_required "uuid" (readsBack_uuid 0 s.uuid)).map SubsidyView.mk
    |>.seq (readsBack_required "title" (readsBack_string 0 s.title))
    |>.seq (readsBack_required "enterprise_customer_uuid" (readsBack_uuid 0 s.enterprise))
    |>.seq (readsBack_required "active_datetime" (readsBack_string 0 s.active))
    |>.seq (readsBack_required "expiration_datetime" (readsBack_string 0 s.expiration))
    |>.seq (readsBack_required "unit" (Denomination.readsBack 0 s.unit))
    |>.seq (readsBack_nullable "reference_id" (readsBack_optionString 0 s.referenceId))
    |>.seq (readsBack_nullable "reference_type" (readsBack_optionString 0 s.referenceType))
    |>.seq (readsBack_required "current_balance" (readsBack_int64 h 0))
    |>.object (by decide)

/-- **A page of what is read back is read back**, however many items it has. -/
theorem Page.readsBack {α : Type} {d : Json.Decoder α} {write : α → Json} {need : Nat} {p : Page α}
    (h : p.Fits) (hitems : ∀ a ∈ p.items, d.ReadsBack need (write a) a) :
    (Page.record d).decoder.ReadsBack (need + 2) (p.toJson write) p :=
  (readsBack_required "items" (readsBack_list hitems)).map Page.mk
    |>.seq (readsBack_required "total" (readsBack_nat64 h.total (need + 1)))
    |>.seq (readsBack_required "page" (readsBack_nat64 h.page (need + 1)))
    |>.seq (readsBack_required "page_size" (readsBack_nat64 h.pageSize (need + 1)))
    |>.seq (readsBack_required "has_more" (readsBack_bool (need + 1) p.hasMore))
    |>.object (show ["items", "total", "page", "page_size", "has_more"].Nodup by decide)

/-! ## Answers -/

/-- The view says of the transaction what is so. -/
structure TransactionView.Shows (v : TransactionView) (t : Transaction) : Prop where
  uuid : v.uuid = t.uuid
  ledger : v.ledger = t.ledgerUuid
  quantity : v.quantity = t.quantity
  state : TransactionState.names.lookup v.state = some t.state
  reversal : v.reversal.map ReversalView.quantity = t.reversal.map Reversal.quantity
  created : v.created = t.created
  modified : v.modified = t.modified

theorem TransactionView.shows_of (t : Transaction) : (TransactionView.of t).Shows t where
  uuid := rfl
  ledger := rfl
  quantity := rfl
  state := by
    change TransactionState.names.lookup t.state.toText = some t.state
    cases t.state <;> decide
  reversal := by
    change (t.reversal.map ReversalView.of).map ReversalView.quantity = _
    rw [Option.map_map]
    rfl
  created := rfl
  modified := rfl

/-- A client has the value of an answer that is read back. -/
theorem Console.Client.readAnswer_ofJson {α : Type} {d : Json.Decoder α} {j : Json} {a : α}
    {need status : Nat}
    (h : d.ReadsBack need j a) (hneed : need ≤ Json.maxDepth) (hstatus : Http.isSuccess status = true) :
    readAnswer d (.ok (.ofJson status j)) = .ok a := by
  simp [readAnswer, Http.Response.ofJson, hstatus, Call.readBody, h.decode hneed]

/-- **Answers survive the wire.** A client that is answered with a transaction, a subsidy or a page of
either has just the view that the service answered with, and the view of a transaction says of it what
is so: whatever its strings and metadata are, with or without a reversal, to the nanosecond. -/
theorem answers_survive_the_wire {status : Nat} (hstatus : Http.isSuccess status = true) :
    (∀ t : Transaction, t.Fits →
      Console.Client.readAnswer TransactionView.record.decoder
        (.ok (.ofJson status (TransactionView.of t).toJson)) = .ok (.of t) ∧
      (TransactionView.of t).Shows t) ∧
    (∀ (p : Page TransactionView) (ts : List Transaction), p.items = ts.map .of → p.Fits →
      (∀ t ∈ ts, t.Fits) →
      Console.Client.readAnswer (Page.record TransactionView.record.decoder).decoder
        (.ok (.ofJson status (p.toJson TransactionView.toJson))) = .ok p ∧
      List.Forall₂ TransactionView.Shows p.items ts) ∧
    (∀ s : SubsidyView, Text.Fits64 s.balance →
      Console.Client.readAnswer SubsidyView.record.decoder (.ok (.ofJson status s.toJson)) = .ok s) ∧
    (∀ p : Page SubsidyView, p.Fits → (∀ s ∈ p.items, Text.Fits64 s.balance) →
      Console.Client.readAnswer (Page.record SubsidyView.record.decoder).decoder
        (.ok (.ofJson status (p.toJson SubsidyView.toJson))) = .ok p) := by
  refine ⟨fun t ht => ⟨?_, TransactionView.shows_of t⟩, fun p ts hviews hp hts => ⟨?_, ?_⟩, fun s hs => ?_,
    fun p hp hitems => ?_⟩
  · exact Console.Client.readAnswer_ofJson (TransactionView.readsBack ht) (by decide) hstatus
  · have hitems : ∀ v ∈ p.items, TransactionView.record.decoder.ReadsBack 2 v.toJson v := by
      intro v hv
      rw [hviews] at hv
      obtain ⟨t, ht, rfl⟩ := List.mem_map.mp hv
      exact TransactionView.readsBack (hts t ht)
    exact Console.Client.readAnswer_ofJson (Page.readsBack hp hitems) (by decide) hstatus
  · rw [hviews]
    exact List.forall₂_map_left_iff.mpr (List.forall₂_same.mpr fun t _ => TransactionView.shows_of t)
  · exact Console.Client.readAnswer_ofJson (SubsidyView.readsBack hs) (by decide) hstatus
  · have hviews := fun s hs => SubsidyView.readsBack (hitems s hs)
    exact Console.Client.readAnswer_ofJson (Page.readsBack hp hviews) (by decide) hstatus

/-- A reversed transaction with quotes and line breaks in its key, made in a leap second and changed in
the last nanosecond of four digits. -/
def Transaction.extreme : Transaction where
  uuid := Uuid.nil
  key := ⟨"\"k\"\n\u0001 é"⟩
  ledgerUuid := Uuid.nil
  learner := some Text.minInt64
  contentKey := none
  policyUuid := some Uuid.nil
  unit := .seats
  quantity := Text.minInt64
  state := .committed
  referenceId := some "\\"
  referenceType := none
  reversal := some
    { uuid := Uuid.nil
      transactionUuid := Uuid.nil
      key := ⟨""⟩
      quantity := Text.maxInt64
      state := .committed
      metadata := [("é", .null)]
      created := ⟨0, 1000⟩
      modified := ⟨0, 0⟩ }
  metadata := []
  created := ⟨59, 1500000000⟩
  modified := ⟨253402300799, 999999999⟩

theorem Transaction.extreme_fits : Transaction.extreme.Fits where
  learner := by
    rintro n ⟨⟩
    exact ⟨by decide, by decide⟩
  quantity := ⟨by decide, by decide⟩
  reversal := by
    rintro r ⟨⟩
    exact ⟨⟨by decide, by decide⟩, ⟨.inl (by decide), by decide⟩, ⟨.inl (by decide), by decide⟩⟩
  created := ⟨.inr (by decide), by decide⟩
  modified := ⟨.inl (by decide), by decide⟩

theorem answers_survive_the_wire_extreme :
    Http.isSuccess 200 = true ∧ Transaction.extreme.Fits ∧
      Console.Client.readAnswer TransactionView.record.decoder
        (.ok (.ofJson 200 (TransactionView.of .extreme).toJson)) = .ok (.of .extreme) ∧
      Console.Client.readAnswer (Page.record TransactionView.record.decoder).decoder
        (.ok (.ofJson 200 ((Page.of [.of .extreme] .first).toJson TransactionView.toJson))) =
          .ok (Page.of [.of .extreme] .first) := by
  have hall := answers_survive_the_wire (show Http.isSuccess 200 = true by decide)
  have hpage : (Page.of [TransactionView.of .extreme] .first).Fits := ⟨by decide, by decide, by decide⟩
  have hitems : ∀ t ∈ [Transaction.extreme], t.Fits := by simpa using Transaction.extreme_fits
  exact ⟨by decide, Transaction.extreme_fits, (hall.1 .extreme Transaction.extreme_fits).1,
    (hall.2.1 _ [.extreme] rfl hpage hitems).1⟩

end Bursar
