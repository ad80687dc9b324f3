import Bursar.Proofs.Json.Record
import Bursar.Proofs.Json.Value
import Bursar.Proofs.Text.Identifier
import Bursar.Proofs.Time.Timestamp

/-!
# What is written is read back

A decoder reads a value of its type back from JSON (`Decoder.ReadsBack`) if the JSON is
written without loss and the decoder makes that value of it. Strings, truth values,
identifiers, integers of 64 bits and instants come back from the form they are written in,
and so do options, lists and records of what comes back. The text of the whole is then
decoded to the value it was written from (`ReadsBack.decode`), as long as no more containers
nest in it than a decoder may open.
-/

namespace Bursar.Json

variable {α β : Type} {need : Nat}

/-! ## Decoders -/

namespace Decoder

variable {d : Decoder α} {j : Json} {a : α}

/-- The decoder reads the value back from the JSON, if it may open `need` containers. -/
structure ReadsBack (d : Decoder α) (need : Nat) (j : Json) (a : α) : Prop where
  exact : j.IsExact
  reads : d.Reads need j.raw a

/-- **The value is decoded from the text of the JSON.** -/
theorem ReadsBack.decode (h : d.ReadsBack need j a) (hneed : need ≤ maxDepth) :
    Json.decode d j.compact = .ok a := by
  rw [decode_compact d h.exact]
  exact h.reads maxDepth hneed

/-- A decoder that reads the front of a text finds the value there. -/
theorem ReadsBack.decodeLead (h : d.ReadsBack need j a) (hneed : need ≤ maxDepth) :
    Json.decodeLead d j.compact = .ok a := by
  rw [decodeLead_compact d h.exact]
  exact h.reads maxDepth hneed

theorem readsBack_string (need : Nat) (s : String) : string.ReadsBack need (.string s) s :=
  ⟨trivial, reads_string need s⟩

theorem readsBack_bool (need : Nat) (b : Bool) : bool.ReadsBack need (.bool b) b :=
  ⟨trivial, reads_bool need b⟩

theorem readsBack_parsed {read : String → Option α} {s : String} (h : read s = some a) (need : Nat) :
    (parsed read).ReadsBack need (.string s) a :=
  ⟨trivial, reads_parsed h need⟩

theorem readsBack_uuid (need : Nat) (u : Uuid) : uuid.ReadsBack need (.string u.toString) u :=
  readsBack_parsed u.parse?_toString need

theorem readsBack_timestamp {t : Timestamp} (h : t.IsWritable) (need : Nat) :
    timestamp.ReadsBack need (.string t.toString) t :=
  readsBack_parsed (Timestamp.parse?_toString h) need

theorem readsBack_name {names : List (String × α)} {s : String} (h : names.lookup s = some a)
    (need : Nat) :
    (name names).ReadsBack need (.string s) a :=
  ⟨trivial, reads_name h need⟩

theorem readsBack_int64 {n : Int} (h : Text.minInt64 ≤ n ∧ n ≤ Text.maxInt64) (need : Nat) :
    int64.ReadsBack need (.int n) n where
  exact := ⟨h.1, Int.le_trans h.2 (by decide)⟩
  reads := reads_integer h need

/-- A number is kept as it was written. -/
theorem readsBack_any_int {n : Int} (h : Text.minInt64 ≤ n ∧ n ≤ Text.maxInt64) (need : Nat) :
    any.ReadsBack need (.int n) (.int n) where
  exact := ⟨h.1, Int.le_trans h.2 (by decide)⟩
  reads := fun _ _ => by rw [any, int, raw, Raw.toJson]

theorem readsBack_nat64 {n : Nat} (h : n ≤ Text.maxNat64) (need : Nat) :
    nat64.ReadsBack need (.nat n) n where
  exact := ⟨Int.le_trans (by decide) (Int.natCast_nonneg n), Int.ofNat_le.mpr h⟩
  reads := reads_nat64 h need

theorem readsBack_none (d : Decoder α) (need : Nat) : d.option.ReadsBack need .null none :=
  ⟨trivial, reads_none d need⟩

/-- What is there is read back, if it is not written as `null`. -/
theorem ReadsBack.some (h : d.ReadsBack need j a) (hnull : j.raw ≠ .null) :
    d.option.ReadsBack need j (some a) :=
  ⟨h.exact, h.reads.option hnull⟩

theorem readsBack_optionString (need : Nat) (o : Option String) :
    string.option.ReadsBack need (.ofOptionString o) o := by
  cases o with
  | none => exact readsBack_none _ need
  | some s => exact (readsBack_string need s).some nofun

/-- **A list is read back item by item.** -/
theorem readsBack_list {write : α → Json} {as : List α} (h : ∀ a ∈ as, d.ReadsBack need (write a) a) :
    (list d).ReadsBack (need + 1) (.array (as.map write)) as := by
  have hitems : AllExact (as.map write) ∧
      List.Forall₂ (d.Reads need) (rawItems (as.map write)) as := by
    induction as with
    | nil => exact ⟨trivial, .nil⟩
    | cons a as ih =>
      have hfirst := h a List.mem_cons_self
      obtain ⟨hexact, hreads⟩ := ih fun b hb => h b (List.mem_cons_of_mem _ hb)
      exact ⟨⟨hfirst.exact, hexact⟩, .cons hfirst.reads hreads⟩
  exact ⟨hitems.1, reads_list hitems.2⟩

end Decoder

/-! ## Records -/

theorem rawMembers_eq (members : List (String × Json)) :
    rawMembers members = (members.map fun m => (m.1, m.2.raw)).map fun m => (some m.1, m.2) := by
  induction members with
  | nil => rfl
  | cons m members ih => simp [rawMembers, ih]

theorem MembersExact.append {members members' : List (String × Json)} (h : MembersExact members)
    (h' : MembersExact members') : MembersExact (members ++ members') := by
  induction members with
  | nil => exact h'
  | cons m members ih => exact ⟨h.1, ih h.2⟩

namespace Record

variable {d : Decoder α} {j : Json} {a : α} {members members' : List (String × Json)}

/-- The record reads the value back from the members of an object. -/
structure ReadsBack (r : Record α) (need : Nat) (members : List (String × Json)) (a : α) : Prop where
  exact : MembersExact members
  reads : r.Reads need (members.map fun m => (m.1, m.2.raw)) a

theorem readsBack_required (key : String) (h : d.ReadsBack need j a) :
    (required key d).ReadsBack need [(key, j)] a :=
  ⟨⟨h.exact, trivial⟩, reads_field h.reads key _ _⟩

theorem readsBack_nullable {o : Option α} (key : String) (h : d.option.ReadsBack need j o) :
    (nullable key d).ReadsBack need [(key, j)] o :=
  ⟨⟨h.exact, trivial⟩, reads_field h.reads key _ _⟩

theorem readsBack_optional {o : Option α} (key : String) (h : d.option.ReadsBack need j o) :
    (optional key d).ReadsBack need [(key, j)] o :=
  ⟨⟨h.exact, trivial⟩, reads_field h.reads key _ _⟩

theorem ReadsBack.map {r : Record α} (h : r.ReadsBack need members a) (g : α → β) :
    (g <$> r).ReadsBack need members (g a) :=
  ⟨h.exact, h.reads.map g⟩

theorem ReadsBack.seq {f : Record (α → β)} {r : Record α} {g : α → β}
    (hf : f.ReadsBack need members g) (hr : r.ReadsBack need members' a) :
    (f <*> r).ReadsBack need (members ++ members') (g a) where
  exact := hf.exact.append hr.exact
  reads := by
    rw [List.map_append]
    exact hf.reads.seq hr.reads

/-- **A record is read back from an object**, one container deeper. -/
theorem ReadsBack.object {r : Record α} (h : r.ReadsBack need members a)
    (hkeys : (r.fields.map Field.key).Nodup) :
    r.decoder.ReadsBack (need + 1) (.object members) a where
  exact := h.exact
  reads := by
    rw [raw, rawMembers_eq]
    exact reads_decoder h.reads hkeys

end Record
end Bursar.Json
