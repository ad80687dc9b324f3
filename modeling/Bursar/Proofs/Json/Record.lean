import Bursar.Json.Decode
import Mathlib.Data.List.Forall2
import Mathlib.Data.List.Nodup

/-!
# Records are read field by field

A decoder reads a tree as a value if it may open as many containers as the tree nests
(`Decoder.Reads`). A record reads a list of members as a value if these are its fields, in
order, each one read by its own decoder (`Record.Reads`); that is put together as the
record is, from its fields (`reads_field`, `Reads.map`, `Reads.seq`).

Such a list is what an object of the record looks like, as long as the record has no two
fields of one key: each key is known, none is repeated, and each field finds its own value
(`Record.reads_decoder`).
-/

namespace Bursar.Json

namespace Decoder

variable {α β : Type} {d : Decoder α} {need : Nat} {tree : Raw} {a : α}

/-- The decoder reads the tree as the value, if it may open `need` containers. -/
def Reads (d : Decoder α) (need : Nat) (tree : Raw) (a : α) : Prop :=
  ∀ depth, need ≤ depth → d depth tree = .ok a

theorem reads_string (need : Nat) (s : String) : Decoder.string.Reads need (.text (some s)) s :=
  fun _ _ => rfl

theorem reads_bool (need : Nat) (b : Bool) : Decoder.bool.Reads need (.bool b) b := fun _ _ => rfl

theorem reads_parsed {read : String → Option α} {s : String} (h : read s = some a) (need : Nat) :
    (parsed read).Reads need (.text (some s)) a := by
  intro depth _
  have hs : string depth (.text (some s)) = .ok s := rfl
  simp [parsed, hs, h, bind, Except.bind]

theorem reads_integer {low high n : Int} (h : low ≤ n ∧ n ≤ high) (need : Nat) :
    (integer low high).Reads need (.number (some (.int n))) n := by
  intro depth _
  simp [integer, h]

theorem reads_nat64 {n : Nat} (h : n ≤ Text.maxNat64) (need : Nat) :
    nat64.Reads need (.number (some (.int n))) n := by
  intro depth hdepth
  have hn : (0 : Int) ≤ n ∧ (n : Int) ≤ Text.maxNat64 := by omega
  simp [nat64, reads_integer hn need depth hdepth, Except.map]

theorem reads_name {names : List (String × α)} {s : String} (h : names.lookup s = some a) (need : Nat) :
    (name names).Reads need (.text (some s)) a := by
  intro depth _
  simp [name, h]

theorem reads_none (d : Decoder α) (need : Nat) : d.option.Reads need .null none := fun _ _ => rfl

/-- What is there is read as it would be by itself, if it is not written as `null`. -/
theorem Reads.option (h : d.Reads need tree a) (hnull : tree ≠ .null) :
    d.option.Reads need tree (some a) := by
  intro depth hdepth
  have hread := h depth hdepth
  unfold Decoder.option
  split
  · exact absurd rfl hnull
  · simp [hread, Except.map]

theorem items_eq_ok {trees : List Raw} {as : List α} {depth : Nat}
    (h : List.Forall₂ (fun tree a => d depth tree = .ok a) trees as) :
    items d depth trees = .ok as := by
  induction h with
  | nil => rfl
  | cons hd _ ih => simp [items, hd, ih, bind, Except.bind, pure, Except.pure]

/-- **A list is read item by item**, one container deeper. -/
theorem reads_list {trees : List Raw} {as : List α} (h : List.Forall₂ (d.Reads need) trees as) :
    (list d).Reads (need + 1) (.array trees .closed) as := by
  intro depth hdepth
  obtain ⟨depth, rfl⟩ : ∃ k, depth = k + 1 := ⟨depth - 1, by omega⟩
  have hitems := items_eq_ok (h.imp fun _ _ hread => hread depth (by omega))
  simp [list, hitems, closeItems, bind, Except.bind, pure, Except.pure]

end Decoder

namespace Record

variable {α β : Type} {need : Nat} {members members' : List (String × Raw)}

/-- The field has the key of the member, and its value passes. -/
structure Takes (need : Nat) (f : Field) (m : String × Raw) : Prop where
  key : f.key = m.1
  check : f.check.Reads need m.2 ()

/-- The record reads the members as the value: they are its fields, in order. -/
structure Reads (r : Record α) (need : Nat) (members : List (String × Raw)) (a : α) : Prop where
  fields : List.Forall₂ (Takes need) r.fields members
  build : ∀ {depth get}, need ≤ depth → (∀ m ∈ members, get m.1 = some m.2) → r.build depth get = .ok a

/-- The keys of the members are those of the record. -/
theorem Reads.keys {r : Record α} {a : α} (h : r.Reads need members a) :
    members.map Prod.fst = r.fields.map Field.key := by
  rw [← List.forall₂_eq_eq_eq, List.forall₂_map_left_iff, List.forall₂_map_right_iff]
  exact h.fields.flip.imp fun _ _ htakes => htakes.key.symm

/-- **A field is read by its decoder.** -/
theorem reads_field {d : Decoder α} {tree : Raw} {a : α} (h : d.Reads need tree a) (key : String)
    (mayEnd : Bool) (absent : Except Fault α) :
    (field key mayEnd absent d).Reads need [(key, tree)] a where
  fields := by
    refine .cons ⟨rfl, fun depth hdepth => ?_⟩ .nil
    simp [h depth hdepth, Except.map]
  build := by
    intro depth get hdepth hget
    have hfound : get key = some tree := hget _ (List.mem_singleton_self _)
    simp [field, hfound, h depth hdepth]

/-- **Two parts of a record are read one after the other.** -/
theorem Reads.seq {f : Record (α → β)} {r : Record α} {g : α → β} {a : α}
    (hf : f.Reads need members g) (hr : r.Reads need members' a) :
    (f <*> r).Reads need (members ++ members') (g a) where
  fields := List.rel_append hf.fields hr.fields
  build := by
    intro depth get hdepth hget
    have hfirst := hf.build hdepth fun m hm => hget m (List.mem_append_left _ hm)
    have hsecond := hr.build hdepth fun m hm => hget m (List.mem_append_right _ hm)
    change (f.build depth get).bind (fun g => (r.build depth get).bind fun x => .ok (g x)) = _
    rw [hfirst, hsecond]
    rfl

theorem Reads.map {r : Record α} {a : α} (hr : r.Reads need members a) (g : α → β) :
    (g <$> r).Reads need members (g a) :=
  Reads.seq (f := pure g) ⟨.nil, fun _ _ => rfl⟩ hr

/-- Where no key stands twice, a member is found under its key. -/
theorem lookup_of_mem {m : String × Raw} (hkeys : (members.map Prod.fst).Nodup) (hm : m ∈ members) :
    members.lookup m.1 = some m.2 := by
  obtain ⟨before, after, rfl⟩ := List.append_of_mem hm
  rw [List.lookup_eq_some_iff]
  refine ⟨before, after, rfl, fun p hp => bne_iff_ne.mpr ?_⟩
  intro he
  rw [List.map_append, List.map_cons, List.nodup_append] at hkeys
  exact hkeys.2.2 _ (List.mem_map_of_mem hp) _ List.mem_cons_self he.symm

/-- Where no key stands twice, the field of a member is found under its key. -/
theorem find?_of_mem {fields : List Field} {m : String × Raw}
    (h : List.Forall₂ (Takes need) fields members) (hkeys : (members.map Prod.fst).Nodup)
    (hm : m ∈ members) :
    ∃ f, fields.find? (fun f => f.key = m.1) = some f ∧ f.check.Reads need m.2 () := by
  induction h with
  | nil => cases hm
  | @cons f m' fields members hf _ ih =>
    obtain ⟨hnew, hkeys⟩ := List.nodup_cons.mp hkeys
    rcases List.mem_cons.mp hm with rfl | hm
    · exact ⟨f, by simp [hf.key], hf.check⟩
    · have hne : f.key ≠ m.1 := by
        intro he
        exact hnew (List.mem_map.mpr ⟨m, hm, by rw [← he, hf.key]⟩)
      obtain ⟨g, hg, hcheck⟩ := ih hkeys hm
      exact ⟨g, by rw [List.find?_cons_of_neg (by simpa using hne), hg], hcheck⟩

/-- **Members that are known and not repeated are collected.** -/
theorem collectMembers_eq_ok {fields : List Field} {depth : Nat} {found : List (String × Raw)}
    (hfields : ∀ m ∈ members, ∃ f, fields.find? (fun f => f.key = m.1) = some f ∧
      f.check depth m.2 = .ok ())
    (hkeys : ((found.reverse ++ members).map Prod.fst).Nodup) :
    collectMembers fields depth .closed (members.map fun m => (some m.1, m.2)) found =
      .ok (members.reverse ++ found) := by
  induction members generalizing found with
  | nil => rfl
  | cons m members ih =>
    obtain ⟨f, hf, hcheck⟩ := hfields m List.mem_cons_self
    have hnew : found.lookup m.1 = none := by
      rw [List.lookup_eq_none_iff]
      intro p hp
      rw [List.map_append, List.map_cons, List.nodup_append] at hkeys
      exact bne_iff_ne.mpr (hkeys.2.2 _ (List.mem_map_of_mem (List.mem_reverse.mpr hp)) _
        List.mem_cons_self).symm
    have hrest := @ih (m :: found) (fun m' hm' => hfields m' (List.mem_cons_of_mem _ hm'))
      (by simpa using hkeys)
    simp [collectMembers, hf, hnew, hcheck, bind, Except.bind, hrest]

/-- **An object with the members of a record is read**, one container deeper. -/
theorem reads_decoder {r : Record α} {a : α} (h : r.Reads need members a)
    (hkeys : (r.fields.map Field.key).Nodup) :
    r.decoder.Reads (need + 1) (.object (members.map fun m => (some m.1, m.2)) .closed) a := by
  rw [← h.keys] at hkeys
  intro depth hdepth
  obtain ⟨depth, rfl⟩ : ∃ k, depth = k + 1 := ⟨depth - 1, by omega⟩
  have hneed : need ≤ depth := by omega
  have hcollected : collectMembers r.fields depth .closed
      (members.map fun m => (some m.1, m.2)) [] = .ok (members.reverse ++ []) := by
    refine collectMembers_eq_ok (fun m hm => ?_) hkeys
    obtain ⟨f, hf, hcheck⟩ := find?_of_mem h.fields hkeys hm
    exact ⟨f, hf, hcheck depth hneed⟩
  have hbuilt : r.build depth (fun key => members.reverse.lookup key) = .ok a := by
    refine h.build hneed fun m hm => lookup_of_mem ?_ (List.mem_reverse.mpr hm)
    rw [List.map_reverse]
    exact List.nodup_reverse.mpr hkeys
  simp [decoder, hcollected, hbuilt, bind, Except.bind]

end Record
end Bursar.Json
