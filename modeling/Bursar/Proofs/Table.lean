import Bursar.Table
import Mathlib.Data.List.Nodup
import Mathlib.Logic.Function.Basic

/-!
# What a table holds

A `Table` is searched by `get?` and listed by `entries`, `keys` and `values`. The
two views agree as long as no key stands in the list twice, which insertion
keeps (`nodup_keys_insert`). A new key goes to the end of the list
(`entries_insert_of_none`); a known one keeps its place, between the same
entries before and after it (`exists_split_of_get?`).

What is looked up is worked on in steps that can fail. Such a computation gives a value
exactly if every step does (`bind_eq_ok_iff`). Who works on it has a place of its own, and
what is put in one of the places has to clash with no other (`eq_of_clash_update`).
-/

namespace Bursar.Table

variable {κ α : Type} [DecidableEq κ]

theorem contains_eq_false_iff {t : Table κ α} {k : κ} :
    t.contains k = false ↔ t.get? k = none := by
  simp [contains]

theorem get?_insert_self (t : Table κ α) (k : κ) (a : α) : (t.insert k a).get? k = some a := by
  rw [get?_insert, if_pos rfl]

theorem get?_insert_of_ne (t : Table κ α) {k j : κ} (h : j ≠ k) (a : α) :
    (t.insert k a).get? j = t.get? j := by
  rw [get?_insert, if_neg h]

/-- What stands in a table after an insertion is the new entry, or an old one under
another key. -/
theorem get?_insert_cases {t : Table κ α} {k j : κ} {a b : α} (h : (t.insert k a).get? j = some b) :
    (j = k ∧ b = a) ∨ (j ≠ k ∧ t.get? j = some b) := by
  rw [get?_insert] at h
  by_cases hj : j = k
  · rw [if_pos hj] at h
    exact .inl ⟨hj, (Option.some.inj h).symm⟩
  · rw [if_neg hj] at h
    exact .inr ⟨hj, h⟩

/-- An old entry is still there unless its key is the new one. -/
theorem get?_insert_of_get? {t : Table κ α} {k j : κ} {b : α} (hk : t.get? k = none)
    (h : t.get? j = some b) (a : α) : (t.insert k a).get? j = some b := by
  refine (get?_insert_of_ne _ ?_ _).trans h
  rintro rfl
  rw [hk] at h
  cases h

/-- What is in a table is still in it after an insertion. -/
theorem isSome_get?_insert {t : Table κ α} {j : κ} (h : (t.get? j).isSome) (k : κ) (a : α) :
    ((t.insert k a).get? j).isSome := by
  rw [get?_insert]
  by_cases hj : j = k
  · simp [hj]
  · simpa [hj] using h

theorem find_filter_ne (k j : κ) (l : List (κ × α)) :
    find j (l.filter fun e => e.1 ≠ k) = if j = k then none else find j l := by
  induction l with
  | nil => simp [find]
  | cons e rest ih =>
    obtain ⟨k', b⟩ := e
    by_cases hk : k' = k
    · subst hk
      rw [List.filter_cons_of_neg (by simp), ih]
      by_cases hj : j = k' <;> simp [find, hj]
    · rw [List.filter_cons_of_pos (by simpa using hk), find, find, ih]
      by_cases hj : j = k
      · subst hj; simp [Ne.symm hk]
      · simp [hj]

/-- After an erasure the key has no value and every other key what it had. -/
theorem get?_erase (t : Table κ α) (k j : κ) :
    (t.erase k).get? j = if j = k then none else t.get? j :=
  find_filter_ne k j t.entries

/-! ## The list of entries -/

theorem find_eq_none_iff {k : κ} {l : List (κ × α)} : find k l = none ↔ k ∉ l.map (·.1) := by
  induction l with
  | nil => simp [find]
  | cons e rest ih =>
    obtain ⟨k', b⟩ := e
    by_cases hk : k = k' <;> simp [find, hk, ih]

theorem get?_eq_none_iff {t : Table κ α} {k : κ} : t.get? k = none ↔ k ∉ t.keys :=
  find_eq_none_iff

theorem put_eq_append {k : κ} {l : List (κ × α)} (h : find k l = none) (a : α) :
    put k a l = l ++ [(k, a)] := by
  induction l with
  | nil => rfl
  | cons e rest ih =>
    obtain ⟨k', b⟩ := e
    have hk : k ≠ k' := by rintro rfl; simp [find] at h
    rw [put, if_neg hk, ih (by simpa [find, hk] using h), List.cons_append]

/-- What stands in a list after something is put in is what was put in, or stood there. -/
theorem mem_put {k : κ} {a : α} {l : List (κ × α)} {e : κ × α} (h : e ∈ put k a l) :
    e = (k, a) ∨ e ∈ l := by
  induction l with
  | nil => exact .inl (List.mem_singleton.mp h)
  | cons f rest ih =>
    obtain ⟨k', b⟩ := f
    by_cases hk : k = k'
    · rw [put, if_pos hk] at h
      exact (List.mem_cons.mp h).imp_right (List.mem_cons_of_mem _)
    · rw [put, if_neg hk] at h
      rcases List.mem_cons.mp h with rfl | hrest
      · exact .inr List.mem_cons_self
      · exact (ih hrest).imp_right (List.mem_cons_of_mem _)

/-- A new key goes to the end. -/
theorem entries_insert_of_none {t : Table κ α} {k : κ} (h : t.get? k = none) (a : α) :
    (t.insert k a).entries = t.entries ++ [(k, a)] :=
  put_eq_append h a

theorem exists_split_of_find {k : κ} {a : α} {l : List (κ × α)} (h : find k l = some a) (b : α) :
    ∃ pre post, l = pre ++ (k, a) :: post ∧ put k b l = pre ++ (k, b) :: post := by
  induction l with
  | nil => simp [find] at h
  | cons e rest ih =>
    obtain ⟨k', c⟩ := e
    by_cases hk : k = k'
    · subst hk
      obtain rfl : c = a := by simpa [find] using h
      exact ⟨[], rest, rfl, by simp [put]⟩
    · obtain ⟨pre, post, hl, hput⟩ := ih (by simpa [find, hk] using h)
      exact ⟨(k', c) :: pre, post, by rw [hl]; rfl, by rw [put, if_neg hk, hput]; rfl⟩

/-- A known key stands between the same entries before and after its value is replaced. -/
theorem exists_split_of_get? {t : Table κ α} {k : κ} {a : α} (h : t.get? k = some a) (b : α) :
    ∃ pre post, t.entries = pre ++ (k, a) :: post ∧ (t.insert k b).entries = pre ++ (k, b) :: post :=
  exists_split_of_find h b

theorem keys_insert_of_none {t : Table κ α} {k : κ} (h : t.get? k = none) (a : α) :
    (t.insert k a).keys = t.keys ++ [k] := by
  simp [keys, entries_insert_of_none h]

theorem keys_insert_of_some {t : Table κ α} {k : κ} {a : α} (h : t.get? k = some a) (b : α) :
    (t.insert k b).keys = t.keys := by
  obtain ⟨pre, post, ht, hb⟩ := exists_split_of_get? h b
  simp [keys, ht, hb]

theorem values_insert_of_none {t : Table κ α} {k : κ} (h : t.get? k = none) (a : α) :
    (t.insert k a).values = t.values ++ [a] := by
  simp [values, entries_insert_of_none h]

theorem nodup_keys_insert {t : Table κ α} (h : t.keys.Nodup) (k : κ) (a : α) :
    (t.insert k a).keys.Nodup := by
  cases hk : t.get? k with
  | none =>
    rw [keys_insert_of_none hk, List.nodup_append]
    refine ⟨h, by simp, ?_⟩
    rintro j hj _ hk' rfl
    obtain rfl := List.mem_singleton.mp hk'
    exact get?_eq_none_iff.mp hk hj
  | some b => rwa [keys_insert_of_some hk]

theorem mem_entries_of_get? {t : Table κ α} {k : κ} {a : α} (h : t.get? k = some a) :
    (k, a) ∈ t.entries := by
  obtain ⟨pre, post, ht, -⟩ := exists_split_of_get? h a
  simp [ht]

theorem find_of_mem {k : κ} {a : α} {l : List (κ × α)} (h : (l.map (·.1)).Nodup) (hm : (k, a) ∈ l) :
    find k l = some a := by
  induction l with
  | nil => simp at hm
  | cons e rest ih =>
    obtain ⟨k', b⟩ := e
    obtain ⟨hnot, hrest⟩ := List.nodup_cons.mp h
    rcases List.mem_cons.mp hm with he | hmem
    · obtain ⟨rfl, rfl⟩ := Prod.mk.inj he
      simp [find]
    · have hk : k ≠ k' := by
        rintro rfl
        exact hnot (List.mem_map.mpr ⟨(k, a), hmem, rfl⟩)
      rw [find, if_neg hk, ih hrest hmem]

/-- Where no key stands twice, the entries are what `get?` finds. -/
theorem mem_entries_iff {t : Table κ α} (h : t.keys.Nodup) {k : κ} {a : α} :
    (k, a) ∈ t.entries ↔ t.get? k = some a :=
  ⟨find_of_mem h, mem_entries_of_get?⟩

omit [DecidableEq κ] in
theorem nodup_keys_retain {t : Table κ α} (h : t.keys.Nodup) (p : κ → α → Bool) :
    (t.retain p).keys.Nodup :=
  h.sublist (List.filter_sublist.map _)

theorem nodup_keys_erase {t : Table κ α} (h : t.keys.Nodup) (k : κ) : (t.erase k).keys.Nodup :=
  h.sublist (List.filter_sublist.map _)

/-- What is retained is what the test accepts of what was there. -/
theorem get?_retain_eq_some_iff {t : Table κ α} (h : t.keys.Nodup) {p : κ → α → Bool} {k : κ} {a : α} :
    (t.retain p).get? k = some a ↔ t.get? k = some a ∧ p k a = true := by
  rw [← mem_entries_iff (nodup_keys_retain h p), ← mem_entries_iff h]
  exact List.mem_filter

theorem mem_values_iff {t : Table κ α} (h : t.keys.Nodup) {a : α} :
    a ∈ t.values ↔ ∃ k, t.get? k = some a := by
  simp only [values, List.mem_map, Prod.exists, exists_eq_right]
  exact exists_congr fun k => mem_entries_iff h

/-- Where the values name their keys, the names in order are the keys in order. -/
theorem map_values {t : Table κ α} (h : t.keys.Nodup) {name : α → κ}
    (hname : ∀ {k a}, t.get? k = some a → name a = k) : t.values.map name = t.keys := by
  rw [values, List.map_map, keys]
  refine List.map_congr_left ?_
  rintro ⟨k, a⟩ he
  exact hname ((mem_entries_iff h).mp he)

theorem filterMap_keys {t : Table κ α} (h : t.keys.Nodup) : t.keys.filterMap t.get? = t.values := by
  rw [keys, List.filterMap_map, values, ← List.filterMap_eq_map]
  refine List.filterMap_congr ?_
  rintro ⟨k, a⟩ he
  exact (mem_entries_iff h).mp he

end Bursar.Table

namespace Bursar

/-! ## Steps that can fail -/

variable {ε α β : Type} {x : Except ε α} {a : α}

theorem bind_eq_ok_iff {f : α → Except ε β} {b : β} :
    x >>= f = .ok b ↔ ∃ a, x = .ok a ∧ f a = .ok b := by
  cases x with
  | error e => simp [bind, Except.bind]
  | ok a => simp [bind, Except.bind]

theorem toOption_eq_some_iff : x.toOption = some a ↔ x = .ok a := by
  cases x <;> simp [Except.toOption]

/-! ## Places that must not clash -/

/-- If no two places clash, and what is put in one of them clashes with no other, then still no two
places do. -/
theorem eq_of_clash_update {R : β → β → Prop} {f : Nat → β} {p : Nat} {b : β}
    (hsymm : ∀ {x y}, R x y → R y x) (h : ∀ {q r}, R (f q) (f r) → q = r)
    (hb : ∀ {q}, q ≠ p → ¬ R b (f q)) {q r : Nat}
    (hqr : R (Function.update f p b q) (Function.update f p b r)) : q = r := by
  by_cases hq : q = p <;> by_cases hr : r = p
  · rw [hq, hr]
  · rw [hq, Function.update_self, Function.update_of_ne hr] at hqr
    exact absurd hqr (hb hr)
  · rw [hr, Function.update_self, Function.update_of_ne hq] at hqr
    exact absurd (hsymm hqr) (hb hq)
  · rw [Function.update_of_ne hq, Function.update_of_ne hr] at hqr
    exact h hqr

end Bursar
