import Bursar.Proofs.Json.Value
import Mathlib.Data.String.Basic

/-!
# Sorted values are read back as they are

A value of any shape is read with the members of its objects sorted and the last of equal
keys kept. Where the keys are in order to begin with (`Json.IsSorted`), each member is put
behind those before it, and nothing is moved or lost: the text of such a value is parsed
to the value itself (`Json.parse_compact`), as long as no more containers nest in it than
may be opened (`Json.nesting`).
-/

namespace Bursar.Json

/-- The keys of the members are in order, and none stands twice. -/
def KeysSorted {α : Type} (members : List (String × α)) : Prop :=
  (members.map Prod.fst).Pairwise (· < ·)

mutual
/-- The members of all objects are sorted. -/
def IsSorted : Json → Prop
  | .null | .bool _ | .number _ | .string _ => True
  | .array items => AllSorted items
  | .object members => KeysSorted members ∧ MembersSorted members

/-- All items are sorted. -/
def AllSorted : List Json → Prop
  | [] => True
  | item :: items => item.IsSorted ∧ AllSorted items

/-- The values of all members are sorted. -/
def MembersSorted : List (String × Json) → Prop
  | [] => True
  | (_, value) :: members => value.IsSorted ∧ MembersSorted members
end

mutual
/-- How many containers nest in a value. -/
def nesting : Json → Nat
  | .null | .bool _ | .number _ | .string _ => 0
  | .array items => nestingOfItems items + 1
  | .object members => nestingOfMembers members + 1

/-- How many containers nest in items. -/
def nestingOfItems : List Json → Nat
  | [] => 0
  | item :: items => max item.nesting (nestingOfItems items)

/-- How many containers nest in the values of members. -/
def nestingOfMembers : List (String × Json) → Nat
  | [] => 0
  | (_, value) :: members => max value.nesting (nestingOfMembers members)
end

/-! ## Members in order -/

theorem keysSorted_cons_iff {α : Type} {m : String × α} {members : List (String × α)} :
    KeysSorted (m :: members) ↔ (∀ n ∈ members, m.1 < n.1) ∧ KeysSorted members := by
  simp [KeysSorted]

/-- A member with a key greater than all others is put behind them. -/
theorem putMember_of_lt {key : String} {entries : List (String × Json)}
    (h : ∀ e ∈ entries, e.1 < key) (value : Json) :
    putMember key value entries = entries ++ [(key, value)] := by
  induction entries with
  | nil => rfl
  | cons e entries ih =>
    have hlt : e.1 < key := h e List.mem_cons_self
    have hrest := ih fun e' he' => h e' (List.mem_cons_of_mem _ he')
    simp [putMember, hlt.not_gt, hlt.ne', hrest]

/-! ## Trees -/

mutual
/-- **A sorted value is made of its tree.** -/
theorem toJson_raw : (j : Json) → j.IsSorted → ∀ {depth : Nat}, j.nesting ≤ depth →
    j.raw.toJson depth = .ok j
  | .null, _, _, _ => by rw [raw, Raw.toJson]
  | .bool b, _, _, _ => by rw [raw, Raw.toJson]
  | .number n, _, _, _ => by rw [raw, Raw.toJson]
  | .string s, _, _, _ => by rw [raw, Raw.toJson]
  | .array items, hsorted, depth, hdepth => by
    obtain ⟨depth, rfl⟩ : ∃ k, depth = k + 1 := ⟨depth - 1, by rw [nesting] at hdepth; omega⟩
    have hitems := itemsToJson_raw items hsorted (Nat.le_of_succ_le_succ hdepth)
    simp [raw, Raw.toJson, hitems, closeItems, bind, Except.bind, pure, Except.pure]
  | .object members, ⟨hkeys, hsorted⟩, depth, hdepth => by
    obtain ⟨depth, rfl⟩ : ∃ k, depth = k + 1 := ⟨depth - 1, by rw [nesting] at hdepth; omega⟩
    have hmembers := membersToJson_raw members hsorted (Nat.le_of_succ_le_succ hdepth) [] hkeys
    simp [raw, Raw.toJson, hmembers, closeMembers, bind, Except.bind, pure, Except.pure]

/-- The items of a sorted array are made of their trees. -/
theorem itemsToJson_raw : (items : List Json) → AllSorted items → ∀ {depth : Nat},
    nestingOfItems items ≤ depth → itemsToJson depth (rawItems items) = .ok items
  | [], _, _, _ => rfl
  | item :: items, ⟨hitem, hitems⟩, depth, hdepth => by
    obtain ⟨hfirst, hrest⟩ := Nat.max_le.mp hdepth
    simp [rawItems, itemsToJson, toJson_raw item hitem hfirst, itemsToJson_raw items hitems hrest, bind,
      Except.bind, pure, Except.pure]

/-- The members of a sorted object are put one behind the other. -/
theorem membersToJson_raw : (members : List (String × Json)) → MembersSorted members → ∀ {depth : Nat},
    nestingOfMembers members ≤ depth → ∀ entries : List (String × Json), KeysSorted (entries ++ members) →
    membersToJson depth (rawMembers members) entries = .ok (entries ++ members)
  | [], _, _, _, entries, _ => by rw [rawMembers, membersToJson, List.append_nil]
  | (key, value) :: members, ⟨hvalue, hmembers⟩, depth, hdepth, entries, hkeys => by
    obtain ⟨hfirst, hrest⟩ := Nat.max_le.mp hdepth
    have hlast : ∀ e ∈ entries, e.1 < key := by
      intro e he
      rw [KeysSorted, List.map_append, List.pairwise_append] at hkeys
      exact hkeys.2.2 e.1 (List.mem_map_of_mem he) key List.mem_cons_self
    have hlater := membersToJson_raw members hmembers hrest (entries ++ [(key, value)])
      (by rwa [List.append_assoc])
    simp [rawMembers, membersToJson, toJson_raw value hvalue hfirst, putMember_of_lt hlast, hlater, bind,
      Except.bind]
end

/-- **The text of a sorted value is parsed to the value.** -/
theorem parse_compact {j : Json} (hexact : j.IsExact) (hsorted : j.IsSorted)
    (hdepth : j.nesting ≤ maxDepth) :
    parse j.compact = .ok j := by
  rw [parse, decode_compact _ hexact]
  exact toJson_raw j hsorted hdepth

end Bursar.Json
