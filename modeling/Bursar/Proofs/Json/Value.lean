import Bursar.Json.Decode
import Bursar.Proofs.Json.Scalar

/-!
# Written values are read back

A value that is written without blanks is read as the tree of its parts (`Json.raw`),
whatever follows it, and a decoder of the whole text has just this tree to look at
(`decode_compact`). The numbers in it have to be integers (`Json.IsExact`): doubles are
rounded on their way.

Each character of the text pays for one step of the reader, so a text is long enough
to be read to its end with as many steps as it has characters (`readValue_compact`).
-/

namespace Bursar.Json

/-! ## Trees of values -/

mutual
/-- The tree that a value is read as. -/
def raw : Json → Raw
  | .null => .null
  | .bool b => .bool b
  | .number n => .number (some n)
  | .string s => .text (some s)
  | .array items => .array (rawItems items) .closed
  | .object members => .object (rawMembers members) .closed

/-- The trees of items. -/
def rawItems : List Json → List Raw
  | [] => []
  | item :: items => item.raw :: rawItems items

/-- The keys and trees of members. -/
def rawMembers : List (String × Json) → List (Option String × Raw)
  | [] => []
  | (key, value) :: members => (some key, value.raw) :: rawMembers members
end

mutual
/-- All numbers are integers that a number can hold. -/
def IsExact : Json → Prop
  | .null | .bool _ | .string _ => True
  | .number (.int n) => IsHeld n
  | .number (.float _) => False
  | .array items => AllExact items
  | .object members => MembersExact members

/-- All items are exact. -/
def AllExact : List Json → Prop
  | [] => True
  | item :: items => item.IsExact ∧ AllExact items

/-- All members are exact. -/
def MembersExact : List (String × Json) → Prop
  | [] => True
  | (_, value) :: members => value.IsExact ∧ MembersExact members
end

/-! ## Steps of the reader -/

/-- The character is none that a reader skips. -/
def IsSolid (c : Char) : Prop := ¬ (c = ' ' ∨ c = '\n' ∨ c = '\t' ∨ c = '\r')

theorem skipBlanks_of_isSolid {c : Char} (h : IsSolid c) (cs : List Char) :
    skipBlanks (c :: cs) = c :: cs := if_neg h

theorem isSolid_of_isDigit {c : Char} (h : Text.IsDigit c) : IsSolid c := by
  rintro (rfl | rfl | rfl | rfl)
  · exact h.ne (show Text.digitValue? ' ' = none by decide) rfl
  · exact h.ne (show Text.digitValue? '\n' = none by decide) rfl
  · exact h.ne (show Text.digitValue? '\t' = none by decide) rfl
  · exact h.ne (show Text.digitValue? '\r' = none by decide) rfl

section

variable {fuel : Nat} {cs rest rest' : List Char} {item value : Raw} {items : List Raw}
  {ending : Ending} {end? : Option (List Char)} {members : List (Option String × Raw)} {closing : Closing}

theorem readItems_closed (fuel : Nat) (isFirst : Bool) (rest : List Char) :
    readItems (fuel + 1) isFirst (']' :: rest) = ([], .closed, some rest) := by
  simp [readItems, skipBlanks]

theorem readItems_first {c : Char} (hc : IsSolid c) (hclose : c ≠ ']')
    (h : readValue fuel (c :: cs) = (item, some rest))
    (h' : readItems fuel false rest = (items, ending, end?)) :
    readItems (fuel + 1) true (c :: cs) = (item :: items, ending, end?) := by
  simp [readItems, skipBlanks_of_isSolid hc, hclose, h, h']

theorem readItems_next (h : readValue fuel cs = (item, some rest))
    (h' : readItems fuel false rest = (items, ending, end?)) :
    readItems (fuel + 1) false (',' :: cs) = (item :: items, ending, end?) := by
  simp [readItems, skipBlanks, h, h']

theorem readMembers_closed (fuel : Nat) (isFirst : Bool) (rest : List Char) :
    readMembers (fuel + 1) isFirst ('\x7d' :: rest) = ([], .closed, some rest) := by
  simp [readMembers, skipBlanks]

theorem readMembers_first (key : String) (h : readValue fuel cs = (value, some rest))
    (h' : readMembers fuel false rest = (members, closing, end?)) :
    readMembers (fuel + 1) true ('\x22' :: (key.toList.flatMap escape ++ '\x22' :: ':' :: cs)) =
      ((some key, value) :: members, closing, end?) := by
  simp [readMembers, skipBlanks, stringToken_quote, h, h']

theorem readMembers_next (key : String) (h : readValue fuel cs = (value, some rest))
    (h' : readMembers fuel false rest = (members, closing, end?)) :
    readMembers (fuel + 1) false (',' :: '\x22' :: (key.toList.flatMap escape ++ '\x22' :: ':' :: cs)) =
      ((some key, value) :: members, closing, end?) := by
  simp [readMembers, skipBlanks, stringToken_quote, h, h']

end

/-! ## Scalars -/

theorem readValue_string (fuel : Nat) (s : String) (rest : List Char) :
    readValue (fuel + 1) (quoteChars s ++ rest) = (.text (some s), some rest) := by
  have hquoted : quoteChars s ++ rest = '\x22' :: (s.toList.flatMap escape ++ '\x22' :: rest) := by
    simp [quoteChars]
  simp [hquoted, readValue, skipBlanks, stringToken_quote, ofToken]

/-- Where a digit stands, a number is read. -/
theorem readValue_digit (fuel : Nat) {c : Char} (hc : Text.IsDigit c) (cs : List Char) :
    readValue (fuel + 1) (c :: cs) = ofToken .number .broken (numberToken false (c :: cs)) := by
  have hne {e : Char} (he : Text.digitValue? e = none) : c ≠ e := hc.ne he
  rw [readValue, skipBlanks_of_isSolid (isSolid_of_isDigit hc)]
  simp only [hne (show Text.digitValue? '\x22' = none by decide),
    hne (show Text.digitValue? '[' = none by decide),
    hne (show Text.digitValue? '\x7b' = none by decide),
    hne (show Text.digitValue? 'n' = none by decide),
    hne (show Text.digitValue? 't' = none by decide),
    hne (show Text.digitValue? 'f' = none by decide),
    hne (show Text.digitValue? '-' = none by decide), Text.isDigit_iff.mp hc, if_false, if_true]

/-- An integer that a number can hold is made of its sign and its digits. -/
theorem integerNumber_natAbs {n : Int} (hn : IsHeld n) :
    integerNumber (decide (n < 0)) ⟨n.natAbs, 0, false⟩ = some (.int n) := by
  by_cases hneg : n < 0
  · have hpos : 0 < n.natAbs ∧ n.natAbs ≤ Nat.pow 2 63 := by
      have hlow := hn.1
      unfold Text.minInt64 at hlow
      rw [show Nat.pow 2 63 = 9223372036854775808 from rfl]
      omega
    have habs : -(n.natAbs : Int) = n := by omega
    simp only [integerNumber, hneg, decide_true, Bool.not_true, Bool.false_eq_true, if_false, hpos,
      and_self, if_true, habs]
  · have habs : (n.natAbs : Int) = n := by omega
    simp only [integerNumber, hneg, decide_false, Bool.not_false, Bool.false_eq_true, if_false,
      if_true, habs]

theorem readValue_int (fuel : Nat) {n : Int} (hn : IsHeld n) {rest : List Char} (hrest : EndsNumber rest) :
    readValue (fuel + 1) ((Text.ofInt n).toList ++ rest) = (.number (some (.int n)), some rest) := by
  have hfits : n.natAbs ≤ Text.maxNat64 := by
    obtain ⟨hlow, hhigh⟩ := hn
    unfold Text.minInt64 at hlow
    unfold Text.maxNat64 at hhigh ⊢
    omega
  have hread := integerNumber_natAbs hn
  rw [toList_ofInt]
  by_cases hneg : n < 0
  · rw [decide_eq_true hneg] at hread
    rw [if_pos hneg, List.cons_append]
    simp [readValue, skipBlanks, numberToken_digits true hfits hrest, hread, ofToken]
  · rw [decide_eq_false hneg] at hread
    have htoken := numberToken_digits false hfits hrest
    obtain ⟨c, cs, hdigits, hc⟩ := Text.digitsOnto_eq_cons n.natAbs
    rw [hdigits, List.cons_append] at htoken
    rw [if_neg hneg, hdigits, List.cons_append, readValue_digit fuel hc, htoken, hread, ofToken]

/-! ## Whole values -/

/-- A value starts with a character that is not skipped, and closes nothing. -/
theorem compactChars_eq_cons (j : Json) (h : j.IsExact) :
    ∃ c cs, compactChars j = c :: cs ∧ IsSolid c ∧ c ≠ ']' := by
  have hsolid {c : Char} (hc : IsSolid c ∧ c ≠ ']') (cs : List Char) :
      ∃ d ds, c :: cs = d :: ds ∧ IsSolid d ∧ d ≠ ']' := ⟨c, cs, rfl, hc⟩
  cases j with
  | null => exact hsolid (c := 'n') ⟨by unfold IsSolid; decide, by decide⟩ _
  | bool b => cases b <;> exact hsolid ⟨by unfold IsSolid; decide, by decide⟩ _
  | string s => exact hsolid (c := '\x22') ⟨by unfold IsSolid; decide, by decide⟩ _
  | array items => cases items <;> exact hsolid (c := '[') ⟨by unfold IsSolid; decide, by decide⟩ _
  | object members =>
    rcases members with _ | ⟨⟨key, value⟩, members⟩ <;>
      exact hsolid (c := '\x7b') ⟨by unfold IsSolid; decide, by decide⟩ _
  | number n =>
    cases n with
    | float x => exact h.elim
    | int n =>
      have htext : compactChars (.number (.int n)) = (Text.ofInt n).toList := rfl
      rw [htext, toList_ofInt]
      by_cases hneg : n < 0
      · rw [if_pos hneg]
        exact hsolid ⟨by unfold IsSolid; decide, by decide⟩ _
      · rw [if_neg hneg]
        obtain ⟨c, cs, hdigits, hc⟩ := Text.digitsOnto_eq_cons n.natAbs
        rw [hdigits]
        exact hsolid ⟨isSolid_of_isDigit hc, hc.ne (by decide)⟩ cs

/-- No number goes on behind an item or a member. -/
theorem endsNumber_compactItems (items : List Json) (rest : List Char) :
    EndsNumber (compactItems items ++ rest) := by
  cases items <;> exact endsNumber_cons (by decide) _

theorem endsNumber_compactMembers (members : List (String × Json)) (rest : List Char) :
    EndsNumber (compactMembers members ++ rest) := by
  rcases members with _ | ⟨⟨key, value⟩, members⟩ <;> exact endsNumber_cons (by decide) _

theorem length_compactChars_pos {j : Json} (h : j.IsExact) : 0 < (compactChars j).length := by
  obtain ⟨c, cs, hcs, -⟩ := compactChars_eq_cons j h
  simp [hcs]

theorem length_compactItems_pos (items : List Json) : 0 < (compactItems items).length := by
  cases items <;> simp [compactItems]

theorem length_compactMembers_pos (members : List (String × Json)) :
    0 < (compactMembers members).length := by
  rcases members with _ | ⟨⟨key, value⟩, members⟩ <;> simp [compactMembers]

mutual
/-- **A written value is read as its tree**, and what follows it is left. -/
theorem readValue_compact : (j : Json) → j.IsExact → ∀ {fuel : Nat} {rest : List Char},
    (compactChars j).length ≤ fuel → EndsNumber rest →
    readValue fuel (compactChars j ++ rest) = (j.raw, some rest)
  | j, hj, 0, rest, hfuel, hrest => by
    obtain ⟨c, cs, hcs, -⟩ := compactChars_eq_cons j hj
    rw [hcs] at hfuel
    cases hfuel
  | .null, _, fuel + 1, rest, _, _ => by simp [compactChars, readValue, skipBlanks, word, ofToken, raw]
  | .bool b, _, fuel + 1, rest, _, _ => by
    cases b <;> simp [compactChars, readValue, skipBlanks, word, ofToken, raw]
  | .string s, _, fuel + 1, rest, _, _ => readValue_string fuel s rest
  | .number (.int n), hn, fuel + 1, rest, _, hrest => readValue_int fuel hn hrest
  | .array [], _, fuel + 1, rest, hfuel, _ => by
    obtain ⟨fuel, rfl⟩ : ∃ k, fuel = k + 1 := ⟨fuel - 1, by simp [compactChars] at hfuel; omega⟩
    simp [compactChars, readValue, skipBlanks, readItems_closed, raw, rawItems]
  | .array (item :: items), ⟨hitem, hitems⟩, fuel + 1, rest, hfuel, _ => by
    -- the brackets and each item are at least one character, so the fuel lasts for the parts
    have hitem₀ := length_compactChars_pos hitem
    have hitems₀ := length_compactItems_pos items
    simp only [compactChars, List.cons_append, List.length_cons, List.length_append] at hfuel
    obtain ⟨fuel, rfl⟩ : ∃ k, fuel = k + 1 := ⟨fuel - 1, by omega⟩
    have hvalue := readValue_compact item hitem (show (compactChars item).length ≤ fuel by omega)
      (endsNumber_compactItems items rest)
    have hlater : readItems fuel false (compactItems items ++ rest) = _ :=
      readItems_compact items hitems (by omega)
    obtain ⟨c, cs, hcs, hsolid, hclose⟩ := compactChars_eq_cons item hitem
    rw [hcs, List.cons_append] at hvalue
    have hread := readItems_first hsolid hclose hvalue hlater
    simp [compactChars, readValue, skipBlanks, hcs, hread, raw, rawItems]
  | .object [], _, fuel + 1, rest, hfuel, _ => by
    obtain ⟨fuel, rfl⟩ : ∃ k, fuel = k + 1 := ⟨fuel - 1, by simp [compactChars] at hfuel; omega⟩
    simp [compactChars, readValue, skipBlanks, readMembers_closed, raw, rawMembers]
  | .object ((key, value) :: members), ⟨hvalue, hmembers⟩, fuel + 1, rest, hfuel, _ => by
    have hmembers₀ := length_compactMembers_pos members
    simp only [compactChars, quoteChars, List.cons_append, List.length_cons, List.length_append] at hfuel
    obtain ⟨fuel, rfl⟩ : ∃ k, fuel = k + 1 := ⟨fuel - 1, by omega⟩
    have hvalue' := readValue_compact value hvalue (show (compactChars value).length ≤ fuel by omega)
      (endsNumber_compactMembers members rest)
    have hlater : readMembers fuel false (compactMembers members ++ rest) = _ :=
      readMembers_compact members hmembers (by omega)
    have hread := readMembers_first key hvalue' hlater
    simp [compactChars, quoteChars, readValue, skipBlanks, hread, raw, rawMembers]

/-- The items after the first one are read as their trees. -/
theorem readItems_compact : (items : List Json) → AllExact items → ∀ {fuel : Nat} {rest : List Char},
    (compactItems items).length ≤ fuel →
    readItems fuel false (compactItems items ++ rest) = (rawItems items, .closed, some rest)
  | [], _, fuel, rest, hfuel => by
    obtain ⟨fuel, rfl⟩ : ∃ k, fuel = k + 1 := ⟨fuel - 1, by simp [compactItems] at hfuel; omega⟩
    exact readItems_closed fuel false rest
  | item :: items, ⟨hitem, hitems⟩, fuel, rest, hfuel => by
    have hitems₀ := length_compactItems_pos items
    simp only [compactItems, List.cons_append, List.length_cons, List.length_append] at hfuel
    obtain ⟨fuel, rfl⟩ : ∃ k, fuel = k + 1 := ⟨fuel - 1, by omega⟩
    have hvalue := readValue_compact item hitem (show (compactChars item).length ≤ fuel by omega)
      (endsNumber_compactItems items rest)
    have hlater : readItems fuel false (compactItems items ++ rest) = _ :=
      readItems_compact items hitems (by omega)
    rw [compactItems, List.cons_append, List.cons_append, List.append_assoc]
    exact readItems_next hvalue hlater

/-- The members after the first one are read as their trees. -/
theorem readMembers_compact : (members : List (String × Json)) → MembersExact members →
    ∀ {fuel : Nat} {rest : List Char}, (compactMembers members).length ≤ fuel →
    readMembers fuel false (compactMembers members ++ rest) = (rawMembers members, .closed, some rest)
  | [], _, fuel, rest, hfuel => by
    obtain ⟨fuel, rfl⟩ : ∃ k, fuel = k + 1 := ⟨fuel - 1, by simp [compactMembers] at hfuel; omega⟩
    exact readMembers_closed fuel false rest
  | (key, value) :: members, ⟨hvalue, hmembers⟩, fuel, rest, hfuel => by
    have hmembers₀ := length_compactMembers_pos members
    simp only [compactMembers, quoteChars, List.cons_append, List.length_cons, List.length_append] at hfuel
    obtain ⟨fuel, rfl⟩ : ∃ k, fuel = k + 1 := ⟨fuel - 1, by omega⟩
    have hvalue' := readValue_compact value hvalue (show (compactChars value).length ≤ fuel by omega)
      (endsNumber_compactMembers members rest)
    have hlater : readMembers fuel false (compactMembers members ++ rest) = _ :=
      readMembers_compact members hmembers (by omega)
    have hread := readMembers_next key hvalue' hlater
    simpa [compactMembers, quoteChars, rawMembers] using hread
end

/-- A written value is read to its end. -/
theorem read_compact {j : Json} (h : j.IsExact) : Raw.read j.compact = (j.raw, some []) := by
  have hlong : (compactChars j).length ≤ 2 * (compactChars j).length + 2 := by omega
  have hvalue := readValue_compact j h hlong endsNumber_nil
  rw [List.append_nil] at hvalue
  rw [Raw.read, compact, String.toList_ofList, hvalue]

/-- **A decoder of a written value looks at its tree.** -/
theorem decode_compact {α : Type} (d : Decoder α) {j : Json} (h : j.IsExact) :
    decode d j.compact = d maxDepth j.raw := by
  cases hd : d maxDepth j.raw <;> simp [decode, read_compact h, hd, skipBlanks]

theorem decodeLead_compact {α : Type} (d : Decoder α) {j : Json} (h : j.IsExact) :
    decodeLead d j.compact = d maxDepth j.raw := by
  rw [decodeLead, read_compact h]

end Bursar.Json
