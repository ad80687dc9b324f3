import Bursar.Proofs.Text.Identifier
import Bursar.Proofs.Text.LetterCase
import Mathlib.Data.List.Forall2

/-!
# Spellings of identifiers

What it is to spell an identifier, apart from the reader (`Uuid.Spells`): its 32 digits, these
in hyphenated groups, or such groups in braces or behind `urn:uuid:`, with letters in any case.
The reader takes these spellings and no others (`Uuid.parse?_eq_some_iff`).
-/

namespace Bursar

namespace Text

variable {c : Char} {d : Fin 16}

/-- The character is the hexadecimal digit of this value, in either letter case. -/
def SpellsHex (c : Char) (d : Fin 16) : Prop := c = hexChar d ∨ c = hexCharUpper d

/-- **A character is read as the hexadecimal digit that it is.** -/
theorem hexValue?_eq_some_iff : hexValue? c = some d ↔ SpellsHex c d := by
  have hdecimal : ∀ k < 10, hexChar (lastHex k) = Char.ofNat (48 + k) := by decide
  have hlower : ∀ k < 16, 10 ≤ k → hexChar (lastHex k) = Char.ofNat (87 + k) := by decide
  have hupper : ∀ k < 16, 10 ≤ k → hexCharUpper (lastHex k) = Char.ofNat (55 + k) := by decide
  constructor
  · intro h
    simp only [hexValue?] at h
    split at h
    · obtain rfl := Option.some.inj h
      left
      rw [hdecimal _ (by omega), Nat.add_sub_cancel' (by omega), Char.ofNat_toNat]
    · split at h
      · obtain rfl := Option.some.inj h
        left
        rw [hlower _ (by omega) (by omega), Nat.add_sub_cancel' (by omega), Char.ofNat_toNat]
      · split at h
        · obtain rfl := Option.some.inj h
          right
          rw [hupper _ (by omega) (by omega), Nat.add_sub_cancel' (by omega), Char.ofNat_toNat]
        · cases h
  · rintro (rfl | rfl)
    · exact hexValue?_hexChar d
    · exact hexValue?_hexCharUpper d

/-- A hexadecimal digit in lower case is the one that is written. -/
theorem SpellsHex.toLower (h : SpellsHex c d) : c.toLower = hexChar d := by
  rcases h with rfl | rfl
  · revert d
    decide
  · revert d
    decide

/-- Characters are read one by one. -/
theorem mapM_hexValue?_eq_some_iff {cs : List Char} {ds : List (Fin 16)} :
    cs.mapM hexValue? = some ds ↔ List.Forall₂ SpellsHex cs ds := by
  constructor
  · intro h
    induction cs generalizing ds with
    | nil =>
      obtain rfl := Option.some.inj h
      exact .nil
    | cons c cs ih =>
      rw [List.mapM_cons] at h
      obtain ⟨d, hd, h⟩ := Option.bind_eq_some_iff.mp h
      obtain ⟨ds, hds, h⟩ := Option.bind_eq_some_iff.mp h
      obtain rfl := Option.some.inj h
      exact .cons (hexValue?_eq_some_iff.mp hd) (ih hds)
  · intro h
    induction h with
    | nil => rfl
    | cons hc _ ih => simp [List.mapM_cons, hexValue?_eq_some_iff.mpr hc, ih]

end Text

namespace Uuid

variable {u : Uuid} {cs : List Char}

/-- The characters are the digits of the identifier, in any letter case. -/
def SpellsDigits (u : Uuid) (cs : List Char) : Prop := List.Forall₂ Text.SpellsHex cs u.digits

/-- The characters spell the identifier. -/
inductive Spells (u : Uuid) : List Char → Prop
  | bare {cs : List Char} (h : u.SpellsDigits cs) : u.Spells cs
  | hyphenated {cs : List Char} (h : u.SpellsDigits cs) : u.Spells (hyphenate cs)
  | braced {cs : List Char} (h : u.SpellsDigits cs) : u.Spells ('\x7b' :: hyphenate cs ++ ['\x7d'])
  | resource {lead cs : List Char} (hlead : lead.map Char.toLower = urnLead) (h : u.SpellsDigits cs) :
      u.Spells (lead ++ hyphenate cs)

theorem SpellsDigits.length (h : u.SpellsDigits cs) : cs.length = 32 := by
  rw [List.Forall₂.length_eq h, u.length_digits]

theorem ofDigits?_eq_some_iff {ds : List (Fin 16)} : ofDigits? ds = some u ↔ ds = u.digits := by
  constructor
  · intro h
    unfold ofDigits? at h
    split at h
    · obtain rfl := Option.some.inj h
      rfl
    · cases h
  · rintro rfl
    rw [ofDigits?, dif_pos u.length_digits]

theorem parseSimple?_eq_some_iff : parseSimple? cs = some u ↔ u.SpellsDigits cs := by
  rw [parseSimple?, Option.bind_eq_some_iff, SpellsDigits, ← Text.mapM_hexValue?_eq_some_iff]
  simp only [ofDigits?_eq_some_iff, exists_eq_right]

/-- The five groups of hyphenated characters. -/
theorem hyphenate_groups {g₁ g₂ g₃ g₄ g₅ : List Char} (h₁ : g₁.length = 8) (h₂ : g₂.length = 4)
    (h₃ : g₃.length = 4) (h₄ : g₄.length = 4) : hyphenate (g₁ ++ g₂ ++ g₃ ++ g₄ ++ g₅) =
      g₁ ++ '-' :: g₂ ++ '-' :: g₃ ++ '-' :: g₄ ++ '-' :: g₅ := by
  simp (disch := omega) [hyphenate, List.drop_append, List.drop_of_length_le, h₁, h₂, h₃]

/-- A list is cut at an element that it is known to have. -/
theorem take_cons_drop {n : Nat} {c : Char} (h : cs[n]? = some c) :
    cs.take n ++ c :: cs.drop (n + 1) = cs := by
  obtain ⟨hn, rfl⟩ := List.getElem?_eq_some_iff.mp h
  rw [← List.drop_eq_getElem_cons hn, List.take_append_drop]

theorem parseHyphenated?_eq_some_iff :
    parseHyphenated? cs = some u ↔ ∃ bare, u.SpellsDigits bare ∧ cs = hyphenate bare := by
  constructor
  · intro h
    unfold parseHyphenated? at h
    split at h
    · rename_i hform
      obtain ⟨hlength, h₈, h₁₃, h₁₈, h₂₃⟩ := hform
      refine ⟨_, parseSimple?_eq_some_iff.mp h, ?_⟩
      rw [hyphenate_groups (by simp [hlength]) (by simp [hlength]) (by simp [hlength])
        (by simp [hlength])]
      have hgroup {n : Nat} (hn : cs[n + 4]? = some '-') :
          (cs.drop n).take 4 ++ '-' :: cs.drop (n + 5) = cs.drop n := by
        have hcut : (cs.drop n)[4]? = some '-' := by rwa [List.getElem?_drop]
        simpa using take_cons_drop hcut
      have h₁₉ : (cs.drop 19).take 4 ++ '-' :: cs.drop 24 = cs.drop 19 := hgroup h₂₃
      have h₁₄ : (cs.drop 14).take 4 ++ '-' :: cs.drop 19 = cs.drop 14 := hgroup h₁₈
      have h₉ : (cs.drop 9).take 4 ++ '-' :: cs.drop 14 = cs.drop 9 := hgroup h₁₃
      simp only [List.append_assoc, List.cons_append]
      rw [h₁₉, h₁₄, h₉, take_cons_drop h₈]
    · cases h
  · rintro ⟨bare, hbare, rfl⟩
    rw [parseHyphenated?_hyphenate hbare.length, parseSimple?_eq_some_iff.mpr hbare]

/-- **Characters are read as the identifier that they spell**, and nothing else is read. -/
theorem parseChars?_eq_some_iff : parseChars? cs = some u ↔ u.Spells cs := by
  -- the four spellings have different lengths, and the reader goes by these
  constructor
  · intro h
    unfold parseChars? at h
    split at h
    · exact .bare (parseSimple?_eq_some_iff.mp h)
    split at h
    · obtain ⟨bare, hbare, rfl⟩ := parseHyphenated?_eq_some_iff.mp h
      exact .hyphenated hbare
    split at h
    · split at h
      · rename_i hbraces
        obtain ⟨bare, hbare, hinside⟩ := parseHyphenated?_eq_some_iff.mp h
        obtain ⟨rest, rfl⟩ := List.head?_eq_some_iff.mp hbraces.1
        have hne : rest ≠ [] := by
          rintro rfl
          simp at hbraces
        have hlast : rest.getLast? = some '\x7d' := by
          rw [← hbraces.2, List.getLast?_cons, List.getLast?_eq_some_getLast hne]
          rfl
        obtain ⟨inside, rfl⟩ := List.getLast?_eq_some_iff.mp hlast
        obtain rfl : inside = hyphenate bare := by simpa using hinside
        exact .braced hbare
      · cases h
    split at h
    · rename_i hlead
      obtain ⟨bare, hbare, hinside⟩ := parseHyphenated?_eq_some_iff.mp h
      rw [← List.take_append_drop 9 cs, hinside]
      exact .resource hlead.2 hbare
    · cases h
  · intro h
    cases h with
    | bare h => rw [parseChars?, if_pos h.length, parseSimple?_eq_some_iff.mpr h]
    | hyphenated h =>
      have hlength := length_hyphenate h.length
      rw [parseChars?, if_neg (by omega), if_pos hlength]
      exact parseHyphenated?_eq_some_iff.mpr ⟨_, h, rfl⟩
    | @braced bare h =>
      have hlength : ('\x7b' :: hyphenate bare ++ ['\x7d']).length = 38 := by
        simp [length_hyphenate h.length]
      rw [parseChars?, if_neg (by omega), if_neg (by omega), if_pos hlength,
        if_pos ⟨rfl, List.getLast?_concat⟩]
      exact parseHyphenated?_eq_some_iff.mpr ⟨_, h, by simp⟩
    | @resource lead bare hlead h =>
      have hnine : lead.length = 9 := by
        rw [← List.length_map, hlead]
        decide
      have hlength : (lead ++ hyphenate bare).length = 45 := by
        simp [length_hyphenate h.length, hnine]
      have hword : ((lead ++ hyphenate bare).take 9).map Char.toLower = urnLead := by
        rw [List.take_left' hnine, hlead]
      rw [parseChars?, if_neg (by omega), if_neg (by omega), if_neg (by omega), if_pos ⟨hlength, hword⟩,
        List.drop_left' hnine]
      exact parseHyphenated?_eq_some_iff.mpr ⟨_, h, rfl⟩

/-- **A text is read as the identifier that it spells**, and nothing else is read. -/
theorem parse?_eq_some_iff {s : String} : parse? s = some u ↔ u.Spells s.toList :=
  parseChars?_eq_some_iff

/-! ## The characters of a spelling -/

/-- What a spelling holds, in lower case. -/
def spellingSigns : List Char := "0123456789abcdef-\x7b\x7durni:".toList

theorem hexChar_mem_spellingSigns (d : Fin 16) : Text.hexChar d ∈ spellingSigns := by
  revert d
  decide

theorem mem_hyphenate {c : Char} (h : c ∈ hyphenate cs) : c = '-' ∨ c ∈ cs := by
  simp only [hyphenate, List.mem_append, List.mem_cons] at h
  rcases h with (((h | rfl | h) | rfl | h) | rfl | h) | rfl | h
  · exact .inr (List.mem_of_mem_take h)
  · exact .inl rfl
  · exact .inr (List.mem_of_mem_drop (List.mem_of_mem_take h))
  · exact .inl rfl
  · exact .inr (List.mem_of_mem_drop (List.mem_of_mem_take h))
  · exact .inl rfl
  · exact .inr (List.mem_of_mem_drop (List.mem_of_mem_take h))
  · exact .inl rfl
  · exact .inr (List.mem_of_mem_drop h)

/-- Each character is a digit in lower case. -/
theorem SpellsDigits.toLower {c : Char} (h : u.SpellsDigits cs) (hc : c ∈ cs) :
    ∃ d, c.toLower = Text.hexChar d := by
  obtain ⟨n, hn, rfl⟩ := List.getElem_of_mem hc
  have hd := h.get hn (by rwa [← List.Forall₂.length_eq h])
  exact ⟨_, hd.toLower⟩

/-- In the hyphenated form there are hyphens besides. -/
theorem SpellsDigits.toLower_hyphenate {c : Char} (h : u.SpellsDigits cs) (hc : c ∈ hyphenate cs) :
    c = '-' ∨ ∃ d, c.toLower = Text.hexChar d :=
  (mem_hyphenate hc).imp_right h.toLower

/-- **Every character of a spelling is one of few in lower case.** -/
theorem Spells.toLower_mem (h : u.Spells cs) : ∀ c ∈ cs, c.toLower ∈ spellingSigns := by
  have hgroups {bare : List Char} (h : u.SpellsDigits bare) :
      ∀ c ∈ hyphenate bare, c.toLower ∈ spellingSigns := by
    intro c hc
    rcases h.toLower_hyphenate hc with rfl | ⟨d, hd⟩
    · decide
    · rw [hd]
      exact hexChar_mem_spellingSigns d
  cases h with
  | bare h =>
    intro c hc
    obtain ⟨d, hd⟩ := h.toLower hc
    rw [hd]
    exact hexChar_mem_spellingSigns d
  | hyphenated h => exact hgroups h
  | braced h =>
    intro c hc
    simp only [List.cons_append, List.mem_cons, List.mem_append, List.not_mem_nil, or_false] at hc
    rcases hc with rfl | hc | rfl
    · decide
    · exact hgroups h c hc
    · decide
  | @resource lead bare hlead h =>
    intro c hc
    rcases List.mem_append.mp hc with hc | hc
    · have hword : c.toLower ∈ urnLead := hlead ▸ List.mem_map_of_mem hc
      have hsigns : ∀ d ∈ urnLead, d ∈ spellingSigns := Text.forall_mem_of_all (by decide)
      exact hsigns _ hword
    · exact hgroups h c hc

end Uuid
end Bursar
