import Bursar.Proofs.Text.Numeral
import Mathlib.Data.List.Induction

/-!
# Spellings of numbers

What a numeral is, apart from the reader of it: digits, the most significant first, leading
zeros or none (`SpellsNat`), and one sign at most in front of them (`SpellsInt`). It spells one
integer only (`SpellsInt.unique`). The reader of signed numerals takes exactly those that fit
64 bits (`signed64?_eq_some_iff`).

Blanks around a text make no difference to what is trimmed, and nothing else does: two texts
have the same trimmed text exactly if they differ in such blanks (`sameInside_iff`).
-/

namespace Bursar.Text

variable {c : Char} {cs lead trail : List Char} {d n : Nat} {z : Int} {s t : String}

/-! ## Blanks around a text -/

/-- A text with blanks around it. -/
def Surrounds (s inside : String) : Prop :=
  ∃ before after, isBlankText before = true ∧ isBlankText after = true ∧ s = before ++ inside ++ after

/-- The texts differ in the blanks around them at most. -/
def SameInside (s t : String) : Prop := ∃ inside, Surrounds s inside ∧ Surrounds t inside

theorem trimEnd_append (h : ∀ c ∈ trail, isBlank c = true) : trimEnd (cs ++ trail) = trimEnd cs := by
  rw [trimEnd, List.reverse_append,
    List.dropWhile_append_of_pos fun c hc => h c (List.mem_reverse.mp hc), ← trimEnd]

/-- **Blanks around it are no part of a trimmed text.** -/
theorem trimChars_surrounded (hlead : ∀ c ∈ lead, isBlank c = true)
    (htrail : ∀ c ∈ trail, isBlank c = true) : trimChars (lead ++ cs ++ trail) = trimChars cs := by
  have hfront : trimStart (lead ++ cs ++ trail) = trimStart (cs ++ trail) := by
    rw [List.append_assoc, trimStart, List.dropWhile_append_of_pos hlead, ← trimStart]
  rw [trimChars, hfront, trimStart, List.dropWhile_append]
  split
  · -- nothing but blanks
    rename_i hempty
    have hnothing : trimStart cs = [] := List.isEmpty_iff.mp hempty
    rw [List.dropWhile_eq_nil_iff.mpr htrail, trimChars, hnothing]
  · exact trimEnd_append htrail

theorem Surrounds.trim {inside : String} (h : Surrounds s inside) : trim s = trim inside := by
  obtain ⟨before, after, hbefore, hafter, rfl⟩ := h
  rw [Text.trim, Text.trim, String.toList_append, String.toList_append,
    trimChars_surrounded (List.all_eq_true.mp hbefore) (List.all_eq_true.mp hafter)]

/-- What is trimmed off at both ends, put back, gives the characters. -/
theorem append_trimChars (cs : List Char) : cs.takeWhile isBlank ++ trimChars cs ++
    ((trimStart cs).reverse.takeWhile isBlank).reverse = cs := by
  have hend : trimChars cs ++ ((trimStart cs).reverse.takeWhile isBlank).reverse = trimStart cs := by
    rw [trimChars, trimEnd, ← List.reverse_append, List.takeWhile_append_dropWhile, List.reverse_reverse]
  rw [List.append_assoc, hend, trimStart, List.takeWhile_append_dropWhile]

/-- A text is its trimmed text with blanks around it. -/
theorem surrounds_trim (s : String) : Surrounds s (trim s) := by
  have hdropped (ds : List Char) : (ds.takeWhile isBlank).all isBlank = true := by
    rw [List.all_eq_true]
    intro c hc
    exact List.mem_takeWhile_imp hc
  refine ⟨String.ofList (s.toList.takeWhile isBlank),
    String.ofList ((trimStart s.toList).reverse.takeWhile isBlank).reverse, ?_, ?_, ?_⟩
  · rw [isBlankText, String.toList_ofList, hdropped]
  · rw [isBlankText, String.toList_ofList, List.all_reverse, hdropped]
  · apply String.toList_inj.mp
    simp only [trim, String.toList_append, String.toList_ofList, append_trimChars]

/-- **Texts with the same trimmed text differ in the blanks around them at most.** -/
theorem sameInside_iff : SameInside s t ↔ trim s = trim t := by
  constructor
  · rintro ⟨inside, hs, ht⟩
    rw [hs.trim, ht.trim]
  · intro h
    exact ⟨trim s, surrounds_trim s, h ▸ surrounds_trim t⟩

/-! ## Numerals -/

/-- The characters spell a natural number: digits, the most significant first, one at least. -/
inductive SpellsNat : List Char → Nat → Prop
  | digit {d : Nat} (hd : d < 10) : SpellsNat [digitChar d] d
  | snoc {cs : List Char} {n d : Nat} (hcs : SpellsNat cs n) (hd : d < 10) :
      SpellsNat (cs ++ [digitChar d]) (10 * n + d)

/-- The characters spell an integer: digits behind one sign at most. -/
inductive SpellsInt : List Char → Int → Prop
  | bare {cs : List Char} {n : Nat} (h : SpellsNat cs n) : SpellsInt cs n
  | plus {cs : List Char} {n : Nat} (h : SpellsNat cs n) : SpellsInt ('+' :: cs) n
  | minus {cs : List Char} {n : Nat} (h : SpellsNat cs n) : SpellsInt ('-' :: cs) (-n)

theorem digitValue?_eq_some_iff : digitValue? c = some d ↔ d < 10 ∧ c = digitChar d := by
  constructor
  · intro h
    obtain ⟨hlow, hhigh, rfl⟩ := digitValue?_eq_some h
    have hchar : 48 + (c.toNat - 48) % 10 = c.toNat := by omega
    exact ⟨by omega, by rw [digitChar, hchar, Char.ofNat_toNat]⟩
  · rintro ⟨hd, rfl⟩
    rw [digitValue?_digitChar, Nat.mod_eq_of_lt hd]

theorem digitsValue?_snoc_eq_some_iff {v : Nat} : digitsValue? v (cs ++ [c]) = some n ↔
    ∃ m d, digitsValue? v cs = some m ∧ d < 10 ∧ c = digitChar d ∧ n = 10 * m + d := by
  rw [digitsValue?_append, Option.bind_eq_some_iff]
  constructor
  · rintro ⟨m, hm, h⟩
    obtain ⟨d, hd, hn⟩ := digitsValue?_cons_eq_some h
    obtain ⟨hlt, hc⟩ := digitValue?_eq_some_iff.mp hd
    obtain rfl := Option.some.inj hn
    exact ⟨m, d, hm, hlt, hc, by omega⟩
  · rintro ⟨m, d, hm, hlt, rfl, rfl⟩
    refine ⟨m, hm, ?_⟩
    rw [digitsValue?_cons (digitValue?_eq_some_iff.mpr ⟨hlt, rfl⟩), digitsValue?, Nat.mul_comm]

/-- **A run of digits is read as the number that it spells**, and nothing else is read. -/
theorem natural?_eq_some_iff : natural? cs = some n ↔ SpellsNat cs n := by
  constructor
  · intro h
    induction cs using List.reverseRecOn generalizing n with
    | nil => cases h
    | append_singleton cs c ih =>
      rw [natural?_of_ne_nil (by simp)] at h
      obtain ⟨m, d, hm, hlt, rfl, rfl⟩ := digitsValue?_snoc_eq_some_iff.mp h
      by_cases hcs : cs = []
      · subst hcs
        obtain rfl := Option.some.inj hm
        simpa using SpellsNat.digit hlt
      · exact .snoc (ih (by rwa [natural?_of_ne_nil hcs])) hlt
  · intro h
    induction h with
    | @digit d hd =>
      show digitsValue? 0 ([] ++ [digitChar d]) = some d
      exact digitsValue?_snoc_eq_some_iff.mpr ⟨0, d, rfl, hd, rfl, by omega⟩
    | @snoc cs m d hcs hd ih =>
      have hne : cs ≠ [] := by
        rintro rfl
        cases ih
      rw [natural?_of_ne_nil hne] at ih
      rw [natural?_of_ne_nil (by simp)]
      exact digitsValue?_snoc_eq_some_iff.mpr ⟨m, d, ih, hd, rfl, rfl⟩

theorem within64_eq_some_iff {m : Int} : within64 m = some z ↔ m = z ∧ minInt64 ≤ z ∧ z ≤ maxInt64 := by
  rw [within64, Option.ite_none_right_eq_some, Option.some.injEq]
  constructor
  · rintro ⟨hfits, rfl⟩
    exact ⟨rfl, hfits⟩
  · rintro ⟨rfl, hfits⟩
    exact ⟨hfits, rfl⟩

theorem signed64Chars?_eq_some_iff :
    signed64Chars? cs = some z ↔ SpellsInt cs z ∧ minInt64 ≤ z ∧ z ≤ maxInt64 := by
  have hread {ds : List Char} {f : Nat → Int} (h : ((natural? ds).bind fun n => within64 (f n)) = some z) :
      ∃ n, SpellsNat ds n ∧ f n = z ∧ minInt64 ≤ z ∧ z ≤ maxInt64 := by
    obtain ⟨n, hn, hz⟩ := Option.bind_eq_some_iff.mp h
    exact ⟨n, natural?_eq_some_iff.mp hn, within64_eq_some_iff.mp hz⟩
  constructor
  · intro h
    unfold signed64Chars? at h
    split at h
    · obtain ⟨n, hn, rfl, hfits⟩ := hread h
      exact ⟨.plus hn, hfits⟩
    · obtain ⟨n, hn, rfl, hfits⟩ := hread h
      exact ⟨.minus hn, hfits⟩
    · obtain ⟨n, hn, rfl, hfits⟩ := hread h
      exact ⟨.bare hn, hfits⟩
  · rintro ⟨hspelled, hfits⟩
    cases hspelled with
    | bare h =>
      rw [signed64Chars?_of_natural? (natural?_eq_some_iff.mpr h)]
      exact within64_eq_some_iff.mpr ⟨rfl, hfits⟩
    | plus h =>
      rw [signed64Chars?, natural?_eq_some_iff.mpr h]
      exact within64_eq_some_iff.mpr ⟨rfl, hfits⟩
    | minus h =>
      rw [signed64Chars?, natural?_eq_some_iff.mpr h]
      exact within64_eq_some_iff.mpr ⟨rfl, hfits⟩

/-- **A text is read as the integer that it spells, if that fits 64 bits**, and nothing else is read. -/
theorem signed64?_eq_some_iff :
    signed64? s = some z ↔ SpellsInt s.toList z ∧ minInt64 ≤ z ∧ z ≤ maxInt64 :=
  signed64Chars?_eq_some_iff

/-! ## Written numerals -/

/-- The numeral of an integer spells it. -/
theorem spellsInt_ofInt (n : Int) : SpellsInt (ofInt n).toList n := by
  have hspells (k : Nat) : SpellsNat (digitsOnto k []) k := natural?_eq_some_iff.mp (natural?_digitsOnto k)
  cases n with
  | ofNat k =>
    rw [ofInt, toList_ofNat]
    exact .bare (hspells k)
  | negSucc k =>
    have hminus : "-".toList = ['-'] := by decide
    rw [ofInt, String.toList_append, hminus, toList_ofNat]
    exact .minus (hspells (k + 1))

/-- No sign stands in front of the digits of a natural number. -/
theorem SpellsNat.isDigit_head (h : SpellsNat (c :: cs) n) : IsDigit c := by
  have hread := natural?_eq_some_iff.mpr h
  rw [natural?_of_ne_nil (List.cons_ne_nil c cs)] at hread
  exact isDigit_of_digitsValue? hread c List.mem_cons_self

theorem SpellsNat.unique {m : Nat} (h : SpellsNat cs n) (h' : SpellsNat cs m) : n = m :=
  Option.some.inj ((natural?_eq_some_iff.mpr h).symm.trans (natural?_eq_some_iff.mpr h'))

/-- **No text spells two integers.** -/
theorem SpellsInt.unique {w : Int} (h : SpellsInt cs z) (h' : SpellsInt cs w) : z = w := by
  have hplus {ds : List Char} {m : Nat} : ¬ SpellsNat ('+' :: ds) m :=
    fun hs => hs.isDigit_head.ne (by decide) rfl
  have hminus {ds : List Char} {m : Nat} : ¬ SpellsNat ('-' :: ds) m :=
    fun hs => hs.isDigit_head.ne (by decide) rfl
  cases h with
  | bare h =>
    cases h' with
    | bare h' => rw [h.unique h']
    | plus h' => exact absurd h hplus
    | minus h' => exact absurd h hminus
  | plus h =>
    cases h' with
    | bare h' => exact absurd h' hplus
    | plus h' => rw [h.unique h']
  | minus h =>
    cases h' with
    | bare h' => exact absurd h' hminus
    | minus h' => rw [h.unique h']

/-! ## The characters of a numeral -/

/-- What a numeral holds. -/
def numeralSigns : List Char := "0123456789+-".toList

theorem digitChar_mem_numeralSigns : ∀ d < 10, digitChar d ∈ numeralSigns := by decide

theorem SpellsNat.mem_numeralSigns (h : SpellsNat cs n) : ∀ c ∈ cs, c ∈ numeralSigns := by
  induction h with
  | @digit d hd =>
    intro c hc
    rw [List.mem_singleton.mp hc]
    exact digitChar_mem_numeralSigns d hd
  | @snoc cs n d _ hd ih =>
    intro c hc
    rcases List.mem_append.mp hc with hc | hc
    · exact ih c hc
    · rw [List.mem_singleton.mp hc]
      exact digitChar_mem_numeralSigns d hd

theorem SpellsNat.ne_nil (h : SpellsNat cs n) : cs ≠ [] := by
  cases h <;> simp

/-- **A numeral holds digits and signs only.** -/
theorem SpellsInt.mem_numeralSigns (h : SpellsInt cs z) : ∀ c ∈ cs, c ∈ numeralSigns := by
  cases h with
  | bare h => exact h.mem_numeralSigns
  | plus h => exact List.forall_mem_cons.mpr ⟨by decide, h.mem_numeralSigns⟩
  | minus h => exact List.forall_mem_cons.mpr ⟨by decide, h.mem_numeralSigns⟩

theorem SpellsInt.ne_nil (h : SpellsInt cs z) : cs ≠ [] := by
  cases h with
  | bare h => exact h.ne_nil
  | plus h => exact List.cons_ne_nil _ _
  | minus h => exact List.cons_ne_nil _ _

end Bursar.Text
