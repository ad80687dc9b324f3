import Bursar.Text.Blank

/-!
# Signs and letters in lower case

What is the same in lower case is the same character, or a letter in its two forms
(`toLower_eq_iff`). Blanks and signs have one form only, so words that are compared in lower
case hold those of the word they are compared with and no others.
-/

namespace Bursar.Text

variable {c d : Char} {cs signs : List Char}

/-- What is so for each of some signs can be checked sign by sign. -/
theorem forall_mem_of_all {P : Char → Prop} [DecidablePred P] (h : signs.all fun c => decide (P c)) :
    ∀ c ∈ signs, P c := by
  intro c hc
  exact of_decide_eq_true (List.all_eq_true.mp h c hc)

/-- **A character in lower case** is itself, or a capital 32 places in front of it. -/
theorem toLower_eq_iff : c.toLower = d ↔
    (¬ (65 ≤ c.toNat ∧ c.toNat ≤ 90) ∧ c = d) ∨
      (65 ≤ c.toNat ∧ c.toNat ≤ 90 ∧ d.toNat = c.toNat + 32) := by
  have hupper : c.val ≥ 'A'.val ∧ c.val ≤ 'Z'.val ↔ 65 ≤ c.toNat ∧ c.toNat ≤ 90 := by
    rw [ge_iff_le, UInt32.le_iff_toNat_le, UInt32.le_iff_toNat_le]
    rfl
  unfold Char.toLower
  split
  · rename_i h
    obtain ⟨hlow, hhigh⟩ := hupper.mp h
    have hsum : (c.val + ('a'.val - 'A'.val)).toNat = c.toNat + 32 := by
      rw [UInt32.toNat_add, Nat.mod_eq_of_lt]
      · rfl
      · show c.toNat + 32 < 2 ^ 32
        omega
    constructor
    · rintro rfl
      exact .inr ⟨hlow, hhigh, hsum⟩
    · rintro (⟨hnot, -⟩ | ⟨-, -, hd⟩)
      · exact absurd ⟨hlow, hhigh⟩ hnot
      · exact Char.toNat_inj.mp (hsum.trans hd.symm)
  · rename_i h
    constructor
    · intro hcd
      exact .inl ⟨mt hupper.mpr h, hcd⟩
    · rintro (⟨-, hcd⟩ | ⟨hlow, hhigh, -⟩)
      · exact hcd
      · exact absurd (hupper.mpr ⟨hlow, hhigh⟩) h

/-- Only letters have a lower case that is another character. -/
theorem eq_of_toLower_eq (hd : ¬ (97 ≤ d.toNat ∧ d.toNat ≤ 122)) (h : c.toLower = d) : c = d := by
  rcases toLower_eq_iff.mp h with ⟨-, hcd⟩ | ⟨hlow, hhigh, hcd⟩
  · exact hcd
  · omega

theorem not_isBlank_of_upper (hlow : 65 ≤ c.toNat) (hhigh : c.toNat ≤ 90) : isBlank c = false := by
  simp [isBlank, blankRanges]
  omega

/-- A blank is its own lower case. -/
theorem toLower_of_isBlank (h : isBlank c = true) : c.toLower = c := by
  refine toLower_eq_iff.mpr (.inl ⟨?_, rfl⟩)
  rintro ⟨hlow, hhigh⟩
  rw [not_isBlank_of_upper hlow hhigh] at h
  cases h

/-- What is no blank in lower case is none. -/
theorem not_blank_of_toLower_mem (hsigns : ∀ d ∈ signs, isBlank d = false)
    (h : ∀ c ∈ cs, c.toLower ∈ signs) : ∀ c ∈ cs, isBlank c = false := by
  intro c hc
  have hsign := hsigns _ (h c hc)
  cases hblank : isBlank c with
  | false => rfl
  | true =>
    rw [toLower_of_isBlank hblank, hblank] at hsign
    cases hsign

/-- A sign that is its own lower case is not among characters that are others in lower case. -/
theorem not_mem_of_toLower_mem (hd : d.toLower = d) (hnot : d ∉ signs) (h : ∀ c ∈ cs, c.toLower ∈ signs) :
    d ∉ cs := by
  intro hmem
  have hsign := h d hmem
  rw [hd] at hsign
  exact hnot hsign

end Bursar.Text
