import Bursar.Decimal.Basic
import Mathlib.Algebra.Order.Round
import Mathlib.Data.Rat.Floor
import Mathlib.Tactic.FieldSimp
import Mathlib.Tactic.Linarith
import Mathlib.Tactic.NormNum
import Mathlib.Tactic.Positivity
import Mathlib.Tactic.Ring

/-!
# What a decimal stands for

A decimal stands for a rational number (`Decimal.amount`). Rounding takes the nearest integer
to it (`roundToInteger_eq_round`). A hundredfold is exact, whatever scale it comes with
(`amount_timesHundred?`): the only digits that are ever given up for room are the two zeros
that the factor has put there, so one for which there is no room is out of range altogether
(`bound_le_of_timesHundred?`).
-/

namespace Bursar.Decimal

variable {x y : Decimal} {c : Int} {scale : Nat}

/-- The number that a decimal stands for. -/
def amount (x : Decimal) : ℚ := x.coefficient / 10 ^ x.scale

theorem amount_nonneg_iff : 0 ≤ x.amount ↔ 0 ≤ x.coefficient := by
  have hunit : (0 : ℚ) < 10 ^ x.scale := by positivity
  rw [amount, le_div_iff₀ hunit, zero_mul, Int.cast_nonneg_iff]

theorem isNegative_iff : x.isNegative = true ↔ x.amount < 0 := by
  rw [← not_le, amount_nonneg_iff, isNegative, decide_eq_true_iff, not_le]

theorem amount_of_zero (h : x.magnitude = 0) : x.amount = 0 := by
  simp [amount, coefficient, h]

theorem natAbs_coefficient (x : Decimal) : x.coefficient.natAbs = x.magnitude := by
  unfold coefficient
  split <;> simp

theorem abs_coefficient (x : Decimal) : |(x.coefficient : ℚ)| = x.magnitude := by
  rw [← natAbs_coefficient, Nat.cast_natAbs, Int.cast_abs]

/-- Only a zero can have a minus sign and not be below zero. -/
theorem coefficient_eq_magnitude (h : 0 ≤ x.coefficient) : x.coefficient = x.magnitude := by
  rw [← natAbs_coefficient, Int.natAbs_of_nonneg h]

/-- The amount of a decimal that is not below zero. -/
theorem amount_eq_magnitude (h : 0 ≤ x.amount) : x.amount = x.magnitude / 10 ^ x.scale := by
  rw [amount, coefficient_eq_magnitude (amount_nonneg_iff.mp h), Int.cast_natCast]

/-! ## Rounding -/

/-- A quotient is rounded to the nearest integer, a half upward. -/
theorem roundedQuotient_eq_round (n : Nat) {d : Nat} (hd : 0 < d) :
    (roundedQuotient n d : ℤ) = round ((n : ℚ) / d) := by
  have hdenominator : (d : ℚ) ≠ 0 := by exact_mod_cast hd.ne'
  have hsum : (n : ℚ) / d + 1 / 2 = ((2 * n + d : ℕ) : ℚ) / ((2 * d : ℕ) : ℚ) := by
    push_cast
    field_simp
  rw [round_eq, hsum, Rat.floor_natCast_div_natCast, roundedQuotient]
  norm_cast

/-- **An amount that is not below zero is rounded to the nearest integer**, a half upward. -/
theorem roundToInteger_eq_round (h : 0 ≤ x.amount) : x.roundToInteger = round x.amount := by
  have hunit : 0 < Nat.pow 10 x.scale := Nat.pow_pos (by decide)
  have hround : (x.magnitudeAt 0 : ℤ) = round x.amount := by
    rw [magnitudeAt, Nat.sub_zero, roundedQuotient_eq_round _ hunit, amount_eq_magnitude h]
    norm_num
  cases hminus : x.hasMinus with
  | false => simpa [roundToInteger, hminus] using hround
  | true =>
    -- this is a zero with a minus sign
    have hzero : x.magnitude = 0 := by
      have hcoefficient := amount_nonneg_iff.mp h
      simp only [coefficient, hminus, if_true] at hcoefficient
      omega
    rw [roundToInteger, if_pos hminus, hround, amount_of_zero hzero, round_zero, neg_zero]

/-! ## Giving up zeros -/

theorem of?_eq_some (h : of? c scale = some x) :
    x.coefficient = c ∧ x.scale = scale := by
  unfold of? ofParts? at h
  split at h
  · obtain rfl := Option.some.inj h
    by_cases hc : c < 0
    · simp only [coefficient, hc, decide_true, if_true, and_true]
      omega
    · simp only [coefficient, hc, decide_false, Bool.false_eq_true, if_false, and_true]
      omega
  · cases h

/-- What fits gives up no zeros. -/
theorem fit?_of_fits (h : of? c scale = some x) : fit? c scale = some x := by
  cases scale with
  | zero => exact h
  | succ scale => rw [fit?, h]

theorem exists_of? (hc : c.natAbs < bound) (hscale : scale ≤ maxScale) : ∃ x, of? c scale = some x :=
  ⟨_, dif_pos ⟨hc, hscale⟩⟩

/-- What gives up zeros stands for the same number. -/
theorem amount_of_fit? (h : fit? c scale = some y) : y.amount = c / 10 ^ scale := by
  induction scale generalizing c with
  | zero =>
    obtain ⟨hcoefficient, hscale⟩ := of?_eq_some h
    rw [amount, hcoefficient, hscale]
  | succ scale ih =>
    unfold fit? at h
    split at h
    · rename_i z hz
      obtain rfl := Option.some.inj h
      obtain ⟨hcoefficient, hscale⟩ := of?_eq_some hz
      rw [amount, hcoefficient, hscale]
    · split at h
      · rename_i hzero
        obtain ⟨tenth, rfl⟩ := Int.dvd_of_emod_eq_zero hzero
        rw [Int.mul_ediv_cancel_left _ (by decide)] at h
        rw [ih h, pow_succ']
        push_cast
        field_simp
      · cases h

/-- What fits without its last zero fits. -/
theorem fit?_of_fit?_mul_ten (h : fit? (c * 10) (scale + 1) = none) : fit? c scale = none := by
  unfold fit? at h
  split at h
  · cases h
  · rwa [if_pos (Int.mul_emod_left c 10), Int.mul_ediv_cancel _ (by decide)] at h

theorem bound_le_of_fit? (h : fit? c 0 = none) : bound ≤ c.natAbs := by
  by_contra hless
  obtain ⟨x, hx⟩ := exists_of? (Nat.lt_of_not_le hless) (Nat.zero_le maxScale)
  rw [fit?_of_fits hx] at h
  cases h

/-! ## A hundredfold -/

/-- **A hundredfold is exact.** -/
theorem amount_timesHundred? (h : x.timesHundred? = some y) : y.amount = 100 * x.amount := by
  rw [amount_of_fit? h, amount]
  push_cast
  ring

/-- **A hundredfold for which there is no room is out of range**: two decimals are enough to give up
the zeros that the factor has put there. -/
theorem bound_le_of_timesHundred? (h : x.timesHundred? = none) : (bound : ℚ) ≤ |100 * x.amount| := by
  have hfactor : x.coefficient * 100 = x.coefficient * 10 * 10 := by ring
  rw [timesHundred?, hfactor] at h
  rw [amount, abs_mul, abs_div, abs_coefficient]
  cases hscale : x.scale with
  | zero =>
    rw [hscale] at h
    have hroom := bound_le_of_fit? h
    rw [Int.natAbs_mul, Int.natAbs_mul, natAbs_coefficient] at hroom
    have hroom' : (bound : ℚ) ≤ x.magnitude * 10 * 10 := by exact_mod_cast hroom
    norm_num
    linarith
  | succ scale =>
    rw [hscale] at h
    have h₁ := fit?_of_fit?_mul_ten h
    cases scale with
    | zero =>
      have hroom := bound_le_of_fit? h₁
      rw [Int.natAbs_mul, natAbs_coefficient] at hroom
      have hroom' : (bound : ℚ) ≤ x.magnitude * 10 := by exact_mod_cast hroom
      norm_num
      linarith
    | succ scale =>
      -- without both zeros it is the decimal itself, and that has room
      have hfits : x.coefficient.natAbs < bound := by
        rw [natAbs_coefficient]
        exact x.magnitude_lt
      have hdecimals : scale ≤ maxScale := by
        have hle := x.scale_le
        omega
      obtain ⟨y, hy⟩ := exists_of? hfits hdecimals
      have h₂ := fit?_of_fit?_mul_ten h₁
      rw [fit?_of_fits hy] at h₂
      cases h₂

end Bursar.Decimal
