import Bursar.Ledger.Debit
import Bursar.Proofs.Decimal.Product
import Bursar.Proofs.Decimal.Reading

/-!
# What a price takes from a ledger

A debit is what the price counts for in the smallest unit of its ledger, worked out in rational
numbers and rounded once, at the end (`Denomination.count`). A price is refused for its size
exactly if that does not fit 64 signed bits (`Denomination.debit_exact`).

A price of almost 96 bits has no room for a hundred times its magnitude, so that product loses
decimals before it is rounded. Those are zeros, whichever multiplication is used:
`Denomination.debitBy` is the debit with one that is only known to be
`Decimal.Multiplies`.

The minus sign of a zero is no sign of a debt: it changes neither a debit nor a refusal
(`Denomination.debit_plain`).
-/

namespace Bursar.Denomination

variable {unit : Denomination} {price amount : Decimal} {quantity : Int} {p q : ℚ}

/-- What a price counts for in the smallest unit of a ledger. -/
def count : Denomination → ℚ → ℤ
  | .seats, _ => 1
  | .yen, price => round price
  | .usdCents, price => round (100 * price)

/-- The debit worked out with some multiplication. -/
def debitBy (times : Decimal → Decimal → Option Decimal) (unit : Denomination) (price : Decimal) :
    Except LedgerError Int :=
  if price.isNegative then
    .error (.validation ("Content price must not be negative, got " ++ price.toString))
  else
    match unit with
    | .seats => .ok (-1)
    | .yen => debitAmount price price
    | .usdCents =>
      match times price .hundred with
      | some amount => debitAmount price amount
      | none => .error (outOfRange price)

/-! ## Counting -/

theorem round_le_round (h : p ≤ q) : round p ≤ round q := by
  rw [round_eq, round_eq]
  exact Int.floor_mono (add_le_add_left h _)

theorem round_nonneg (h : 0 ≤ p) : 0 ≤ round p := by
  have hzero : round (0 : ℚ) = 0 := round_zero
  rw [← hzero]
  exact round_le_round h

theorem count_nonneg (unit : Denomination) (h : 0 ≤ p) : 0 ≤ unit.count p := by
  cases unit with
  | seats => exact Int.one_nonneg
  | yen => exact round_nonneg h
  | usdCents => exact round_nonneg (by positivity)

/-- **A dearer price counts for no less.** -/
theorem count_mono (unit : Denomination) (h : p ≤ q) : unit.count p ≤ unit.count q := by
  cases unit with
  | seats => exact Int.le_refl _
  | yen => exact round_le_round h
  | usdCents => exact round_le_round (by linarith)

/-! ## Debiting -/

/-- What is debited, or refused, for a price that counts for `n`. -/
def settled (price : Decimal) (n : ℤ) : Except LedgerError Int :=
  if n ≤ Text.maxInt64 then .ok (-n) else .error (outOfRange price)

theorem settled_eq_ok_iff {n : ℤ} :
    settled price n = .ok quantity ↔ n ≤ Text.maxInt64 ∧ quantity = -n := by
  unfold settled
  split <;> simp_all [eq_comm]

/-- **A debit is rounded once**: it depends on nothing but the amount in the smallest unit. -/
theorem debitAmount_eq_settled (h : 0 ≤ amount.amount) :
    debitAmount price amount = settled price (round amount.amount) := by
  have hround := round_nonneg h
  have hlow : Text.minInt64 ≤ round amount.amount := Int.le_trans (by decide) hround
  rw [debitAmount, Decimal.roundToInteger_eq_round h, Text.within64, settled]
  by_cases hfits : round amount.amount ≤ Text.maxInt64
  · rw [if_pos ⟨hlow, hfits⟩, if_pos hfits]
  · rw [if_neg fun hboth => hfits hboth.2, if_neg hfits]

/-- What is out of range for a decimal is out of range for a ledger. -/
theorem not_le_maxInt64 (hp : 0 ≤ p) (h : (Decimal.bound : ℚ) ≤ |p|) : ¬ round p ≤ Text.maxInt64 := by
  have hbound : ((Text.maxInt64 + 1 : ℤ) : ℚ) ≤ p := by
    rw [abs_of_nonneg hp] at h
    refine le_trans ?_ h
    exact_mod_cast (by decide : Text.maxInt64 + 1 ≤ (Decimal.bound : ℤ))
  have hround := round_le_round hbound
  rw [round_intCast] at hround
  omega

/-- **A price below zero is refused.** -/
theorem debit_of_negative (unit : Denomination) (h : price.amount < 0) : unit.debit price =
    .error (.validation ("Content price must not be negative, got " ++ price.toString)) := by
  rw [debit.eq_def, if_pos (Decimal.isNegative_iff.mpr h)]

/-- **A debit is worked out in rational numbers.** -/
theorem debit_eq_settled (unit : Denomination) (h : 0 ≤ price.amount) :
    unit.debit price = settled price (unit.count price.amount) := by
  have hsign : ¬ price.isNegative = true := by rwa [Decimal.isNegative_iff, not_lt]
  have hhundredfold : 0 ≤ 100 * price.amount := by positivity
  rw [debit.eq_def, if_neg hsign]
  cases unit with
  | seats => rfl
  | yen => exact debitAmount_eq_settled h
  | usdCents =>
    cases hy : price.timesHundred? with
    | some amount =>
      have hamount := Decimal.amount_timesHundred? hy
      show debitAmount price amount = _
      rw [debitAmount_eq_settled (hamount ▸ hhundredfold), hamount]
      rfl
    | none =>
      have hrange := not_le_maxInt64 hhundredfold (Decimal.bound_le_of_timesHundred? hy)
      exact (if_neg hrange).symm

theorem debit_eq_ok_iff : unit.debit price = .ok quantity ↔ 0 ≤ price.amount ∧
    unit.count price.amount ≤ Text.maxInt64 ∧ quantity = -unit.count price.amount := by
  by_cases h : 0 ≤ price.amount
  · rw [debit_eq_settled unit h, settled_eq_ok_iff]
    simp [h]
  · rw [debit_of_negative unit (not_le.mp h)]
    simp [h]

/-- **A debit never adds to a ledger.** -/
theorem debit_not_positive (h : unit.debit price = .ok quantity) : quantity ≤ 0 := by
  obtain ⟨hprice, -, rfl⟩ := debit_eq_ok_iff.mp h
  have hcount := count_nonneg unit hprice
  omega

/-- The debit of nothing: a seat is a seat. -/
theorem debit_of_zero (unit : Denomination) (h : price.magnitude = 0) :
    unit.debit price = .ok (-unit.count 0) := by
  have hfits : unit.count 0 ≤ Text.maxInt64 := by cases unit <;> simp [count, Text.maxInt64]
  rw [debit_eq_ok_iff, Decimal.amount_of_zero h]
  exact ⟨le_refl 0, hfits, rfl⟩

/-- **The minus sign of a zero changes no debit.** -/
theorem debit_plain (unit : Denomination) (price : Decimal) :
    unit.debit price.plain = unit.debit price := by
  by_cases h : price.magnitude = 0
  · have hplain : price.plain.magnitude = 0 := h
    rw [debit_of_zero unit h, debit_of_zero unit hplain]
  · rw [Decimal.plain_of_ne_zero h]

/-- **Every multiplication comes to the same debit.** -/
theorem debitBy_eq {times : Decimal → Decimal → Option Decimal} (h : Decimal.Multiplies times)
    (unit : Denomination) (price : Decimal) : unit.debitBy times price = unit.debit price := by
  by_cases hsign : price.isNegative = true
  · rw [debitBy.eq_def, debit.eq_def, if_pos hsign, if_pos hsign]
  have hprice : 0 ≤ price.amount := by rwa [Decimal.isNegative_iff, not_lt] at hsign
  have hhundredfold : 0 ≤ 100 * price.amount := by positivity
  rw [debitBy.eq_def, debit.eq_def, if_neg hsign, if_neg hsign]
  cases unit with
  | seats => rfl
  | yen => rfl
  | usdCents =>
    have hsame := h.hundredfold price
    cases hy : price.timesHundred? with
    | none =>
      rw [hy, Option.map_none, Option.map_eq_none_iff] at hsame
      simp only [hsame]
    | some amount =>
      rw [hy, Option.map_some, Option.map_eq_some_iff] at hsame
      obtain ⟨amount', htimes, hamount'⟩ := hsame
      have hamount := Decimal.amount_timesHundred? hy
      have hnonneg : 0 ≤ amount.amount := hamount ▸ hhundredfold
      simp only [htimes]
      rw [debitAmount_eq_settled (hamount' ▸ hnonneg), debitAmount_eq_settled hnonneg, hamount']

/-- **An exact debit.** A price below zero is refused for every ledger. Any other is debited for
what it counts for, `1` for a seat and the price in the smallest unit rounded to the nearest
integer with a half upward for money, and it is refused as out of range exactly if that is above
the greatest integer of 64 signed bits. So a debit is never above zero, and a dearer price is
debited no less. The multiplication that is used for it is of no matter. -/
theorem debit_exact {times : Decimal → Decimal → Option Decimal} (h : Decimal.Multiplies times)
    (unit : Denomination) (price : Decimal) :
    unit.debitBy times price = unit.debit price ∧
    (unit.debit price =
      if price.amount < 0 then
        .error (.validation ("Content price must not be negative, got " ++ price.toString))
      else if unit.count price.amount ≤ Text.maxInt64 then .ok (-unit.count price.amount)
      else .error (.validation ("Price " ++ price.toString ++ " is out of range"))) ∧
    (∀ quantity, unit.debit price = .ok quantity → quantity ≤ 0) ∧
    ∀ dearer quantity quantity', price.amount ≤ dearer.amount → unit.debit price = .ok quantity →
      unit.debit dearer = .ok quantity' → quantity' ≤ quantity := by
  refine ⟨debitBy_eq h unit price, ?_, ?_, ?_⟩
  · by_cases hsign : price.amount < 0
    · rw [if_pos hsign, debit_of_negative unit hsign]
    · rw [if_neg hsign]
      exact debit_eq_settled unit (not_lt.mp hsign)
  · intro quantity hdebit
    exact debit_not_positive hdebit
  · intro dearer quantity quantity' hle hdebit hdebit'
    obtain ⟨-, -, rfl⟩ := debit_eq_ok_iff.mp hdebit
    obtain ⟨-, -, rfl⟩ := debit_eq_ok_iff.mp hdebit'
    have hcount := count_mono unit hle
    omega

/-- A price of 96 bits that ends on half a cent. -/
def halfCent : Decimal :=
  ⟨false, 79150000000000000000000000000, Decimal.maxScale, by decide, Nat.le_refl _⟩

/-- There is no room for a hundred times its magnitude, and still the half cent is rounded upward. -/
theorem debit_exact_halfCent : Decimal.Multiplies Decimal.times? ∧
    debitBy Decimal.times? .usdCents halfCent = debit .usdCents halfCent ∧
    Decimal.bound ≤ 100 * halfCent.magnitude ∧ debit .usdCents halfCent = .ok (-792) ∧
    (-792 : Int) ≤ 0 := by
  obtain ⟨hsame, hdebit, hsign, -⟩ := debit_exact Decimal.multiplies_times? .usdCents halfCent
  have hamount : halfCent.amount = 7.915 := by
    norm_num [Decimal.amount, Decimal.coefficient, Decimal.maxScale, halfCent]
  have hcount : count .usdCents halfCent.amount = 792 := by
    rw [count, hamount, round_eq, Int.floor_eq_iff]
    norm_num
  have hpositive : ¬ halfCent.amount < 0 := by
    rw [hamount]
    norm_num
  rw [if_neg hpositive, hcount, if_pos (by decide)] at hdebit
  exact ⟨Decimal.multiplies_times?, hsame, by decide, hdebit, hsign _ hdebit⟩

end Bursar.Denomination
