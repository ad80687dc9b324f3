import Bursar.Proofs.Decimal.Amount

/-!
# Products of decimals

A product may have more digits than there is room for. What is relied on of a multiplication
(`Decimal.Multiplies`) says nothing of how such a product is rounded: only that a product that
some decimal stands for is exact, and that one which is out of range is not given. That is
enough to multiply by a hundred, for a hundredfold never has to be rounded
(`Multiplies.hundredfold`).

`Decimal.times?` is such a multiplication: it rounds off as few decimals as it can, a half to
the even neighbour (`multiplies_times?`).
-/

namespace Bursar.Decimal

variable {x y z : Decimal} {n m scale kept : Nat} {hasMinus : Bool}

/-- **What is relied on of a multiplication.** -/
structure Multiplies (times : Decimal → Decimal → Option Decimal) : Prop where
  exact : ∀ {x y z : Decimal}, z.amount = x.amount * y.amount →
    ∃ w, times x y = some w ∧ w.amount = x.amount * y.amount
  outOfRange : ∀ {x y : Decimal}, (bound : ℚ) ≤ |x.amount * y.amount| → times x y = none

/-- The decimal `100`. -/
def hundred : Decimal := ⟨false, 100, 0, by decide, zero.scale_le⟩

theorem amount_hundred : hundred.amount = 100 := by
  simp [amount, coefficient, hundred]

/-- **A hundredfold never has to be rounded**, so every multiplication comes to the same. -/
theorem Multiplies.hundredfold {times : Decimal → Decimal → Option Decimal} (h : Multiplies times)
    (x : Decimal) : (times x hundred).map amount = x.timesHundred?.map amount := by
  have hproduct : x.amount * hundred.amount = 100 * x.amount := by
    rw [amount_hundred, mul_comm]
  cases hy : x.timesHundred? with
  | none =>
    rw [h.outOfRange (hproduct ▸ bound_le_of_timesHundred? hy)]
  | some y =>
    have hexact : y.amount = x.amount * hundred.amount := by
      rw [amount_timesHundred? hy, hproduct]
    obtain ⟨w, hw, hamount⟩ := h.exact hexact
    rw [hw, Option.map_some, Option.map_some, hamount, hexact]

/-! ## A multiplication -/

/-- A quotient rounded to the nearest integer, a half to the even one. -/
def evenQuotient (numerator denominator : Nat) : Nat :=
  let quotient := numerator / denominator
  let rest := 2 * (numerator % denominator)
  if rest < denominator ∨ rest = denominator ∧ quotient % 2 = 0 then quotient else quotient + 1

/-- `n / 10 ^ scale` with as many decimals as there is room for, but not more than `kept`. -/
def shorten? (hasMinus : Bool) (n scale : Nat) : (kept : Nat) → Option Decimal
  | 0 => ofParts? hasMinus (evenQuotient n (10 ^ scale)) 0
  | kept + 1 =>
    match ofParts? hasMinus (evenQuotient n (10 ^ (scale - (kept + 1)))) (kept + 1) with
    | some x => some x
    | none => shorten? hasMinus n scale kept

/-- The product; decimals for which there is no room are rounded off. -/
def times? (x y : Decimal) : Option Decimal :=
  shorten? (x.hasMinus != y.hasMinus) (x.magnitude * y.magnitude) (x.scale + y.scale)
    (x.scale + y.scale)

theorem evenQuotient_mul (m : Nat) {d : Nat} (hd : 0 < d) : evenQuotient (m * d) d = m := by
  simp [evenQuotient, Nat.mul_div_cancel m hd, hd]

theorem div_le_evenQuotient (n d : Nat) : n / d ≤ evenQuotient n d := by
  simp only [evenQuotient]
  split
  · exact Nat.le_refl _
  · exact Nat.le_succ _

theorem ofParts?_eq_some (h : ofParts? hasMinus m scale = some x) :
    x.hasMinus = hasMinus ∧ x.magnitude = m ∧ x.scale = scale := by
  unfold ofParts? at h
  split at h
  · obtain rfl := Option.some.inj h
    exact ⟨rfl, rfl, rfl⟩
  · cases h

/-- A number that has room with `least` decimals is kept as it is. -/
theorem exists_shorten? (hasMinus : Bool) {least : Nat} (hm : m < bound) (hleast : least ≤ maxScale)
    (hn : n = m * 10 ^ (scale - least)) (h₁ : least ≤ kept) (h₂ : kept ≤ scale) :
    ∃ w, shorten? hasMinus n scale kept = some w ∧ w.hasMinus = hasMinus ∧
      w.scale ≤ scale ∧ n = w.magnitude * 10 ^ (scale - w.scale) := by
  have hroom : ∃ w, ofParts? hasMinus (evenQuotient n (10 ^ (scale - least))) least = some w ∧
      w.hasMinus = hasMinus ∧ w.scale ≤ scale ∧ n = w.magnitude * 10 ^ (scale - w.scale) := by
    rw [hn, evenQuotient_mul m (by positivity)]
    exact ⟨_, dif_pos ⟨hm, hleast⟩, rfl, Nat.le_trans h₁ h₂, rfl⟩
  induction kept with
  | zero =>
    obtain rfl := Nat.le_zero.mp h₁
    exact hroom
  | succ kept ih =>
    by_cases hlast : least = kept + 1
    · subst hlast
      obtain ⟨w, hw, hsame⟩ := hroom
      exact ⟨w, by rw [shorten?, hw], hsame⟩
    · unfold shorten?
      split
      · -- it has room with more decimals too, and the quotient has no rest
        rename_i w hw
        obtain ⟨hsign, hmagnitude, hscale⟩ := ofParts?_eq_some hw
        refine ⟨w, rfl, hsign, by omega, ?_⟩
        have hmore : scale - least = (kept + 1 - least) + (scale - (kept + 1)) := by omega
        rw [hn, hmore, pow_add, ← Nat.mul_assoc, evenQuotient_mul _ (by positivity)] at hmagnitude
        rw [hmagnitude, hscale, hn, hmore, pow_add, ← Nat.mul_assoc]
      · exact ih (by omega) (by omega)

/-- A number that is out of range has room with no decimals. -/
theorem shorten?_eq_none (h : bound * 10 ^ scale ≤ n) : shorten? hasMinus n scale kept = none := by
  have hroom (decimals places : Nat) :
      ofParts? hasMinus (evenQuotient n (10 ^ (scale - places))) decimals = none := by
    refine dif_neg fun hfits => Nat.not_le.mpr hfits.1 ?_
    have hpower : 10 ^ (scale - places) ≤ 10 ^ scale := Nat.pow_le_pow_right (by decide) (by omega)
    have hquotient : bound ≤ n / 10 ^ (scale - places) :=
      (Nat.le_div_iff_mul_le (by positivity)).mpr (Nat.le_trans (Nat.mul_le_mul_left _ hpower) h)
    exact Nat.le_trans hquotient (div_le_evenQuotient _ _)
  induction kept with
  | zero => exact hroom 0 0
  | succ kept ih => rw [shorten?, hroom (kept + 1) (kept + 1), ih]

/-! ## It multiplies -/

theorem abs_amount (x : Decimal) : |x.amount| = x.magnitude / 10 ^ x.scale := by
  rw [amount, abs_div, abs_of_pos (by positivity : (0 : ℚ) < 10 ^ x.scale), abs_coefficient]

theorem amount_eq_sign (x : Decimal) :
    x.amount = (if x.hasMinus then -1 else 1) * (x.magnitude / 10 ^ x.scale) := by
  cases h : x.hasMinus <;> simp [amount, coefficient, h, neg_div]

theorem abs_product (x y : Decimal) :
    |x.amount * y.amount| = ((x.magnitude * y.magnitude : ℕ) : ℚ) / 10 ^ (x.scale + y.scale) := by
  rw [abs_mul, abs_amount, abs_amount, pow_add]
  push_cast
  ring

/-- A product that a decimal stands for has room. -/
theorem exists_room (h : z.amount = x.amount * y.amount) : ∃ m least, m < bound ∧ least ≤ maxScale ∧
    least ≤ x.scale + y.scale ∧
      x.magnitude * y.magnitude = m * 10 ^ (x.scale + y.scale - least) := by
  have hcross : z.magnitude * 10 ^ (x.scale + y.scale) = x.magnitude * y.magnitude * 10 ^ z.scale := by
    have habs := congrArg abs h
    rw [abs_amount, abs_product, div_eq_div_iff (by positivity) (by positivity)] at habs
    exact_mod_cast habs
  by_cases hle : z.scale ≤ x.scale + y.scale
  · refine ⟨z.magnitude, z.scale, z.magnitude_lt, z.scale_le, hle, ?_⟩
    obtain ⟨more, hmore⟩ := Nat.exists_eq_add_of_le hle
    rw [hmore, pow_add] at hcross
    rw [hmore, Nat.add_sub_cancel_left]
    refine Nat.eq_of_mul_eq_mul_right (show 0 < 10 ^ z.scale by positivity) ?_
    rw [← hcross]
    ring
  · -- the product has fewer decimals than the decimal that stands for it
    have hless : x.scale + y.scale ≤ z.scale := Nat.le_of_not_le hle
    refine ⟨x.magnitude * y.magnitude, x.scale + y.scale, ?_, Nat.le_trans hless z.scale_le,
      Nat.le_refl _, by simp⟩
    obtain ⟨more, hmore⟩ := Nat.exists_eq_add_of_le hless
    have hmagnitude : z.magnitude = x.magnitude * y.magnitude * 10 ^ more := by
      refine Nat.eq_of_mul_eq_mul_right (show 0 < 10 ^ (x.scale + y.scale) by positivity) ?_
      rw [hcross, hmore, pow_add]
      ring
    have hpower : 0 < 10 ^ more := by positivity
    exact Nat.lt_of_le_of_lt (hmagnitude ▸ Nat.le_mul_of_pos_right _ hpower) z.magnitude_lt

/-- **The product is one that can be relied on.** -/
theorem multiplies_times? : Multiplies times? where
  exact := by
    intro x y z h
    obtain ⟨m, least, hm, hleast, hscale, hn⟩ := exists_room h
    obtain ⟨w, hw, hsign, hdecimals, hvalue⟩ := exists_shorten? (x.hasMinus != y.hasMinus)
      hm hleast hn hscale (Nat.le_refl _)
    refine ⟨w, hw, ?_⟩
    have hmagnitude : (w.magnitude : ℚ) / 10 ^ w.scale =
        (x.magnitude / 10 ^ x.scale) * (y.magnitude / 10 ^ y.scale) := by
      rw [div_mul_div_comm, ← pow_add, div_eq_div_iff (by positivity) (by positivity)]
      have hcross : w.magnitude * 10 ^ (x.scale + y.scale) = x.magnitude * y.magnitude * 10 ^ w.scale := by
        rw [hvalue, Nat.mul_assoc, ← pow_add, Nat.sub_add_cancel hdecimals]
      exact_mod_cast hcross
    rw [amount_eq_sign w, amount_eq_sign x, amount_eq_sign y, hmagnitude, hsign]
    cases x.hasMinus <;> cases y.hasMinus <;> simp
  outOfRange := by
    intro x y h
    rw [abs_product, le_div_iff₀ (by positivity)] at h
    exact shorten?_eq_none (by exact_mod_cast h)

end Bursar.Decimal
