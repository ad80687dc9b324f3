import Bursar.Text.Numeral

/-!
# Decimal numbers

A decimal is a sign, a magnitude of at most 96 bits and a scale of at most 28: it
stands for `magnitude / 10 ^ scale` or the negative of it. The scale is part of
the value, so `100` and `100.00` differ although they are the same amount
(`Decimal.Same`). A zero may have a minus sign, which shows in nothing but the
written form; a number that is read in plain notation has none if it is zero.
-/

namespace Bursar

/-- One more than the greatest magnitude. -/
def Decimal.bound : Nat := Nat.pow 2 96

/-- The greatest scale. -/
def Decimal.maxScale : Nat := 28

/-- The number `magnitude / 10 ^ scale`, or the negative of it. -/
structure Decimal where
  /-- Whether a minus sign is written. -/
  hasMinus : Bool
  magnitude : Nat
  scale : Nat
  magnitude_lt : magnitude < Decimal.bound
  scale_le : scale ≤ Decimal.maxScale
deriving DecidableEq

namespace Decimal

/-- The decimal with this sign, magnitude and scale, if both are in range. -/
def ofParts? (hasMinus : Bool) (magnitude scale : Nat) : Option Decimal :=
  if h : magnitude < bound ∧ scale ≤ maxScale then some ⟨hasMinus, magnitude, scale, h.1, h.2⟩
  else none

/-- The decimal `coefficient / 10 ^ scale`, if that is in range. -/
def of? (coefficient : Int) (scale : Nat) : Option Decimal :=
  ofParts? (coefficient < 0) coefficient.natAbs scale

/-- Zero with no decimals. -/
def zero : Decimal := ⟨false, 0, 0, by decide, by decide⟩

instance : Inhabited Decimal := ⟨zero⟩

/-- The magnitude with its sign: the number is `coefficient / 10 ^ scale`. -/
def coefficient (x : Decimal) : Int := if x.hasMinus then -x.magnitude else x.magnitude

/-- Equality of the amounts, whatever the scales. -/
def Same (x y : Decimal) : Prop := x.coefficient * Nat.pow 10 y.scale = y.coefficient * Nat.pow 10 x.scale

instance (x y : Decimal) : Decidable (Same x y) := inferInstanceAs (Decidable (_ = _))

/-- Whether the amount is below zero. -/
def isNegative (x : Decimal) : Bool := x.coefficient < 0

/-- Whether the amount has no fraction. -/
def isWhole (x : Decimal) : Bool := x.coefficient % Nat.pow 10 x.scale = 0

/-- The amount without its fraction, toward zero. -/
def truncate (x : Decimal) : Int := x.coefficient.tdiv (Nat.pow 10 x.scale)

/-- The amount without its fraction, if that fits 64 signed bits. -/
def toInt64? (x : Decimal) : Option Int := Text.within64 x.truncate

/-- A quotient rounded to the nearest integer, a half away from zero. -/
def roundedQuotient (numerator denominator : Nat) : Nat :=
  (2 * numerator + denominator) / (2 * denominator)

/-- The magnitude of the amount kept to fewer decimals, a half rounded up. -/
def magnitudeAt (x : Decimal) (scale : Nat) : Nat :=
  roundedQuotient x.magnitude (Nat.pow 10 (x.scale - scale))

/-- The amount rounded to an integer, a half away from zero. -/
def roundToInteger (x : Decimal) : Int := if x.hasMinus then -x.magnitudeAt 0 else x.magnitudeAt 0

/-- Gives up trailing fraction zeros, as few as make the coefficient fit 96 bits; `none` if it does
not come to fit. -/
def fit? (coefficient : Int) : (scale : Nat) → Option Decimal
  | 0 => of? coefficient 0
  | scale + 1 =>
    match of? coefficient (scale + 1) with
    | some x => some x
    | none => if coefficient % 10 = 0 then fit? (coefficient / 10) scale else none

/-- A hundred times the amount; `none` if no scale can hold it. -/
def timesHundred? (x : Decimal) : Option Decimal := fit? (x.coefficient * 100) x.scale

/-- Puts a point before the last `scale` digits of a natural number. -/
def placePoint (n scale : Nat) : String :=
  if scale = 0 then Text.ofNat n
  else Text.ofNat (n / Nat.pow 10 scale) ++ "." ++ Text.ofNatPadded scale (n % Nat.pow 10 scale)

/-- The written form, with as many decimals as the scale says. -/
def toString (x : Decimal) : String :=
  (if x.hasMinus then "-" else "") ++ placePoint x.magnitude x.scale

instance : ToString Decimal := ⟨Decimal.toString⟩

end Decimal
end Bursar
