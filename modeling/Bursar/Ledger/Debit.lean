import Bursar.Decimal.Basic
import Bursar.Ledger.Error

/-!
# Debits

What an enrollment of a given price takes from a ledger. Money ledgers debit the
price in their smallest unit, rounded to a whole number with a half away from
zero; a seat ledger debits one seat whatever the price.
-/

namespace Bursar.Denomination

/-- The refusal of a price that a ledger cannot count. -/
def outOfRange (price : Decimal) : LedgerError :=
  .validation ("Price " ++ price.toString ++ " is out of range")

/-- The debit of an amount in the smallest unit. -/
def debitAmount (price amount : Decimal) : Except LedgerError Int :=
  match Text.within64 amount.roundToInteger with
  | some quantity => .ok (-quantity)
  | none => .error (outOfRange price)

/-- The quantity, zero or negative, that one enrollment at a price adds to a ledger. -/
def debit (unit : Denomination) (price : Decimal) : Except LedgerError Int :=
  if price.isNegative then
    .error (.validation ("Content price must not be negative, got " ++ price.toString))
  else
    match unit with
    | .seats => .ok (-1)
    | .yen => debitAmount price price
    | .usdCents =>
      match price.timesHundred? with
      | some amount => debitAmount price amount
      | none => .error (outOfRange price)

end Bursar.Denomination
