import Bursar.Json.Decode

/-!
# Denominations

A ledger counts US cents, seats or yen. `Denomination.toText` and
`Denomination.parse?` give the names that stand in requests and answers.
-/

namespace Bursar

/-- What a ledger counts. -/
inductive Denomination where
  | usdCents
  | seats
  | yen
deriving DecidableEq, Repr, Inhabited

namespace Denomination

/-- The written name. -/
def toText : Denomination → String
  | .usdCents => "usd_cents"
  | .seats => "seats"
  | .yen => "jpy"

/-- All denominations with their names. -/
def names : List (String × Denomination) :=
  [("usd_cents", .usdCents), ("seats", .seats), ("jpy", .yen)]

/-- The denomination of that name. -/
def parse? (s : String) : Option Denomination := names.lookup s

/-- The denomination of a ledger that names none. -/
def standard : Denomination := .usdCents

/-- Reads a denomination. -/
def decoder : Json.Decoder Denomination := Json.Decoder.name names

end Denomination
end Bursar
