/-!
# Numerals

Integers written in decimal digits. A signed numeral may carry `+` or `-`, an
unsigned one only `+`; what follows is ASCII digits and nothing else. A numeral
outside the range of its type is refused.
-/

namespace Bursar.Text

/-- The value of an ASCII decimal digit. -/
def digitValue? (c : Char) : Option Nat :=
  if '0' ≤ c ∧ c ≤ '9' then some (c.toNat - 48) else none

/-- Reads digits onto a value read so far; refuses any other character. -/
def digitsValue? (value : Nat) : List Char → Option Nat
  | [] => some value
  | c :: cs => (digitValue? c).bind fun d => digitsValue? (value * 10 + d) cs

/-- The value of a non-empty run of digits. -/
def natural? : List Char → Option Nat
  | [] => none
  | cs => digitsValue? 0 cs

/-- Keeps a number that is at most `max`. -/
def atMost (max : Nat) (n : Nat) : Option Nat := if n ≤ max then some n else none

/-- An unsigned numeral of at most `max`. -/
def unsigned? (max : Nat) : List Char → Option Nat
  | '+' :: cs => (natural? cs).bind (atMost max)
  | cs => (natural? cs).bind (atMost max)

/-- The least 64-bit signed integer. -/
def minInt64 : Int := -9223372036854775808

/-- The greatest 64-bit signed integer. -/
def maxInt64 : Int := 9223372036854775807

/-- The greatest 64-bit unsigned integer. -/
def maxNat64 : Nat := 18446744073709551615

/-- Keeps an integer of 64 signed bits. -/
def within64 (n : Int) : Option Int := if minInt64 ≤ n ∧ n ≤ maxInt64 then some n else none

/-- A signed numeral of 64 bits. -/
def signed64Chars? : List Char → Option Int
  | '+' :: cs => (natural? cs).bind fun n => within64 n
  | '-' :: cs => (natural? cs).bind fun n => within64 (-(n : Int))
  | cs => (natural? cs).bind fun n => within64 n

/-- A signed 64-bit integer from its numeral. -/
def signed64? (s : String) : Option Int := signed64Chars? s.toList

/-- An unsigned 64-bit integer from its numeral. -/
def unsigned64? (s : String) : Option Nat := unsigned? maxNat64 s.toList

/-- An unsigned 16-bit integer from its numeral. -/
def unsigned16? (s : String) : Option Nat := unsigned? 65535 s.toList

/-- The ASCII digit of a value below ten. -/
def digitChar (d : Nat) : Char := Char.ofNat (48 + d % 10)

/-- The decimal digits of a natural number, in front of what follows. -/
def digitsOnto (n : Nat) (tail : List Char) : List Char :=
  if _h : n < 10 then digitChar n :: tail else digitsOnto (n / 10) (digitChar n :: tail)
termination_by n
decreasing_by omega

/-- The numeral of a natural number, without leading zeros. -/
def ofNat (n : Nat) : String := String.ofList (digitsOnto n [])

/-- The numeral of an integer, with `-` in front of a negative one. -/
def ofInt : Int → String
  | .ofNat n => ofNat n
  | .negSucc n => "-" ++ ofNat (n + 1)

/-- The numeral of a natural number filled with zeros up to `width` digits. -/
def ofNatPadded (width n : Nat) : String :=
  let digits := digitsOnto n []
  String.ofList (List.replicate (width - digits.length) '0' ++ digits)

end Bursar.Text
