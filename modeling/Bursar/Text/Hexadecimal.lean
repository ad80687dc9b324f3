/-!
# Hexadecimal digits

Digits of base sixteen: reading accepts either case, writing uses lower case
unless upper case is asked for.
-/

namespace Bursar.Text

/-- The last hexadecimal digit of a number. -/
def lastHex (n : Nat) : Fin 16 := Fin.ofNat 16 n

/-- The value of a hexadecimal digit in either case. -/
def hexValue? (c : Char) : Option (Fin 16) :=
  let n := c.toNat
  if 48 ≤ n ∧ n ≤ 57 then some (lastHex (n - 48))
  else if 97 ≤ n ∧ n ≤ 102 then some (lastHex (n - 87))
  else if 65 ≤ n ∧ n ≤ 70 then some (lastHex (n - 55))
  else none

/-- Whether a character is a hexadecimal digit in either case. -/
def isHex (c : Char) : Bool := (hexValue? c).isSome

/-- The lower-case digit of a value. -/
def hexChar (d : Fin 16) : Char :=
  if d.val < 10 then Char.ofNat (48 + d.val) else Char.ofNat (87 + d.val)

/-- The upper-case digit of a value. -/
def hexCharUpper (d : Fin 16) : Char :=
  if d.val < 10 then Char.ofNat (48 + d.val) else Char.ofNat (55 + d.val)

/-- The two digits of an octet, the more significant one first. -/
def octetDigits (b : UInt8) : Fin 16 × Fin 16 :=
  (lastHex (b.toNat / 16), lastHex b.toNat)

/-- Two lower-case digits for each octet. -/
def hexOfOctets (bs : List UInt8) : List Char :=
  bs.flatMap fun b => [hexChar (octetDigits b).1, hexChar (octetDigits b).2]

/-- The octet with the given two digits. -/
def octetOfDigits (high low : Fin 16) : UInt8 := UInt8.ofNat (16 * high.val + low.val)

end Bursar.Text
