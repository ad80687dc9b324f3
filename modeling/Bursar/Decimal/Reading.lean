import Bursar.Decimal.Basic
import Bursar.Text.Split

/-!
# Reading decimals

Two notations. The plain one is an optional sign and digits with at most one
point, where `_` may stand anywhere after the first digit. Digits are taken while
the magnitude fits 96 bits and the scale is at most 28; the first fraction digit
beyond that rounds the number, half up on that digit alone, and the rest is only
checked for valid characters. The scientific one is a plain decimal, `e` or `E`,
and an exponent.

A zero that is read in plain notation has no sign. A negative number that a
negative exponent rounds to zero keeps its sign.

`Decimal.parse?` tries the plain notation, then the scientific one.
-/

namespace Bursar.Decimal

/-- Why a text is not a decimal. -/
inductive ReadError where
  | empty
  | noDigits
  | secondPoint
  | leadingSeparator
  | unknownCharacter
  | tooManyDigits
  | roundedTooFar
  | badExponent
  | exponentTooLarge (exponent : Nat)
  | tooLarge
deriving DecidableEq, Repr

/-- The wording of a reading error. -/
def ReadError.message : ReadError → String
  | .empty => "Invalid decimal: empty"
  | .noDigits => "Invalid decimal: no digits found"
  | .secondPoint => "Invalid decimal: two decimal points"
  | .leadingSeparator => "Invalid decimal: must start lead with a number"
  | .unknownCharacter => "Invalid decimal: unknown character"
  | .tooManyDigits => "Invalid decimal: overflow from too many digits"
  | .roundedTooFar => "Invalid decimal: overflow from mantissa after rounding"
  | .badExponent => "Failed to parse"
  | .exponentTooLarge exponent =>
    "Scale exceeds the maximum precision allowed: " ++ Text.ofNat exponent ++ " > 28"
  | .tooLarge => "Number exceeds maximum value that can be represented."

/-- The decimal with a sign, a magnitude and a scale, or `tooLarge`. -/
def withParts (hasMinus : Bool) (magnitude scale : Nat) : Except ReadError Decimal :=
  match ofParts? hasMinus magnitude scale with
  | some x => .ok x
  | none => .error .tooLarge

/-- The decimal with a magnitude and a scale and the sign that was read; a zero has none. -/
def build (isNegative : Bool) (magnitude scale : Nat) : Except ReadError Decimal :=
  withParts (isNegative && magnitude ≠ 0) magnitude scale

/-- The characters after the rounding digit: digits and separators. -/
def checkRest : List Char → Except ReadError Unit
  | [] => .ok ()
  | c :: cs =>
    if (Text.digitValue? c).isSome ∨ c = '_' then checkRest cs
    else if c = '.' then .error .secondPoint
    else .error .unknownCharacter

/-- Ends a number whose next fraction digit is `digit`: from five on, the last kept digit goes up by
one. -/
def roundOff (isNegative : Bool) (magnitude scale digit : Nat) (rest : List Char) :
    Except ReadError Decimal := do
  if 5 ≤ digit ∧ bound ≤ magnitude + 1 ∧ scale = 0 then .error .roundedTooFar
  else
    checkRest rest
    if digit < 5 then build isNegative magnitude scale
    else if magnitude + 1 < bound then build isNegative (magnitude + 1) scale
    else build isNegative ((magnitude + 5) / 10) (scale - 1)

/-- Reads the fraction digits; `started` says whether a digit came before. -/
def readFraction (isNegative started : Bool) (magnitude scale : Nat) :
    List Char → Except ReadError Decimal
  | [] => if started then build isNegative magnitude scale else .error .noDigits
  | c :: cs =>
    match Text.digitValue? c with
    | some d =>
      if scale < maxScale ∧ magnitude * 10 + d < bound then
        readFraction isNegative true (magnitude * 10 + d) (scale + 1) cs
      else roundOff isNegative magnitude scale d cs
    | none =>
      if c = '_' then
        if started then readFraction isNegative started magnitude scale cs
        else .error .leadingSeparator
      else if c = '.' then .error .secondPoint
      else .error .unknownCharacter

/-- Reads the digits before the point; `started` says whether a digit came before. -/
def readWhole (isNegative started : Bool) (magnitude : Nat) : List Char → Except ReadError Decimal
  | [] => if started then build isNegative magnitude 0 else .error .noDigits
  | c :: cs =>
    match Text.digitValue? c with
    | some d =>
      if magnitude * 10 + d < bound then readWhole isNegative true (magnitude * 10 + d) cs
      else .error .tooManyDigits
    | none =>
      if c = '.' then readFraction isNegative started magnitude 0 cs
      else if c = '_' then
        if started then readWhole isNegative started magnitude cs else .error .leadingSeparator
      else .error .unknownCharacter

/-- Reads a number in plain notation. -/
def readPlain : List Char → Except ReadError Decimal
  | [] => .error .empty
  | c :: cs =>
    if c = '-' then readWhole true false 0 cs
    else if c = '+' then readWhole false false 0 cs
    else readWhole false false 0 (c :: cs)

/-- Cuts a text at the first `e` or `E`. -/
def splitExponent : List Char → Option (List Char × List Char)
  | [] => none
  | c :: cs =>
    if c = 'e' ∨ c = 'E' then some ([], cs)
    else (splitExponent cs).map fun (before, after) => (c :: before, after)

/-- Moves the point to the left; decimals beyond the greatest scale are rounded off, a half away
from zero. -/
def shiftLeft (x : Decimal) (exponent : Nat) : Except ReadError Decimal :=
  if x.scale + exponent ≤ maxScale then withParts x.hasMinus x.magnitude (x.scale + exponent)
  else withParts x.hasMinus (x.magnitudeAt (maxScale - exponent)) maxScale

/-- Moves the point to the right; a point that passes the last digit leaves a whole number. -/
def shiftRight (x : Decimal) (exponent : Nat) : Except ReadError Decimal :=
  if exponent ≤ x.scale then withParts x.hasMinus x.magnitude (x.scale - exponent)
  else withParts x.hasMinus (x.magnitude * Nat.pow 10 (exponent - x.scale)) 0

/-- The exponent of a number in scientific notation: whether it is negative, and its size. -/
def readExponent (cs : List Char) : Except ReadError (Bool × Nat) := do
  let (isNegative, digits) :=
    match cs with
    | '-' :: rest => (true, rest)
    | _ => (false, cs)
  match Text.unsigned? 4294967295 digits with
  | none => .error .badExponent
  | some n => if n ≤ maxScale then .ok (isNegative, n) else .error (.exponentTooLarge n)

/-- Reads a number in scientific notation, given its two parts. -/
def readScientific (base exponent : List Char) : Except ReadError Decimal := do
  let x ← readPlain base
  let (isNegative, n) ← readExponent exponent
  if isNegative then shiftLeft x n else shiftRight x n

/-- Reads a decimal in either notation. -/
def parseChars (cs : List Char) : Except ReadError Decimal :=
  match readPlain cs with
  | .ok x => .ok x
  | .error e =>
    match splitExponent cs with
    | some (base, exponent) => readScientific base exponent
    | none => .error e

/-- Reads a decimal in either notation. -/
def parse (s : String) : Except ReadError Decimal := parseChars s.toList

end Bursar.Decimal
