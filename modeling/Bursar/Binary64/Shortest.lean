import Bursar.Text.Numeral

/-!
# Shortest decimals of binary floating point numbers

A finite double is `significand * 2 ^ exponent`. Of all decimals that round to
it, `shortest` finds one with the fewest digits, and of those the nearest; a `Tie`
says which of two equally near ones.

Two written forms are built on it: `plainText` never uses an exponent and takes the
greater of two equally near decimals, `Layout.text` switches to scientific notation
outside a range of exponents and takes the one with the even last digit.
-/

namespace Bursar.Binary64

/-- A finite double: `significand * 2 ^ exponent`, negated if `isNegative`. -/
structure Parts where
  isNegative : Bool
  significand : Nat
  exponent : Int
deriving DecidableEq, Repr

/-- The parts of a double; `none` for infinities and the undefined value. -/
def parts? (x : Float) : Option Parts :=
  let bits : Nat := x.toBits.toNat
  let isNegative : Bool := decide (Nat.pow 2 63 ≤ bits)
  let biased : Nat := bits / Nat.pow 2 52 % 2048
  let stored : Nat := bits % Nat.pow 2 52
  if biased = 2047 then none
  else if biased = 0 then some ⟨isNegative, stored, -1074⟩
  else some ⟨isNegative, stored + Nat.pow 2 52, (biased : Int) - 1075⟩

/-- The decimal `digits * 10 ^ exponent`. -/
structure Digits where
  digits : Nat
  exponent : Int
deriving DecidableEq, Repr

/-- An exact positive fraction. -/
structure Fraction where
  numerator : Nat
  denominator : Nat
deriving DecidableEq, Repr

/-- The fraction `n * 2 ^ e`. -/
def Fraction.scaled (n : Nat) (e : Int) : Fraction :=
  if 0 ≤ e then ⟨n * Nat.pow 2 e.toNat, 1⟩ else ⟨n, Nat.pow 2 (-e).toNat⟩

/-- The fraction `n * 10 ^ e`. -/
def Fraction.decimal (n : Nat) (e : Int) : Fraction :=
  if 0 ≤ e then ⟨n * Nat.pow 10 e.toNat, 1⟩ else ⟨n, Nat.pow 10 (-e).toNat⟩

/-- Comparison by cross multiplication. -/
def Fraction.le (x y : Fraction) : Bool :=
  x.numerator * y.denominator ≤ y.numerator * x.denominator

/-- Strict comparison by cross multiplication. -/
def Fraction.lt (x y : Fraction) : Bool := !y.le x

/-- The reals between the midpoints to the two neighbours of a positive double. -/
structure Interval where
  low : Fraction
  value : Fraction
  high : Fraction
  closed : Bool
deriving DecidableEq, Repr

/-- The reals that round to a positive double; the ends belong to it if its significand is even. -/
def Interval.of (m : Nat) (e : Int) : Interval :=
  let below := if m = Nat.pow 2 52 ∧ e ≠ -1074 then 4 * m - 1 else 4 * m - 2
  { low := .scaled below (e - 2), value := .scaled (4 * m) (e - 2), high := .scaled (4 * m + 2) (e - 2)
    closed := m % 2 = 0 }

/-- Whether a fraction rounds to the double. -/
def Interval.has (i : Interval) (x : Fraction) : Bool :=
  if i.closed then i.low.le x && x.le i.high else i.low.lt x && x.lt i.high

/-- The number of decimal digits before the point (at least one). -/
def wholeDigits (n : Nat) : Nat := (Text.digitsOnto n []).length

/-- An exponent with `10 ^ (e - 1) ≤ x < 10 ^ e`, found from below. -/
def magnitudeFrom (x : Fraction) : (tries : Nat) → (e : Int) → Int
  | 0, e => e
  | tries + 1, e => if (Fraction.decimal 1 e).le x then magnitudeFrom x tries (e + 1) else e

/-- The exponent `e` with `10 ^ (e - 1) ≤ x < 10 ^ e`. -/
def magnitude (x : Fraction) : Int :=
  magnitudeFrom x 1 ((wholeDigits x.numerator : Int) - wholeDigits x.denominator)

/-- The multiple of `10 ^ e` just below a fraction, in units of `10 ^ e`. -/
def unitsBelow (x : Fraction) (e : Int) : Nat :=
  if 0 ≤ e then x.numerator / (x.denominator * Nat.pow 10 e.toNat)
  else x.numerator * Nat.pow 10 (-e).toNat / x.denominator

/-- Which of two neighbouring decimals is taken that are equally near. -/
inductive Tie where
  /-- The one with the even last digit. -/
  | even
  /-- The greater one. -/
  | up
deriving DecidableEq, Repr

/-- Whether the lower one of two equally near decimals is taken, given its digits. -/
def Tie.takesLower (tie : Tie) (k : Nat) : Bool :=
  match tie with
  | .even => k % 2 = 0
  | .up => false

/-- Whether `k * 10 ^ e` is taken for a fraction, and not `(k + 1) * 10 ^ e`. -/
def lowerIsNearer (tie : Tie) (x : Fraction) (k : Nat) (e : Int) : Bool :=
  let middle := Fraction.decimal (10 * k + 5) (e - 1)
  x.lt middle || (x.le middle && tie.takesLower k)

/-- The decimal with `count` digits or fewer that rounds to the double, if there is one. -/
def candidate (tie : Tie) (i : Interval) (top : Int) (count : Nat) : Option Digits :=
  let e := top - count
  let k := unitsBelow i.value e
  let hasLow := i.has (.decimal k e)
  let hasHigh := i.has (.decimal (k + 1) e)
  if hasLow && (!hasHigh || lowerIsNearer tie i.value k e) then some ⟨k, e⟩
  else if hasHigh then some ⟨k + 1, e⟩
  else none

/-- The first candidate from `count` digits on. -/
def search (tie : Tie) (i : Interval) (top : Int) : (tries count : Nat) → Digits
  | 0, count => ⟨unitsBelow i.value (top - count), top - count⟩
  | tries + 1, count =>
    match candidate tie i top count with
    | some d => d
    | none => search tie i top tries (count + 1)

/-- A shortest decimal that rounds to the positive double `m * 2 ^ e`. -/
def shortest (tie : Tie) (m : Nat) (e : Int) : Digits :=
  let i := Interval.of m e
  search tie i (magnitude i.value) 17 1

/-- Drops trailing zeros, at most `tries` of them. -/
def dropZeros : (tries : Nat) → Digits → Digits
  | 0, d => d
  | tries + 1, d =>
    if d.digits % 10 = 0 ∧ d.digits ≠ 0 then dropZeros tries ⟨d.digits / 10, d.exponent + 1⟩ else d

/-- The digits and the exponent of the leading one: the number is `d.ddd * 10 ^ exponent`. -/
def leading (tie : Tie) (m : Nat) (e : Int) : String × Int :=
  let d := dropZeros 20 (shortest tie m e)
  let text := Text.ofNat d.digits
  (text, d.exponent + text.length - 1)

/-- Digits in positional notation, the first one standing for `10 ^ exponent`; without a point if whole. -/
def positional (digits : String) (exponent : Int) : String :=
  let zeros (n : Nat) := String.ofList (List.replicate n '0')
  if exponent < 0 then "0." ++ zeros ((-exponent).toNat - 1) ++ digits
  else
    let whole := exponent.toNat + 1
    if digits.length ≤ whole then digits ++ zeros (whole - digits.length)
    else String.ofList (digits.toList.take whole) ++ "." ++ String.ofList (digits.toList.drop whole)

/-- Where positional notation ends. -/
structure Layout where
  leastPositional : Int
  mostPositional : Int

/-- A finite double in positional notation without an exponent; a whole number has no point. -/
def plainText (x : Float) : String :=
  match parts? x with
  | none => if x != x then "NaN" else if x < 0 then "-inf" else "inf"
  | some p =>
    let sign := if p.isNegative then "-" else ""
    if p.significand = 0 then sign ++ "0"
    else
      let (digits, exponent) := leading .up p.significand p.exponent
      sign ++ positional digits exponent

/-- Digits in scientific notation with a signed exponent. -/
def scientific (digits : String) (exponent : Int) : String :=
  let fraction := String.ofList (digits.toList.drop 1)
  String.ofList (digits.toList.take 1) ++ (if fraction.isEmpty then "" else "." ++ fraction) ++ "e" ++
    (if exponent < 0 then "-" else "+") ++ Text.ofNat exponent.natAbs

/-- A finite double with at least one decimal inside the layout's range, in scientific notation outside. -/
def Layout.text (layout : Layout) (x : Float) : Option String :=
  (parts? x).map fun p =>
    let sign := if p.isNegative then "-" else ""
    if p.significand = 0 then sign ++ "0.0"
    else
      let (digits, exponent) := leading .even p.significand p.exponent
      if layout.leastPositional ≤ exponent ∧ exponent ≤ layout.mostPositional then
        let text := positional digits exponent
        sign ++ (if (exponent : Int) + 1 ≥ digits.length then text ++ ".0" else text)
      else sign ++ scientific digits exponent

end Bursar.Binary64
