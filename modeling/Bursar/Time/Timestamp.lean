import Bursar.Text.Blank
import Bursar.Text.Numeral
import Bursar.Time.Calendar

/-!
# Instants

An instant in UTC with nanoseconds. A leap second is the second before it with
a nanosecond count of a thousand million or more, so it sorts after that second
and before the next one.

`Timestamp.toString` writes the instant with as few of 0, 3, 6 or 9 fraction
digits as show it exactly; `Timestamp.toStringSeconds` leaves the fraction out.
-/

namespace Bursar

/-- Seconds since 1970-01-01T00:00:00Z and nanoseconds after that second. -/
structure Timestamp where
  seconds : Int
  nanos : Nat
deriving DecidableEq, Repr, Inhabited

namespace Timestamp

/-- The order of time. -/
def isBefore (a b : Timestamp) : Bool :=
  a.seconds < b.seconds || (a.seconds = b.seconds && a.nanos < b.nanos)

/-- Whether `a` is not after `b`. -/
def isAtMost (a b : Timestamp) : Bool := !b.isBefore a

/-- The instant a number of days later. -/
def addDays (t : Timestamp) (days : Nat) : Timestamp :=
  { t with seconds := t.seconds + 86400 * days }

/-- A year: four digits, or a sign and at least four digits outside 0 to 9999. -/
def yearText (year : Int) : String :=
  if 0 ≤ year ∧ year ≤ 9999 then Text.ofNatPadded 4 year.toNat
  else (if year < 0 then "-" else "+") ++ Text.ofNatPadded 4 year.natAbs

/-- The date in UTC. -/
def date (t : Timestamp) : Time.Date := Time.civilOfDay (t.seconds / 86400)

/-- The second of the day in UTC. -/
def secondOfDay (t : Timestamp) : Nat := (t.seconds % 86400).toNat

/-- The date and the clock time with whole seconds, a leap second as `60`. -/
def clockText (t : Timestamp) : String :=
  let d := t.date
  let s := t.secondOfDay
  yearText d.year ++ "-" ++ Text.ofNatPadded 2 d.month ++ "-" ++ Text.ofNatPadded 2 d.day ++ "T" ++
    Text.ofNatPadded 2 (s / 3600) ++ ":" ++ Text.ofNatPadded 2 (s / 60 % 60) ++ ":" ++
    Text.ofNatPadded 2 (s % 60 + t.nanos / 1000000000)

/-- The fraction of the second, with as few groups of three digits as are exact. -/
def fractionText (nanos : Nat) : String :=
  if nanos = 0 then ""
  else if nanos % 1000000 = 0 then "." ++ Text.ofNatPadded 3 (nanos / 1000000)
  else if nanos % 1000 = 0 then "." ++ Text.ofNatPadded 6 (nanos / 1000)
  else "." ++ Text.ofNatPadded 9 nanos

/-- The written form with the exact fraction. -/
def toString (t : Timestamp) : String :=
  t.clockText ++ fractionText (t.nanos % 1000000000) ++ "Z"

/-- The written form with the exact fraction and a numeric offset. -/
def toStringOffset (t : Timestamp) : String :=
  t.clockText ++ fractionText (t.nanos % 1000000000) ++ "+00:00"

/-- The written form in whole seconds. -/
def toStringSeconds (t : Timestamp) : String := t.clockText ++ "Z"

/-! ## Reading -/

/-- At least one and at most `max` digits, as their value and the rest. -/
def takeDigits : (max : Nat) → List Char → Option (Nat × List Char)
  | max, cs =>
    let digits := (cs.take max).takeWhile fun c => (Text.digitValue? c).isSome
    (Text.natural? digits).map fun n => (n, cs.drop digits.length)

/-- A number of at most `max` digits after blanks. -/
def number (max : Nat) (cs : List Char) : Option (Nat × List Char) :=
  takeDigits max (Text.trimStart cs)

/-- A year after blanks: four digits at most, or a sign and any number of digits. -/
def signedYear (cs : List Char) : Option (Int × List Char) :=
  match Text.trimStart cs with
  | '-' :: rest => (takeDigits rest.length rest).map fun (n, tail) => (-(n : Int), tail)
  | '+' :: rest => (takeDigits rest.length rest).map fun (n, tail) => ((n : Int), tail)
  | rest => (takeDigits 4 rest).map fun (n, tail) => ((n : Int), tail)

/-- A separating character after blanks. -/
def mark (c : Char) (cs : List Char) : Option (List Char) :=
  match Text.trimStart cs with
  | d :: rest => if d = c then some rest else none
  | [] => none

/-- The fraction of a second in nanoseconds; digits after the ninth are dropped. -/
def fraction : List Char → Option (Nat × List Char)
  | '.' :: cs =>
    let digits := cs.takeWhile fun c => (Text.digitValue? c).isSome
    let kept := digits.take 9
    (Text.natural? kept).map fun n => (n * Nat.pow 10 (9 - kept.length), cs.drop digits.length)
  | cs => some (0, cs)

/-- Two digits, the first at most `top`. -/
def twoDigits (top : Nat) : List Char → Option (Nat × List Char)
  | a :: b :: rest => do
    let x ← Text.digitValue? a
    let y ← Text.digitValue? b
    if x ≤ top then some (10 * x + y, rest) else none
  | _ => none

/-- The offset from UTC in seconds, and the rest: `Z`, `UTC`, or a sign with hours and minutes. -/
def offset (cs : List Char) : Option (Int × List Char) :=
  let signed (sign : Int) (rest : List Char) : Option (Int × List Char) := do
    let (hours, rest) ← twoDigits 9 rest
    let (minutes, rest) ← twoDigits 5 (rest.dropWhile fun c => c = ':' || Text.isBlank c)
    if hours < 24 then some (sign * (hours * 3600 + minutes * 60), rest) else none
  match cs with
  | 'Z' :: rest => some (0, rest)
  | 'z' :: rest => some (0, rest)
  | '+' :: rest => signed 1 rest
  | '-' :: rest => signed (-1) rest
  | '\u2212' :: rest => signed (-1) rest
  | _ => if (cs.take 3).map Char.toUpper = ['U', 'T', 'C'] then some (0, cs.drop 3) else none

/-- The first year that there is. -/
def firstYear : Int := -262143

/-- The last year that there is. -/
def lastYear : Int := 262142

/-- Whether an instant is in one of the years that there are, in UTC. -/
def isInRange (t : Timestamp) : Bool :=
  Time.dayNumber { year := firstYear, month := 1, day := 1 } * 86400 ≤ t.seconds &&
    t.seconds < Time.dayNumber { year := lastYear + 1, month := 1, day := 1 } * 86400

/-- The instant that the fields of a date, a clock time and an offset name. The date has to be in
one of the years that there are, and so has the date in UTC. -/
def ofFields? (d : Time.Date) (hour minute second nanos : Nat) (offset : Int) : Option Timestamp :=
  if d.isValid ∧ firstYear ≤ d.year ∧ d.year ≤ lastYear ∧ hour < 24 ∧ minute < 60 ∧ second ≤ 60 then
    let leap := if second = 60 then 1 else 0
    let t : Timestamp :=
      { seconds := Time.dayNumber d * 86400 + hour * 3600 + minute * 60 + (second - leap : Nat) - offset
        nanos := nanos + leap * 1000000000 }
    if t.isInRange then some t else none
  else none

/-- Reads a date, a `T` or a blank, a clock time and an offset; blanks may stand before each number and at
the end. -/
def parseChars? (cs : List Char) : Option Timestamp := do
  let (year, cs) ← signedYear cs
  let (month, cs) ← number 2 (← mark '-' cs)
  let (day, cs) ← number 2 (← mark '-' cs)
  let cs ← match cs with
    | c :: rest => if c = 'T' ∨ c = 't' ∨ c = ' ' then some rest else none
    | [] => none
  let (hour, cs) ← number 2 cs
  let (minute, cs) ← number 2 (← mark ':' cs)
  let (second, cs) ← number 2 (← mark ':' cs)
  let (nanos, cs) ← fraction cs
  let (shift, cs) ← offset (Text.trimStart cs)
  if cs.all Text.isBlank then ofFields? { year, month, day } hour minute second nanos shift else none

/-- Reads an instant from its text. -/
def parse? (s : String) : Option Timestamp := parseChars? s.toList

end Timestamp
end Bursar
