import Bursar.Text.Split

/-!
# Punycode

A label with any characters, written with letters, digits and hyphens of ASCII. The
characters of ASCII come first, before a hyphen. What follows says how the others are
put in, in rising order of their code points and, among equal ones, from left to
right: each number counts the steps from the last insertion, over all places of a
code point and then all code points. The digits of a number start with the lowest, and
a digit below its threshold ends it; thresholds follow the numbers seen so far
(`adapt`), so that common differences are short.
-/

namespace Bursar.Url.Punycode

/-- How many digits there are. -/
def base : Nat := 36

/-- The threshold of a digit at a place, counted in steps of the base from 36 on. -/
def threshold (place bias : Nat) : Nat := min 26 (max 1 (place - bias))

theorem threshold_pos (place bias : Nat) : 1 ≤ threshold place bias := by
  unfold threshold; omega

/-- The bias for a difference that was divided `rounds` times already. -/
def biasOf (difference rounds : Nat) : Nat :=
  if h : 455 < difference then biasOf (difference / 35) (rounds + 1)
  else base * rounds + base * difference / (difference + 38)
termination_by difference
decreasing_by exact Nat.div_lt_self (by omega) (by omega)

/-- The bias after a difference, with so many characters in the text. -/
def adapt (difference count : Nat) (isFirst : Bool) : Nat :=
  let scaled := if isFirst then difference / 700 else difference / 2
  biasOf (scaled + scaled / count) 0

/-- The bias before the first difference. -/
def firstBias : Nat := 72

/-- The first code point that is not ASCII. -/
def firstCode : Nat := 0x80

/-! ## Writing -/

/-- A digit: letters first. -/
def digit (n : Nat) : Char := if n < 26 then Char.ofNat (97 + n) else Char.ofNat (22 + n)

/-- The digits of a number, the lowest first. -/
def writeNumber (bias place n : Nat) : List Char :=
  let t := threshold place bias
  if n < t then [digit n]
  else digit (t + (n - t) % (base - t)) :: writeNumber bias (place + base) ((n - t) / (base - t))
termination_by n
decreasing_by
  have := threshold_pos place bias
  exact Nat.lt_of_le_of_lt (Nat.div_le_self _ _) (by omega)

/-- How far the writing of a label has come. -/
structure Writing where
  /-- Steps since the last insertion. -/
  difference : Nat
  bias : Nat
  /-- How many characters the text has. -/
  count : Nat
  written : List Char

/-- One character of the label on the way over the places of a code point. -/
def Writing.pass (ascii code : Nat) (w : Writing) (n : Nat) : Writing :=
  if n < code then { w with difference := w.difference + 1 }
  else if n = code then
    { difference := 0
      bias := adapt w.difference (w.count + 1) (w.count = ascii)
      count := w.count + 1
      written := w.written ++ writeNumber w.bias base w.difference }
  else w

/-- The insertions of some code points in rising order; all below `next` are in. -/
def writeInsertions (label : List Nat) (ascii : Nat) : List Nat → Nat → Writing → Writing
  | [], _, w => w
  | code :: codes, next, w =>
    let reached := { w with difference := w.difference + (code - next) * (w.count + 1) }
    let passed := label.foldl (Writing.pass ascii code) reached
    writeInsertions label ascii codes (code + 1) { passed with difference := passed.difference + 1 }

/-- A number put into a list of numbers in rising order, once. -/
def insertOnce (n : Nat) : List Nat → List Nat
  | [] => [n]
  | m :: ms => if n < m then n :: m :: ms else if n = m then m :: ms else m :: insertOnce n ms

/-- A label in code points, as it is written. -/
def encode (label : List Nat) : List Char :=
  let ascii := label.filter (· < firstCode)
  let others := (label.filter (firstCode ≤ ·)).foldr insertOnce []
  let done := writeInsertions label ascii.length others firstCode ⟨0, firstBias, ascii.length, []⟩
  ascii.map Char.ofNat ++ (if ascii.isEmpty then [] else ['-']) ++ done.written

/-! ## Reading -/

/-- The largest number that is read. -/
def largest : Nat := 4294967295

/-- The value of a digit, in letters of either case. -/
def digitValue? (c : Char) : Option Nat :=
  if 'a' ≤ c ∧ c ≤ 'z' then some (c.toNat - 97)
  else if 'A' ≤ c ∧ c ≤ 'Z' then some (c.toNat - 65)
  else if '0' ≤ c ∧ c ≤ '9' then some (c.toNat - 22)
  else none

/-- Reads a number onto `total`, given the place and the weight of its next digit, and what follows it. -/
def readNumber? (bias place weight total : Nat) : List Char → Option (Nat × List Char)
  | [] => none
  | c :: rest =>
    match digitValue? c with
    | none => none
    | some d =>
      let t := threshold place bias
      let reached := total + d * weight
      if largest < reached then none
      else if d < t then some (reached, rest)
      else if largest < weight * (base - t) then none
      else readNumber? bias (place + base) (weight * (base - t)) reached rest

theorem readNumber?_shorter {bias place weight total n : Nat} {cs rest : List Char}
    (h : readNumber? bias place weight total cs = some (n, rest)) : rest.length < cs.length := by
  induction cs generalizing place weight total with
  | nil => simp [readNumber?] at h
  | cons c cs ih =>
    simp only [readNumber?] at h
    split at h
    · simp at h
    · split at h
      · simp at h
      · split at h
        · simp only [Option.some.injEq, Prod.mk.injEq] at h
          simp [← h.2]
        · split at h
          · simp at h
          · have := ih h
            simp only [List.length_cons]
            omega

/-- Whether a number is the code point of a character. -/
def isCharacter (n : Nat) : Bool := n < 0xD800 || (0xDFFF < n && n < 0x110000)

/-- Carries out the insertions into a text, given the steps counted so far and the code point they
have led to. -/
def readInsertions? (text : List Nat) (bias steps code : Nat) (cs : List Char) : Option (List Nat) :=
  if cs.isEmpty then some text
  else
    match _h : readNumber? bias base 1 steps cs with
    | none => none
    | some (reached, rest) =>
      let count := text.length + 1
      let code := code + reached / count
      let place := reached % count
      if isCharacter code then
        readInsertions? (text.take place ++ code :: text.drop place)
          (adapt (reached - steps) count (steps = 0)) (place + 1) code rest
      else none
termination_by cs.length
decreasing_by exact readNumber?_shorter _h

/-- Reads a written label as code points. -/
def decode? (cs : List Char) : Option (List Nat) :=
  let (ascii, insertions) :=
    match Text.splitFirst '-' cs.reverse with
    | some (after, []) => ([], '-' :: after.reverse)
    | some (after, before) => (before.reverse, after.reverse)
    | none => ([], cs)
  if ascii.any (firstCode ≤ ·.toNat) then none
  else readInsertions? (ascii.map Char.toNat) firstBias 0 firstCode insertions

end Bursar.Url.Punycode
