import Bursar.Unicode.CombiningClass
import Bursar.Unicode.Decomposition
import Bursar.Unicode.Ranges

/-!
# Normal form

A text has many spellings that look alike: a letter with an accent is one
character, or two. `normalize` picks one of them. Every character is taken apart as
far as it goes (`decompose`), marks that may stand in any order are put in the
order of their classes (`orderMarks`), and what can be put together again is
(`composeFrom`), a mark only if no mark of its class stands in its way.
-/

namespace Bursar.Unicode

/-! ## Hangul -/

/-- The first syllable. -/
def syllableBase : Nat := 0xAC00

/-- The first leading consonant. -/
def leadBase : Nat := 0x1100

/-- The first vowel. -/
def vowelBase : Nat := 0x1161

/-- What a trailing consonant is counted from: the place before the first one. -/
def trailBase : Nat := 0x11A7

/-- How many leading consonants there are. -/
def leadCount : Nat := 19

/-- How many vowels there are. -/
def vowelCount : Nat := 21

/-- How many endings a syllable may have, none among them. -/
def trailCount : Nat := 28

/-- Whether a character is a syllable. -/
def isSyllable (n : Nat) : Bool :=
  syllableBase ≤ n && n < syllableBase + leadCount * vowelCount * trailCount

/-- The letters of a syllable. -/
def syllableLetters (n : Nat) : List Nat :=
  let place := n - syllableBase
  let lead := leadBase + place / (vowelCount * trailCount)
  let vowel := vowelBase + place / trailCount % vowelCount
  let trail := place % trailCount
  if trail = 0 then [lead, vowel] else [lead, vowel, trailBase + trail]

/-- The syllable of two letters, or of a syllable and a trailing consonant. -/
def joinLetters? (a b : Nat) : Option Nat :=
  if leadBase ≤ a ∧ a < leadBase + leadCount ∧ vowelBase ≤ b ∧ b < vowelBase + vowelCount then
    some (syllableBase + ((a - leadBase) * vowelCount + (b - vowelBase)) * trailCount)
  else if isSyllable a ∧ (a - syllableBase) % trailCount = 0 ∧
      trailBase < b ∧ b < trailBase + trailCount then
    some (a + (b - trailBase))
  else none

/-! ## Taking apart -/

/-- What a character stands for, one step; none if it stands for itself. -/
def expand? (n : Nat) : Option (List Nat) :=
  if n < 0xC0 then none
  else
    match composites.lookup n with
    | some (a, b) => some [a, b]
    | none =>
      match imageIn? doubles n with
      | some m => some [m]
      | none => brokenUp.lookup n

/-- How many steps a character is taken apart in at most. -/
def decompositionDepth : Nat := 4

/-- The characters that one is made of, in so many steps. -/
def decomposeIn : Nat → Nat → List Nat
  | 0, n => [n]
  | depth + 1, n =>
    match expand? n with
    | some parts => parts.flatMap (decomposeIn depth)
    | none => [n]

/-- The characters that one is made of. -/
def decompose (n : Nat) : List Nat :=
  if isSyllable n then syllableLetters n else decomposeIn decompositionDepth n

/-! ## Ordering -/

/-- A character put behind those of a text in reverse order: a mark goes before the marks of higher
classes. -/
def insertMark (n : Nat) : List Nat → List Nat
  | [] => [n]
  | last :: before =>
    if combiningClass n ≠ 0 ∧ combiningClass n < combiningClass last then last :: insertMark n before
    else n :: last :: before

/-- A text with its marks in the order of their classes. -/
def orderMarks (text : List Nat) : List Nat :=
  (text.foldl (fun before n => insertMark n before) []).reverse

/-! ## Putting together -/

/-- The character that two make up. -/
def compose? (a b : Nat) : Option Nat :=
  match joinLetters? a b with
  | some syllable => some syllable
  | none => (composites.find? fun (_, x, y) => x = a && y = b).map fun (whole, _, _) => whole

/-- Whether the marks that are kept behind a character, in reverse order, leave a way from it to the
next one. -/
def leavesWay (kept : List Nat) (n : Nat) : Bool :=
  match kept with
  | [] => true
  | last :: _ => combiningClass last < combiningClass n

/-- A text from a character on that stands for itself, with the marks behind it that were not put
together with it, in reverse order. -/
def composeFrom (start : Nat) (kept : List Nat) : List Nat → List Nat
  | [] => start :: kept.reverse
  | n :: rest =>
    match if leavesWay kept n then compose? start n else none with
    | some whole => composeFrom whole kept rest
    | none =>
      if combiningClass n = 0 then start :: kept.reverse ++ composeFrom n [] rest
      else composeFrom start (n :: kept) rest

/-- A text with everything put together that can be. Marks at its front have nothing to go with. -/
def compose : List Nat → List Nat
  | [] => []
  | n :: rest => if combiningClass n = 0 then composeFrom n [] rest else n :: compose rest

/-- The normal form of a text. -/
def normalize (text : List Nat) : List Nat := compose (orderMarks (text.flatMap decompose))

/-- Whether a text is its own normal form. -/
def isNormalized (text : List Nat) : Bool := normalize text = text

end Bursar.Unicode
