import Bursar.Unicode.Direction
import Bursar.Unicode.Joining
import Bursar.Unicode.NameMapping
import Bursar.Unicode.Normalization
import Bursar.Unicode.Ranges
import Bursar.Url.Punycode

/-!
# Names of domains

A name is made of labels between dots. People read and type labels with the
characters of any script; on the wire a label is ASCII, and one that is not is
written in Punycode after `xn--`. `toAscii?` gives the name as it is written. Two
spellings of one name become the same text: case, forms for display and normal
forms do not count. A label that could be mistaken for another one, or could not be
shown as it is meant, has no written form, and neither has a name with such a label.
-/

namespace Bursar.Url

/-- The characters that no host may hold, the percent sign and controls not counted. -/
def forbiddenInHost : List Char :=
  ['\x00', '\t', '\n', '\r', ' ', '#', '/', ':', '<', '>', '?', '@', '[', '\x5c', ']', '^', '|']

/-- Whether a name may not hold a character. -/
def isForbiddenInName (c : Char) : Bool :=
  forbiddenInHost.contains c || c.toNat ≤ 0x1F || c = '%' || c = '\x7f'

namespace DomainName

/-- A label. -/
structure Label where
  /-- Its characters, as it is shown. -/
  shown : List Nat
  /-- Its ASCII form. -/
  written : List Char
deriving DecidableEq, Repr

/-- Whether a text is ASCII. -/
def isAscii (cs : List Char) : Bool := cs.all fun c => c.toNat < 0x80

/-- What a written label in Punycode starts with. -/
def encodedMark : List Char := ['x', 'n', '-', '-']

/-- How long Punycode may be to be read. -/
def longestEncoded : Nat := 2000

/-- How many characters a label may have that is not ASCII. -/
def longestShown : Nat := 1000

/-- Whether a label does not start with a mark, has joiners only where they are seen, and is not too
long. -/
def isWellFormed (cs : List Char) : Bool :=
  let codes := cs.map Char.toNat
  !codes.head?.any Unicode.isMark && Unicode.joinersFit codes && (isAscii cs || cs.length ≤ longestShown)

/-- A label of ASCII that is shown as it is. -/
def plainLabel? (cs : List Char) : Option Label :=
  if cs.any isForbiddenInName then none else some ⟨cs.map Char.toNat, cs⟩

/-- Whether a decoded label is one that would be encoded: mapping and normalizing leave it alone,
and it is not itself Punycode. -/
def isStable (codes : List Nat) : Bool :=
  codes.all Unicode.staysInName && Unicode.isNormalized codes &&
    !encodedMark.isPrefixOf (codes.map Char.ofNat)

/-- A label that is written in Punycode, in small letters. -/
def encodedLabel? (cs : List Char) : Option Label := do
  let rest := cs.drop encodedMark.length
  if !isAscii rest ∨ rest.isEmpty ∨ rest.getLast? = some '-' ∨ longestEncoded < rest.length then none
  let codes ← Punycode.decode? rest
  let shown := codes.map Char.ofNat
  if isStable codes ∧ !shown.any isForbiddenInName ∧ isWellFormed shown then some ⟨codes, cs⟩ else none

/-- A label in small letters and normal form. -/
def label? (cs : List Char) : Option Label :=
  if encodedMark.isPrefixOf cs then encodedLabel? cs
  else if isAscii cs then plainLabel? cs
  else if !cs.any isForbiddenInName ∧ isWellFormed cs then
    some ⟨cs.map Char.toNat, encodedMark ++ Punycode.encode (cs.map Char.toNat)⟩
  else none

/-- What stands between two dots, mapped and in normal form; some characters stand for dots themselves. -/
def canonical? (cs : List Char) : Option (List Char) :=
  if isAscii cs then some (cs.map Char.toLower)
  else
    (cs.mapM fun c => Unicode.nameImage? c.toNat).map fun images =>
      (Unicode.normalize images.flatten).map Char.ofNat

/-- The labels of a name. -/
def labels? (cs : List Char) : Option (List Label) := do
  let pieces ← (Text.splitAll '.' cs).mapM canonical?
  (pieces.flatMap (Text.splitAll '.')).mapM label?

/-- Whether labels can be shown one after the other without doubt about their order. -/
def fitTogether (labels : List Label) : Bool :=
  !labels.any (fun label => Unicode.hasRightToLeft label.shown) ||
    labels.all fun label => Unicode.fitsDirection label.shown

/-- A name in ASCII. -/
def toAscii? (cs : List Char) : Option (List Char) := do
  let labels ← labels? cs
  if fitTogether labels then some (Text.joinWith ['.'] (labels.map Label.written)) else none

end DomainName
end Bursar.Url
