/-!
# UTF-8

Characters as octets. `octetsOf` writes a text; `decode?` reads octets back and
refuses broken ones, `decodeLossy` puts a replacement character for each broken
piece. A broken piece is as long as the octets that still could begin a
character, and at least one octet.
-/

namespace Bursar.Text

/-- The octet of a value below 256. -/
def octet (n : Nat) : UInt8 := UInt8.ofNat n

/-- The octets of a character. -/
def octetsOfChar (c : Char) : List UInt8 :=
  let n := c.toNat
  if n < 0x80 then [octet n]
  else if n < 0x800 then [octet (0xC0 + n / 64), octet (0x80 + n % 64)]
  else if n < 0x10000 then
    [octet (0xE0 + n / 4096), octet (0x80 + n / 64 % 64), octet (0x80 + n % 64)]
  else
    [octet (0xF0 + n / 262144), octet (0x80 + n / 4096 % 64), octet (0x80 + n / 64 % 64),
     octet (0x80 + n % 64)]

/-- The octets of a text given as characters. -/
def octetsOfChars (cs : List Char) : List UInt8 := cs.flatMap octetsOfChar

/-- The octets of a text. -/
def octetsOf (s : String) : List UInt8 := octetsOfChars s.toList

/-- Whether an octet continues a character. -/
def continues (b : UInt8) : Bool := 0x80 ≤ b.toNat && b.toNat < 0xC0

/-- How many octets the character is long that an octet begins; none if it begins no character. -/
def lengthFrom (first : UInt8) : Option Nat :=
  let n := first.toNat
  if n < 0x80 then some 1
  else if 0xC2 ≤ n ∧ n < 0xE0 then some 2
  else if 0xE0 ≤ n ∧ n < 0xF0 then some 3
  else if 0xF0 ≤ n ∧ n < 0xF5 then some 4
  else none

/-- Whether a second octet can follow a first one: it continues the character, and neither makes it
longer than needed, nor a surrogate, nor too large. -/
def follows (first second : UInt8) : Bool :=
  let n := second.toNat
  continues second &&
    match first.toNat with
    | 0xE0 => 0xA0 ≤ n
    | 0xED => n < 0xA0
    | 0xF0 => 0x90 ≤ n
    | 0xF4 => n < 0x90
    | _ => true

/-- A character with its number given in the six-bit parts of octets. -/
def charOfOctets : List UInt8 → Char
  | [a] => Char.ofNat a.toNat
  | [a, b] => Char.ofNat ((a.toNat - 0xC0) * 64 + (b.toNat - 0x80))
  | [a, b, c] =>
    Char.ofNat ((a.toNat - 0xE0) * 4096 + (b.toNat - 0x80) * 64 + (c.toNat - 0x80))
  | [a, b, c, d] =>
    Char.ofNat ((a.toNat - 0xF0) * 262144 + (b.toNat - 0x80) * 4096 + (c.toNat - 0x80) * 64 +
      (d.toNat - 0x80))
  | _ => '\ufffd'

/-- How many of the octets after the first one belong to the same character or broken piece, given
how many are wanted. -/
def reach (first : UInt8) (wanted : Nat) (rest : List UInt8) : Nat :=
  match wanted, rest with
  | 0, _ => 0
  | _, [] => 0
  | wanted + 1, second :: more =>
    if follows first second then 1 + ((more.take wanted).takeWhile continues).length else 0

/-- The first piece of octets, a character or none for a broken piece, and how long it is. -/
def firstPiece (first : UInt8) (rest : List UInt8) : Option Char × Nat :=
  match lengthFrom first with
  | none => (none, 1)
  | some length =>
    let reached := reach first (length - 1) rest
    if reached + 1 = length then (some (charOfOctets (first :: rest.take reached)), length)
    else (none, reached + 1)

/-- The pieces of octets: characters, and none for each broken piece. -/
def piecesOf : (fuel : Nat) → List UInt8 → List (Option Char)
  | 0, _ => []
  | _, [] => []
  | fuel + 1, first :: rest =>
    let (piece, length) := firstPiece first rest
    piece :: piecesOf fuel (rest.drop (length - 1))

/-- The characters that octets stand for, if no piece is broken. -/
def decodeChars? (bs : List UInt8) : Option (List Char) := (piecesOf bs.length bs).mapM id

/-- The text that octets stand for, if no piece is broken. -/
def decode? (bs : List UInt8) : Option String := (decodeChars? bs).map String.ofList

/-- The text that octets stand for, with a replacement character for each broken piece. -/
def decodeLossy (bs : List UInt8) : String :=
  String.ofList ((piecesOf bs.length bs).map fun piece => piece.getD '\ufffd')

end Bursar.Text
