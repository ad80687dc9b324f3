import Bursar.Http.Form
import Bursar.Text.Numeral
import Bursar.Text.Utf8
import Bursar.Url.DomainName

/-!
# Hosts

The host in a URL: an IPv6 address in brackets, an IPv4 address in one to four
numbers of base eight, ten or sixteen, or the name of a domain. Each is written in
one canonical form. A scheme that is not known has hosts that are just texts.
-/

namespace Bursar.Url

/-- Why a text is not a URL. -/
inductive ParseError where
  | emptyHost
  | invalidPort
  | invalidIpv4
  | invalidIpv6
  | invalidName
  | invalidDomainCharacter
  | noBase
deriving DecidableEq, Repr

/-- The wording of a refused URL. -/
def ParseError.message : ParseError → String
  | .emptyHost => "empty host"
  | .invalidPort => "invalid port number"
  | .invalidIpv4 => "invalid IPv4 address"
  | .invalidIpv6 => "invalid IPv6 address"
  | .invalidName => "invalid international domain name"
  | .invalidDomainCharacter => "invalid domain character"
  | .noBase => "relative URL without a base"

/-! ## IPv4 -/

/-- Digits of a base read onto a value. -/
def digitsOf? (base value : Nat) : List Char → Option Nat
  | [] => some value
  | c :: cs =>
    (Text.hexValue? c).bind fun d =>
      if d.val < base then digitsOf? base (value * base + d.val) cs else none

/-- The number in one part of an address: `0x` leads base sixteen, another `0` base eight. -/
def ipv4Number? : List Char → Option Nat
  | [] => none
  | ['0'] => some 0
  | '0' :: 'x' :: cs => digitsOf? 16 0 cs
  | '0' :: 'X' :: cs => digitsOf? 16 0 cs
  | '0' :: cs => digitsOf? 8 0 cs
  | cs => digitsOf? 10 0 cs

/-- The parts of a name between dots, without an empty last one. -/
def hostParts (cs : List Char) : List (List Char) :=
  let parts := Text.splitAll '.' cs
  if parts.getLast? = some [] ∧ 1 < parts.length then parts.dropLast else parts

/-- Whether the last part of a name makes it an address. -/
def endsInNumber (cs : List Char) : Bool :=
  match (hostParts cs).getLast? with
  | none => false
  | some last =>
    !last.isEmpty &&
      ((last.all fun c => (Text.digitValue? c).isSome) ||
        match last with
        | '0' :: x :: digits => (x = 'x' || x = 'X') && digits.all Text.isHex
        | _ => false)

/-- The address that numbers make up: every one but the last fills one octet. -/
def ipv4OfNumbers : List Nat → Option Nat
  | [] => none
  | [last] => if last < 4294967296 then some last else none
  | numbers =>
    let count := numbers.length
    let leading := numbers.dropLast
    let last := numbers.getLastD 0
    if 4 < count ∨ leading.any (255 < ·) ∨ Nat.pow 256 (5 - count) ≤ last then none
    else some ((leading.zip [3, 2, 1]).foldr (fun (n, place) sum => n * Nat.pow 256 place + sum) last)

/-- An address in four numbers with dots. -/
def ipv4Text (n : Nat) : String :=
  ".".intercalate ([16777216, 65536, 256, 1].map fun unit => Text.ofNat (n / unit % 256))

/-- Reads an IPv4 address. -/
def ipv4? (cs : List Char) : Option Nat := ((hostParts cs).mapM ipv4Number?).bind ipv4OfNumbers

/-! ## IPv6 -/

/-- A group of up to four hexadecimal digits. -/
def group? (cs : List Char) : Option Nat :=
  if cs.isEmpty ∨ 4 < cs.length then none else digitsOf? 16 0 cs

/-- An octet in decimal digits without a leading zero. -/
def dottedOctet? (cs : List Char) : Option Nat :=
  if cs.isEmpty ∨ 3 < cs.length ∨ (cs.head? = some '0' ∧ 1 < cs.length) then none
  else (digitsOf? 10 0 cs).bind (Text.atMost 255)

/-- The two groups that an IPv4 address in dots fills. -/
def dottedGroups? (cs : List Char) : Option (List Nat) :=
  match (Text.splitAll '.' cs).mapM dottedOctet? with
  | some [a, b, c, d] => some [a * 256 + b, c * 256 + d]
  | _ => none

/-- The groups between colons; the last one may be an IPv4 address in dots. -/
def groups? : List (List Char) → Option (List Nat)
  | [] => some []
  | [last] => if last.contains '.' then dottedGroups? last else (group? last).map fun g => [g]
  | cs :: rest => do
    let g ← group? cs
    let gs ← groups? rest
    return g :: gs

/-- The groups of one side of a gap, which may be empty. -/
def side? (cs : List Char) : Option (List Nat) :=
  if cs.isEmpty then some [] else groups? (Text.splitAll ':' cs)

/-- The texts on the two sides of the first `::`. -/
def splitGap : List Char → Option (List Char × List Char)
  | ':' :: ':' :: rest => some ([], rest)
  | c :: rest => (splitGap rest).map fun (before, after) => (c :: before, after)
  | [] => none

/-- Reads an IPv6 address as its eight groups. A gap stands for at least one group of zero. -/
def ipv6? (cs : List Char) : Option (List Nat) :=
  match splitGap cs with
  | none => (groups? (Text.splitAll ':' cs)).bind fun gs => if gs.length = 8 then some gs else none
  | some (before, after) =>
    if before.contains '.' then none
    else do
      let left ← side? before
      let right ← side? after
      let missing := 8 - (left.length + right.length)
      if left.length + right.length < 8 then
        some (left ++ List.replicate missing 0 ++ right)
      else none

/-- The hexadecimal digits of a group. -/
def groupChars (n : Nat) : List Char := (Nat.toDigits 16 n).map Char.toLower

/-- How many zeros stand at the front. -/
def zerosAhead (gs : List Nat) : Nat := (gs.takeWhile (· = 0)).length

/-- The first of the longest runs of at least two zeros, as its place and length. -/
def longestGap (gs : List Nat) : Option (Nat × Nat) :=
  (List.range gs.length).foldl
    (fun best place =>
      let run := zerosAhead (gs.drop place)
      match best with
      | some (_, length) => if length < run then some (place, run) else best
      | none => if 2 ≤ run then some (place, run) else none)
    none

/-- An address in brackets, with a gap for the longest run of zeros. -/
def ipv6Text (gs : List Nat) : String :=
  let joined (gs : List Nat) : List Char := Text.joinWith [':'] (gs.map groupChars)
  let inner :=
    match longestGap gs with
    | none => joined gs
    | some (place, length) => joined (gs.take place) ++ [':', ':'] ++ joined (gs.drop (place + length))
  String.ofList ('[' :: inner ++ [']'])

/-! ## Hosts -/

/-- Reads the host of a URL whose scheme has hosts with names. -/
def readHost (cs : List Char) : Except ParseError String :=
  match cs with
  | [] => .error .emptyHost
  | '[' :: rest =>
    if rest.getLast? = some ']' then
      match ipv6? rest.dropLast with
      | some gs => .ok (ipv6Text gs)
      | none => .error .invalidIpv6
    else .error .invalidIpv6
  | cs =>
    match Text.decodeChars? (Http.percentDecode cs) with
    | none => .error .invalidName
    | some decoded =>
      match DomainName.toAscii? decoded with
      | none => .error .invalidName
      | some name =>
        if name.isEmpty then .error .emptyHost
        else if endsInNumber name then
          match ipv4? name with
          | some n => .ok (ipv4Text n)
          | none => .error .invalidIpv4
        else .ok (String.ofList name)

/-- Reads the host of any other URL, which may be empty. -/
def readOpaqueHost (cs : List Char) : Except ParseError String :=
  match cs with
  | '[' :: rest =>
    if rest.getLast? = some ']' then
      match ipv6? rest.dropLast with
      | some gs => .ok (ipv6Text gs)
      | none => .error .invalidIpv6
    else .error .invalidIpv6
  | cs =>
    if cs.any fun c => forbiddenInHost.contains c then .error .invalidDomainCharacter
    else
      .ok (String.ofList (cs.flatMap fun c =>
        if c.toNat ≤ 0x1F ∨ 0x7E < c.toNat then Http.percentChar c else [c]))

end Bursar.Url
