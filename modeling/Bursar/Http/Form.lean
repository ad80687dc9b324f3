import Bursar.Text.Hexadecimal
import Bursar.Text.Split
import Bursar.Text.Utf8

/-!
# Percent-encoding and form encoding

An octet that cannot stand for itself is written as `%` and two hexadecimal
digits. A `%` that no two digits follow stands for itself.

A query is a list of names and values, written `name=value` with `&` in between.
A blank is written `+`; letters, digits and four signs stand for themselves, and
every other octet is percent-encoded.
-/

namespace Bursar.Http

/-- An octet as `%` and two upper-case digits. -/
def percentOctet (b : UInt8) : List Char :=
  let (high, low) := Text.octetDigits b
  ['%', Text.hexCharUpper high, Text.hexCharUpper low]

/-- A character as its octets. -/
def percentChar (c : Char) : List Char := (Text.octetsOfChar c).flatMap percentOctet

/-- The octets that percent-encoded characters stand for. -/
def percentDecode : List Char → List UInt8
  | [] => []
  | '%' :: high :: low :: rest =>
    match Text.hexValue? high, Text.hexValue? low with
    | some h, some l => Text.octetOfDigits h l :: percentDecode rest
    | _, _ => Text.octetsOfChar '%' ++ percentDecode (high :: low :: rest)
  | c :: rest => Text.octetsOfChar c ++ percentDecode rest

namespace Form

/-- Whether a character stands for itself. -/
def isPlain (c : Char) : Bool :=
  ('a' ≤ c && c ≤ 'z') || ('A' ≤ c && c ≤ 'Z') || ('0' ≤ c && c ≤ '9') ||
    c = '*' || c = '-' || c = '.' || c = '_'

/-- A character as it is written. -/
def encodeChar (c : Char) : List Char :=
  if c = ' ' then ['+'] else if isPlain c then [c] else percentChar c

/-- A name or a value as it is written. -/
def encodeText (s : String) : List Char := s.toList.flatMap encodeChar

/-- A name and its value as they are written. -/
def encodePair (pair : String × String) : List Char :=
  encodeText pair.1 ++ '=' :: encodeText pair.2

/-- A query as it is written. -/
def encode (pairs : List (String × String)) : String :=
  String.ofList (Text.joinWith ['&'] (pairs.map encodePair))

/-- The text that a written name or value stands for. -/
def decodeText (cs : List Char) : String :=
  Text.decodeLossy (percentDecode (cs.map fun c => if c = '+' then ' ' else c))

/-- The name and the value of a piece; without a sign between them the value is empty. -/
def decodePair (piece : List Char) : String × String :=
  match Text.splitFirst '=' piece with
  | some (name, value) => (decodeText name, decodeText value)
  | none => (decodeText piece, "")

/-- The names and values of a query; empty pieces are skipped. -/
def decode (query : String) : List (String × String) :=
  ((Text.splitAll '&' query.toList).filter fun piece => !piece.isEmpty).map decodePair

end Form
end Bursar.Http
