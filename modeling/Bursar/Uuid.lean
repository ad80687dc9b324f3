import Bursar.Text.Hexadecimal
import Bursar.Text.Split

/-!
# Universally unique identifiers

A UUID is its 32 hexadecimal digits. It is written in lower case in groups of
8, 4, 4, 4 and 12 digits joined by hyphens (`Uuid.toString`). Four spellings are
read (`Uuid.parse?`): the bare digits, the hyphenated groups, and the
hyphenated groups in braces or after `urn:uuid:`, in any letter case.
-/

namespace Bursar

/-- Thirty-two hexadecimal digits. -/
structure Uuid where
  digits : List (Fin 16)
  length_digits : digits.length = 32
deriving DecidableEq

namespace Uuid

/-- The identifier with the given digits, if there are 32 of them. -/
def ofDigits? (ds : List (Fin 16)) : Option Uuid :=
  if h : ds.length = 32 then some ⟨ds, h⟩ else none

/-- The identifier of zeros only. -/
def nil : Uuid := ⟨List.replicate 32 (Text.lastHex 0), by simp⟩

instance : Inhabited Uuid := ⟨nil⟩

/-- The sixteen octets that pairs of digits make up. -/
def octetsOf : List (Fin 16) → List UInt8
  | high :: low :: ds => Text.octetOfDigits high low :: octetsOf ds
  | _ => []

/-- The identifier as sixteen octets. -/
def octets (u : Uuid) : List UInt8 := octetsOf u.digits

/-- The lower-case digits, without hyphens. -/
def simpleChars (u : Uuid) : List Char := u.digits.map Text.hexChar

/-- Cuts 32 characters into the five hyphenated groups. -/
def hyphenate (cs : List Char) : List Char :=
  cs.take 8 ++ '-' :: (cs.drop 8).take 4 ++ '-' :: (cs.drop 12).take 4 ++
    '-' :: (cs.drop 16).take 4 ++ '-' :: cs.drop 20

/-- The written form, as characters. -/
def toChars (u : Uuid) : List Char := hyphenate u.simpleChars

/-- The written form: lower case, hyphenated. -/
def toString (u : Uuid) : String := String.ofList u.toChars

instance : ToString Uuid := ⟨Uuid.toString⟩

/-- Reads exactly 32 digits. -/
def parseSimple? (cs : List Char) : Option Uuid :=
  (cs.mapM Text.hexValue?).bind ofDigits?

/-- Reads the five groups with hyphens at positions 8, 13, 18 and 23. -/
def parseHyphenated? (cs : List Char) : Option Uuid :=
  if cs.length = 36 ∧ cs[8]? = some '-' ∧ cs[13]? = some '-' ∧ cs[18]? = some '-' ∧
      cs[23]? = some '-' then
    parseSimple? (cs.take 8 ++ (cs.drop 9).take 4 ++ (cs.drop 14).take 4 ++
      (cs.drop 19).take 4 ++ cs.drop 24)
  else none

/-- The words in front of a hyphenated identifier in its name as a resource. -/
def urnLead : List Char := "urn:uuid:".toList

/-- Reads an identifier in any of its four spellings. -/
def parseChars? (cs : List Char) : Option Uuid :=
  if cs.length = 32 then parseSimple? cs
  else if cs.length = 36 then parseHyphenated? cs
  else if cs.length = 38 then
    if cs.head? = some '\x7b' ∧ cs.getLast? = some '\x7d' then
      parseHyphenated? (cs.drop 1).dropLast
    else none
  else if cs.length = 45 ∧ (cs.take 9).map Char.toLower = urnLead then parseHyphenated? (cs.drop 9)
  else none

/-- Reads an identifier in any of its four spellings. -/
def parse? (s : String) : Option Uuid := parseChars? s.toList

end Uuid
end Bursar
