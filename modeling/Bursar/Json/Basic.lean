import Bursar.Binary64.Shortest
import Bursar.Text.Hexadecimal

/-!
# JSON values

A number is an integer of 64 bits or a double. The members of an object keep an
order; objects that were read from text have their keys sorted and distinct
(`Json.putMember`), objects that are written out list their members as declared.

`Json.compact` writes without blanks, `Json.pretty` with one member a line and
two blanks of indentation a level.
-/

namespace Bursar

/-- A JSON number. -/
inductive Number where
  | int (n : Int)
  | float (x : Float)
deriving DecidableEq, Repr

/-- A JSON value. -/
inductive Json where
  | null
  | bool (b : Bool)
  | number (n : Number)
  | string (s : String)
  | array (items : List Json)
  | object (members : List (String × Json))
deriving BEq, Repr, Inhabited

namespace Json

/-- Whether a value is `null`. -/
def isNull : Json → Bool
  | .null => true
  | _ => false

/-- Doubles have at least one decimal; exponents from -5 to 15 are written positionally. -/
def floatLayout : Binary64.Layout := { leastPositional := -5, mostPositional := 15 }

/-- The text of a number; a double that is not finite becomes `null`. -/
def numberText : Number → String
  | .int n => Text.ofInt n
  | .float x => (floatLayout.text x).getD "null"

/-- A character inside quotes: the two-letter escapes, `\u00` and two digits for other controls,
itself otherwise. -/
def escape (c : Char) : List Char :=
  if c = '\x22' then ['\x5c', '\x22']
  else if c = '\x5c' then ['\x5c', '\x5c']
  else if c = '\x08' then ['\x5c', 'b']
  else if c = '\x0c' then ['\x5c', 'f']
  else if c = '\n' then ['\x5c', 'n']
  else if c = '\r' then ['\x5c', 'r']
  else if c = '\t' then ['\x5c', 't']
  else if c.toNat < 32 then
    ['\x5c', 'u', '0', '0', Text.hexChar (Text.lastHex (c.toNat / 16)),
     Text.hexChar (Text.lastHex c.toNat)]
  else [c]

/-- A string in quotes, as characters. -/
def quoteChars (s : String) : List Char := '\x22' :: s.toList.flatMap escape ++ ['\x22']

/-- A string in quotes. -/
def quote (s : String) : String := String.ofList (quoteChars s)

mutual
/-- The text of a value without blanks, as characters. -/
def compactChars : Json → List Char
  | .null => "null".toList
  | .bool b => (if b then "true" else "false").toList
  | .number n => (numberText n).toList
  | .string s => quoteChars s
  | .array [] => ['[', ']']
  | .array (item :: items) => '[' :: compactChars item ++ compactItems items
  | .object [] => ['\x7b', '\x7d']
  | .object ((key, value) :: members) =>
    '\x7b' :: quoteChars key ++ ':' :: compactChars value ++ compactMembers members

/-- The items after the first one, and the closing bracket. -/
def compactItems : List Json → List Char
  | [] => [']']
  | item :: items => ',' :: compactChars item ++ compactItems items

/-- The members after the first one, and the closing brace. -/
def compactMembers : List (String × Json) → List Char
  | [] => ['\x7d']
  | (key, value) :: members =>
    ',' :: quoteChars key ++ ':' :: compactChars value ++ compactMembers members
end

/-- The text of a value without blanks. -/
def compact (j : Json) : String := String.ofList (compactChars j)

/-- A line break and the indentation of a level. -/
def newline (level : Nat) : List Char := '\n' :: List.replicate (2 * level) ' '

mutual
/-- The indented text of a value that stands at a level. -/
def prettyChars (level : Nat) : Json → List Char
  | .null => "null".toList
  | .bool b => (if b then "true" else "false").toList
  | .number n => (numberText n).toList
  | .string s => quoteChars s
  | .array [] => ['[', ']']
  | .array (item :: items) =>
    '[' :: newline (level + 1) ++ prettyChars (level + 1) item ++ prettyItems level items
  | .object [] => ['\x7b', '\x7d']
  | .object ((key, value) :: members) =>
    '\x7b' :: newline (level + 1) ++ quoteChars key ++ ':' :: ' ' :: prettyChars (level + 1) value ++
      prettyMembers level members

/-- The items after the first one, and the closing bracket on its own line. -/
def prettyItems (level : Nat) : List Json → List Char
  | [] => newline level ++ [']']
  | item :: items => ',' :: newline (level + 1) ++ prettyChars (level + 1) item ++ prettyItems level items

/-- The members after the first one, and the closing brace on its own line. -/
def prettyMembers (level : Nat) : List (String × Json) → List Char
  | [] => newline level ++ ['\x7d']
  | (key, value) :: members =>
    ',' :: newline (level + 1) ++ quoteChars key ++ ':' :: ' ' :: prettyChars (level + 1) value ++
      prettyMembers level members
end

/-- The indented text of a value. -/
def pretty (j : Json) : String := String.ofList (prettyChars 0 j)

/-- Puts a member where its key belongs in sorted members, in place of one with the same key. -/
def putMember (key : String) (value : Json) : List (String × Json) → List (String × Json)
  | [] => [(key, value)]
  | (k, v) :: members =>
    if key < k then (key, value) :: (k, v) :: members
    else if key = k then (key, value) :: members
    else (k, v) :: putMember key value members

/-- The member of an object with a key. -/
def member? (key : String) : Json → Option Json
  | .object members => members.lookup key
  | _ => none

/-- The string that a value is. -/
def string? : Json → Option String
  | .string s => some s
  | _ => none

/-- A string, or `null` for none. -/
def ofOptionString : Option String → Json
  | some s => .string s
  | none => .null

/-- An integer. -/
def int (n : Int) : Json := .number (.int n)

/-- A natural number. -/
def nat (n : Nat) : Json := .number (.int n)

end Json
end Bursar
