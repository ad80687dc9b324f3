/-!
# Splitting at delimiters

Configuration texts, paths and query strings are lists of pieces between
delimiters. `splitFirst` cuts at the first delimiter only, `splitAll` at every
one; a text without the delimiter is a single piece.
-/

namespace Bursar.Text

/-- The pieces before and after the first `sep`; `none` if there is no `sep`. -/
def splitFirst (sep : Char) : List Char → Option (List Char × List Char)
  | [] => none
  | c :: cs =>
    if c = sep then some ([], cs)
    else (splitFirst sep cs).map fun (before, after) => (c :: before, after)

/-- The pieces between all the `sep`s, one more than there are `sep`s. -/
def splitAll (sep : Char) : List Char → List (List Char)
  | [] => [[]]
  | c :: cs =>
    if c = sep then [] :: splitAll sep cs
    else
      match splitAll sep cs with
      | [] => [[c]]
      | piece :: pieces => (c :: piece) :: pieces

/-- The pieces with a separator put between neighbours. -/
def joinWith (sep : List Char) : List (List Char) → List Char
  | [] => []
  | [piece] => piece
  | piece :: pieces => piece ++ sep ++ joinWith sep pieces

/-- `splitFirst` on strings. -/
def splitFirstString (sep : Char) (s : String) : Option (String × String) :=
  (splitFirst sep s.toList).map fun (before, after) => (String.ofList before, String.ofList after)

/-- `splitAll` on strings. -/
def splitAllString (sep : Char) (s : String) : List String :=
  (splitAll sep s.toList).map String.ofList

/-- What is left of `cs` after the leading piece `lead`, if it starts with it. -/
def dropLead : (lead cs : List Char) → Option (List Char)
  | [], cs => some cs
  | _ :: _, [] => none
  | l :: lead, c :: cs => if l = c then dropLead lead cs else none

/-- What is left of `s` after the leading text `lead`, if it starts with it. -/
def dropLeadString (lead s : String) : Option String :=
  (dropLead lead.toList s.toList).map String.ofList

/-- Whether `cs` starts with `lead`. -/
def startsWith (lead cs : List Char) : Bool := (dropLead lead cs).isSome

/-- ASCII letters in lower case, everything else unchanged. -/
def lowerAscii (s : String) : String := String.ofList (s.toList.map Char.toLower)

/-- Fills a text with blanks on the right up to a width in characters. -/
def padRight (width : Nat) (s : String) : String :=
  s ++ String.ofList (List.replicate (width - s.length) ' ')

/-- Fills a text with blanks on the left up to a width in characters. -/
def padLeft (width : Nat) (s : String) : String :=
  String.ofList (List.replicate (width - s.length) ' ') ++ s

end Bursar.Text
