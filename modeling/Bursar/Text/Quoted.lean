import Bursar.Text.Hexadecimal
import Bursar.Unicode.Shapeless

/-!
# Quoted texts

A text inside a message, in double quotes and with every character visible:
quotes, backslashes, line ends, tabs and the null character have two-letter
escapes, and a character without a shape of its own is named by its number in
hexadecimal.
-/

namespace Bursar.Text

/-- The lower-case hexadecimal digits of a number, in front of what follows. -/
def hexDigitsOnto (n : Nat) (tail : List Char) : List Char :=
  if _h : n < 16 then hexChar (lastHex n) :: tail
  else hexDigitsOnto (n / 16) (hexChar (lastHex n) :: tail)
termination_by n
decreasing_by omega

/-- A character inside a quoted text. -/
def visible (c : Char) : List Char :=
  if c = '\x00' then ['\x5c', '0']
  else if c = '\t' then ['\x5c', 't']
  else if c = '\n' then ['\x5c', 'n']
  else if c = '\r' then ['\x5c', 'r']
  else if c = '\x22' ∨ c = '\x5c' then ['\x5c', c]
  else if Unicode.isShapeless c then ['\x5c', 'u', '\x7b'] ++ hexDigitsOnto c.toNat ['\x7d']
  else [c]

/-- A text in quotes with every character visible. -/
def quoted (s : String) : String :=
  String.ofList ('\x22' :: s.toList.flatMap visible ++ ['\x22'])

end Bursar.Text
