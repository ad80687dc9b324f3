import Bursar.Json.Basic

/-!
# Reading JSON text

`Raw.read` turns a text into a tree from left to right. Where the text breaks
the grammar the tree ends with a mark that says how, and everything before the
mark is still there: whoever walks the tree from left to right meets faults of
shape and faults of grammar in the order of the text.

A value may be kept or skipped. A skipped value is held to fewer rules: its
numbers may be of any size, its strings may hold lone surrogates, and it may
nest to any depth.
-/

namespace Bursar.Json

/-- Why a text is not the JSON value that was wanted. -/
inductive Fault where
  /-- The text ends too early. -/
  | ended
  /-- The text breaks the grammar. -/
  | malformed
  /-- The text is JSON, but of another shape. -/
  | shape
deriving DecidableEq, Repr

/-- How the items of an array end. -/
inductive Ending where
  | closed
  /-- Neither a comma nor the bracket follows. -/
  | cut (fault : Fault)
deriving DecidableEq, Repr

/-- How the members of an object end. -/
inductive Closing where
  | closed
  /-- Neither a comma nor the brace follows. -/
  | cut (fault : Fault)
  /-- A key should follow, and something else does. -/
  | keyless (fault : Fault)
  /-- A key follows that is broken: when kept, and when skipped. -/
  | brokenKey (kept skipped : Fault)
  /-- A key follows without its colon; `none` for a key that cannot be kept. -/
  | noColon (key : Option String) (fault : Fault)
deriving DecidableEq, Repr

/-- A value as it was read, up to the first break of the grammar. -/
inductive Raw where
  | null
  | bool (b : Bool)
  /-- A number; `none` if it is too large to be kept. -/
  | number (n : Option Number)
  /-- A string; `none` if a lone surrogate keeps it from being kept. -/
  | text (s : Option String)
  | array (items : List Raw) (ending : Ending)
  | object (members : List (Option String × Raw)) (closing : Closing)
  /-- The text ends before the value. -/
  | missing
  /-- A string that breaks the grammar: when kept, and when skipped. -/
  | brokenText (kept skipped : Fault)
  /-- Anything else that breaks the grammar: when kept, and when skipped. -/
  | broken (kept skipped : Fault)
deriving Repr, Inhabited

/-- The outcome of reading a token: a value and the rest of the text, or two faults. -/
inductive Token (α : Type) where
  | found (value : α) (rest : List Char)
  | fault (kept skipped : Fault)

/-- Drops blanks, tabs and line ends. -/
def skipBlanks : List Char → List Char
  | [] => []
  | c :: cs => if c = ' ' ∨ c = '\n' ∨ c = '\t' ∨ c = '\r' then skipBlanks cs else c :: cs

/-- Checks that the rest of a word follows. -/
def word : (expected cs : List Char) → Token Unit
  | [], cs => .found () cs
  | _ :: _, [] => .fault .ended .ended
  | e :: expected, c :: cs => if e = c then word expected cs else .fault .malformed .malformed

/-! ## Numbers -/

/-- The digits of a number, gathered while they fit 64 bits: `value * 10 ^ exponent`. -/
structure Gathered where
  value : Nat
  exponent : Int
  full : Bool
deriving Repr

/-- Takes a digit before the point. From the first one that does not fit on, digits only count. -/
def Gathered.whole (g : Gathered) (d : Nat) : Gathered :=
  if g.full ∨ g.value * 10 + d > Text.maxNat64 then { g with exponent := g.exponent + 1, full := true }
  else { g with value := g.value * 10 + d }

/-- Takes a digit after the point. From the first one that does not fit on, digits are ignored. -/
def Gathered.fraction (g : Gathered) (d : Nat) : Gathered :=
  if g.full ∨ g.value * 10 + d > Text.maxNat64 then { g with full := true }
  else { g with value := g.value * 10 + d, exponent := g.exponent - 1 }

/-- A power of ten from `1` to `1e308`. -/
def powerOfTen (n : Nat) : Float := Float.ofScientific 1 false n

/-- Scales a double by a power of ten in steps of at most `1e308`; `none` if it gets too large. -/
def scale (x : Float) (exponent : Int) : (steps : Nat) → Option Float
  | 0 => some x
  | steps + 1 =>
    if exponent.natAbs ≤ 308 then
      if 0 ≤ exponent then
        let y := x * powerOfTen exponent.natAbs
        if y.isInf then none else some y
      else some (x / powerOfTen exponent.natAbs)
    else if x == 0 then some x
    else if 0 ≤ exponent then none
    else scale (x / powerOfTen 308) (exponent + 308) steps

/-- The double that gathered digits stand for: the gathered value, scaled. -/
def Gathered.toFloat? (g : Gathered) (isNegative : Bool) : Option Float :=
  (scale (UInt64.ofNat g.value).toFloat g.exponent 8).map fun x => if isNegative then -x else x

/-- The leading digits of a text. -/
def leadingDigits (cs : List Char) : List Char := cs.takeWhile fun c => (Text.digitValue? c).isSome

/-- The values of digits. -/
def digitValues (cs : List Char) : List Nat := cs.filterMap Text.digitValue?

/-- A number without fraction and exponent: an integer if it has 64 bits, except for `-0`. -/
def integerNumber (isNegative : Bool) (g : Gathered) : Option Number :=
  if g.full then (g.toFloat? isNegative).map .float
  else if !isNegative then some (.int g.value)
  else if 0 < g.value ∧ g.value ≤ Nat.pow 2 63 then some (.int (-(g.value : Int)))
  else some (.float (-(UInt64.ofNat g.value).toFloat))

/-- Reads the exponent after the `e`, and ends the number. -/
def exponentPart (isNegative : Bool) (g : Gathered) (cs : List Char) : Token (Option Number) :=
  let (down, cs) :=
    match cs with
    | '+' :: rest => (false, rest)
    | '-' :: rest => (true, rest)
    | _ => (false, cs)
  match cs with
  | [] => .fault .ended .malformed
  | _ :: _ =>
    let digits := leadingDigits cs
    if digits.isEmpty then .fault .malformed .malformed
    else
      let n : Int := (Text.digitsValue? 0 digits).getD 0
      let g := { g with exponent := if down then g.exponent - n else g.exponent + n }
      .found ((g.toFloat? isNegative).map .float) (cs.drop digits.length)

/-- Reads what follows the point, and ends the number. -/
def fractionPart (isNegative : Bool) (g : Gathered) (cs : List Char) : Token (Option Number) :=
  let digits := leadingDigits cs
  if digits.isEmpty then .fault (if cs.isEmpty then .ended else .malformed) .malformed
  else
    let g := (digitValues digits).foldl Gathered.fraction { g with full := false }
    match cs.drop digits.length with
    | [] => .found ((g.toFloat? isNegative).map .float) []
    | c :: rest =>
      if c = 'e' ∨ c = 'E' then exponentPart isNegative g rest
      else .found ((g.toFloat? isNegative).map .float) (c :: rest)

/-- Reads a number after its sign. -/
def numberToken (isNegative : Bool) (cs : List Char) : Token (Option Number) :=
  let digits := leadingDigits cs
  if digits.isEmpty then .fault (if cs.isEmpty then .ended else .malformed) .malformed
  else if digits.head? = some '0' ∧ digits.length > 1 then .fault .malformed .malformed
  else
    let g := (digitValues digits).foldl Gathered.whole { value := 0, exponent := 0, full := false }
    match cs.drop digits.length with
    | [] => .found (integerNumber isNegative g) []
    | c :: rest =>
      if c = '.' then fractionPart isNegative g rest
      else if c = 'e' ∨ c = 'E' then exponentPart isNegative g rest
      else .found (integerNumber isNegative g) (c :: rest)

/-! ## Strings -/

/-- The value of four hexadecimal digits. -/
def hexFour? (a b c d : Char) : Option Nat := do
  let w ← Text.hexValue? a
  let x ← Text.hexValue? b
  let y ← Text.hexValue? c
  let z ← Text.hexValue? d
  some (((w.val * 16 + x.val) * 16 + y.val) * 16 + z.val)

/-- The number of octets of a text in UTF-8. -/
def octetCount (cs : List Char) : Nat := cs.foldr (fun c n => c.utf8Size + n) 0

/-- What follows a leading surrogate. -/
inductive Follower where
  /-- The other half, and the rest of the text. -/
  | trailing (unit : Nat) (rest : List Char)
  /-- An escape that is a fault of its own. -/
  | faulty
  /-- Anything else. -/
  | other

/-- Looks at what follows a leading surrogate. -/
def follower : List Char → Follower
  | [] => .faulty
  | ['\x5c'] => .faulty
  | '\x5c' :: 'u' :: a :: b :: c :: d :: rest =>
    match hexFour? a b c d with
    | some n => if 0xDC00 ≤ n ∧ n ≤ 0xDFFF then .trailing n rest else .other
    | none => .faulty
  | '\x5c' :: 'u' :: _ => .faulty
  | _ => .other

/-- The character of a two-letter escape. -/
def simpleEscape? (c : Char) : Option Char :=
  if c = '\x22' ∨ c = '\x5c' ∨ c = '/' then some c
  else if c = 'b' then some '\x08'
  else if c = 'f' then some '\x0c'
  else if c = 'n' then some '\n'
  else if c = 'r' then some '\r'
  else if c = 't' then some '\t'
  else none

/-- The fault of a string that breaks off, where `lone` says whether it could be kept until then. -/
def textFault (lone : Bool) (fault : Fault) : Token (Option String) :=
  .fault (if lone then .malformed else fault) fault

/-- Reads a string after its opening quote; `done` holds the characters so far, newest first, and
`lone` says whether a lone surrogate was among them. -/
def textToken (fuel : Nat) (done : List Char) (lone : Bool) (cs : List Char) : Token (Option String) :=
  match fuel, cs with
  | 0, _ => textFault lone .ended
  | _, [] => textFault lone .ended
  | fuel + 1, c :: cs =>
    if c = '\x22' then .found (if lone then none else some (String.ofList done.reverse)) cs
    else if c.toNat < 32 then textFault lone .malformed
    else if c ≠ '\x5c' then textToken fuel (c :: done) lone cs
    else
      match cs with
      | [] => textFault lone .ended
      | e :: cs =>
        if e ≠ 'u' then
          match simpleEscape? e with
          | some x => textToken fuel (x :: done) lone cs
          | none => textFault lone .malformed
        else
          match cs with
          | w :: x :: y :: z :: rest =>
            match hexFour? w x y z with
            | none => textFault lone .malformed
            | some n =>
              if 0xDC00 ≤ n ∧ n ≤ 0xDFFF then textToken fuel done true rest
              else if 0xD800 ≤ n ∧ n ≤ 0xDBFF then
                match follower rest with
                | .trailing m rest =>
                  textToken fuel
                    (Char.ofNat (0x10000 + (n - 0xD800) * 0x400 + (m - 0xDC00)) :: done) lone rest
                | .faulty => textToken fuel done lone rest
                | .other => textToken fuel done true rest
              else textToken fuel (Char.ofNat n :: done) lone rest
          | short => textFault lone (if octetCount short < 4 then .ended else .malformed)

/-- Reads a string after its opening quote. -/
def stringToken (cs : List Char) : Token (Option String) := textToken (cs.length + 1) [] false cs

/-! ## Values -/

/-- A scalar read from a token, with the rest of the text unless the grammar was broken. -/
def ofToken {α : Type} (value : α → Raw) (fault : Fault → Fault → Raw) :
    Token α → Raw × Option (List Char)
  | .found a rest => (value a, some rest)
  | .fault kept skipped => (fault kept skipped, none)

mutual
/-- Reads a value: the tree, and the rest of the text unless the grammar was broken. -/
def readValue (fuel : Nat) (cs : List Char) : Raw × Option (List Char) :=
  match fuel with
  | 0 => (.missing, none)
  | fuel + 1 =>
    match skipBlanks cs with
    | [] => (.missing, none)
    | c :: cs =>
      if c = '\x22' then ofToken .text .brokenText (stringToken cs)
      else if c = '[' then
        let (items, ending, rest) := readItems fuel true cs
        (.array items ending, rest)
      else if c = '\x7b' then
        let (members, closing, rest) := readMembers fuel true cs
        (.object members closing, rest)
      else if c = 'n' then ofToken (fun _ => .null) .broken (word "ull".toList cs)
      else if c = 't' then ofToken (fun _ => .bool true) .broken (word "rue".toList cs)
      else if c = 'f' then ofToken (fun _ => .bool false) .broken (word "alse".toList cs)
      else if c = '-' then ofToken .number .broken (numberToken true cs)
      else if (Text.digitValue? c).isSome then ofToken .number .broken (numberToken false (c :: cs))
      else (.broken .malformed .malformed, none)

/-- Reads items until the closing bracket; `isFirst` says whether no item came before. -/
def readItems (fuel : Nat) (isFirst : Bool) (cs : List Char) :
    List Raw × Ending × Option (List Char) :=
  match fuel with
  | 0 => ([], .cut .ended, none)
  | fuel + 1 =>
    let next (cs : List Char) : List Raw × Ending × Option (List Char) :=
      match readValue fuel cs with
      | (item, some rest) =>
        let (items, ending, rest) := readItems fuel false rest
        (item :: items, ending, rest)
      | (item, none) => ([item], .closed, none)
    match skipBlanks cs with
    | [] => ([], .cut .ended, none)
    | c :: cs =>
      if c = ']' then ([], .closed, some cs)
      else if isFirst then next (c :: cs)
      else if c = ',' then next cs
      else ([], .cut .malformed, none)

/-- Reads members until the closing brace; `isFirst` says whether no member came before. -/
def readMembers (fuel : Nat) (isFirst : Bool) (cs : List Char) :
    List (Option String × Raw) × Closing × Option (List Char) :=
  match fuel with
  | 0 => ([], .cut .ended, none)
  | fuel + 1 =>
    let next (cs : List Char) : List (Option String × Raw) × Closing × Option (List Char) :=
      match skipBlanks cs with
      | [] => ([], .keyless .ended, none)
      | c :: cs =>
        if c ≠ '\x22' then ([], .keyless .malformed, none)
        else
          match stringToken cs with
          | .fault kept skipped => ([], .brokenKey kept skipped, none)
          | .found key rest =>
            match skipBlanks rest with
            | [] => ([], .noColon key .ended, none)
            | c :: rest =>
              if c ≠ ':' then ([], .noColon key .malformed, none)
              else
                match readValue fuel rest with
                | (value, some rest) =>
                  let (members, closing, rest) := readMembers fuel false rest
                  ((key, value) :: members, closing, rest)
                | (value, none) => ([(key, value)], .closed, none)
    match skipBlanks cs with
    | [] => ([], .cut .ended, none)
    | c :: cs =>
      if c = '\x7d' then ([], .closed, some cs)
      else if isFirst then next (c :: cs)
      else if c = ',' then next cs
      else ([], .cut .malformed, none)
end

/-- Reads the first value of a text: the tree, and the rest unless the grammar was broken. -/
def Raw.read (s : String) : Raw × Option (List Char) :=
  let cs := s.toList
  readValue (2 * cs.length + 2) cs

end Bursar.Json
