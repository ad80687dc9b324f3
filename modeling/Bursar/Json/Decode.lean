import Bursar.Json.Raw
import Bursar.Text.Blank
import Bursar.Time.Timestamp
import Bursar.Uuid

/-!
# Reading values of a type

A `Decoder` walks the tree of a JSON text from left to right and stops at the
first fault, whether of shape or of grammar. Its number says how many arrays and
objects may still be opened around kept values: 127 at the start.

A `Record` describes the fields of a structure. Its object form lets the fields
stand in any order, ignores unknown keys and refuses a repeated key; its array
form lists the fields in declaration order. A field is

* `required`: it has to be there;
* `nullable`: `null` or leaving it out of an object means none;
* `defaulted`: leaving it out, also at the end of an array, means a given value.
-/

namespace Bursar.Json

/-- Reads a value from a tree, given how many containers may be opened. -/
abbrev Decoder (α : Type) := Nat → Raw → Except Fault α

/-- How deep kept arrays and objects may nest. -/
def maxDepth : Nat := 127

/-- The fault of a value that stands where another kind of value is wanted. A scalar is read to its
end first, so its own fault wins. -/
def Raw.mismatch : Raw → Fault
  | .missing => .ended
  | .brokenText kept _ => kept
  | .broken kept _ => kept
  | .number none => .malformed
  | .text none => .malformed
  | _ => .shape

/-! ## Skipping -/

/-- Runs a check after another one that found nothing. -/
def orFault (first : Option Fault) (second : Option Fault) : Option Fault :=
  match first with
  | some f => some f
  | none => second

mutual
/-- The first fault of a value that is skipped. -/
def Raw.skipFault : Raw → Option Fault
  | .array items ending => orFault (skipItems items) (endingFault ending)
  | .object members closing => orFault (skipMembers members) (closingFault closing)
  | .missing => some .ended
  | .brokenText _ skipped => some skipped
  | .broken _ skipped => some skipped
  | _ => none

/-- The first fault of items that are skipped. -/
def skipItems : List Raw → Option Fault
  | [] => none
  | item :: items => orFault item.skipFault (skipItems items)

/-- The first fault of members that are skipped. -/
def skipMembers : List (Option String × Raw) → Option Fault
  | [] => none
  | (_, value) :: members => orFault value.skipFault (skipMembers members)

/-- The fault at the end of an array. -/
def endingFault : Ending → Option Fault
  | .closed => none
  | .cut fault => some fault

/-- The fault at the end of an object that is skipped. -/
def closingFault : Closing → Option Fault
  | .closed => none
  | .cut fault => some fault
  | .keyless fault => some fault
  | .brokenKey _ skipped => some skipped
  | .noColon _ fault => some fault
end

/-! ## Values of any shape -/

/-- Ends an array. -/
def closeItems : Ending → Except Fault Unit
  | .closed => .ok ()
  | .cut fault => .error fault

/-- Ends an object whose next key is kept. -/
def closeMembers : Closing → Except Fault Unit
  | .closed => .ok ()
  | .cut fault => .error fault
  | .keyless fault => .error fault
  | .brokenKey kept _ => .error kept
  | .noColon none _ => .error .malformed
  | .noColon (some _) fault => .error fault

mutual
/-- The value that a tree stands for, with the members of objects sorted and the last of equal keys
kept. -/
def Raw.toJson (depth : Nat) : Raw → Except Fault Json
  | .null => .ok .null
  | .bool b => .ok (.bool b)
  | .number (some n) => .ok (.number n)
  | .text (some s) => .ok (.string s)
  | .array items ending =>
    match depth with
    | 0 => .error .malformed
    | depth + 1 => do
      let values ← itemsToJson depth items
      closeItems ending
      return .array values
  | .object members closing =>
    match depth with
    | 0 => .error .malformed
    | depth + 1 => do
      let entries ← membersToJson depth members []
      closeMembers closing
      return .object entries
  | .missing => .error .ended
  | .brokenText kept _ => .error kept
  | .broken kept _ => .error kept
  | .number none => .error .malformed
  | .text none => .error .malformed

/-- The values of items. -/
def itemsToJson (depth : Nat) : List Raw → Except Fault (List Json)
  | [] => .ok []
  | item :: items => do
    let value ← item.toJson depth
    let values ← itemsToJson depth items
    return value :: values

/-- The members read so far with the rest put in. -/
def membersToJson (depth : Nat) :
    List (Option String × Raw) → List (String × Json) → Except Fault (List (String × Json))
  | [], entries => .ok entries
  | (none, _) :: _, _ => .error .malformed
  | (some key, value) :: members, entries => do
    let value ← value.toJson depth
    membersToJson depth members (putMember key value entries)
end

/-! ## Decoders of scalars and containers -/

namespace Decoder

/-- A value of any shape. -/
def any : Decoder Json := fun depth raw => raw.toJson depth

/-- A string. -/
def string : Decoder String := fun _ raw =>
  match raw with
  | .text (some s) => .ok s
  | _ => .error raw.mismatch

/-- A string that a reader accepts. -/
def parsed {α : Type} (read : String → Option α) : Decoder α := fun depth raw => do
  let s ← string depth raw
  match read s with
  | some a => .ok a
  | none => .error .shape

/-- An integer in a closed range. -/
def integer (low high : Int) : Decoder Int := fun _ raw =>
  match raw with
  | .number (some (.int n)) => if low ≤ n ∧ n ≤ high then .ok n else .error .shape
  | _ => .error raw.mismatch

/-- A signed integer of 64 bits. -/
def int64 : Decoder Int := integer Text.minInt64 Text.maxInt64

/-- An unsigned integer of 64 bits. -/
def nat64 : Decoder Nat := fun depth raw => (integer 0 Text.maxNat64 depth raw).map Int.toNat

/-- A truth value. -/
def bool : Decoder Bool := fun _ raw =>
  match raw with
  | .bool b => .ok b
  | _ => .error raw.mismatch

/-- `null` for none. -/
def option {α : Type} (d : Decoder α) : Decoder (Option α) := fun depth raw =>
  match raw with
  | .null => .ok none
  | _ => (d depth raw).map some

/-- The items of an array in order. -/
def items {α : Type} (d : Decoder α) (depth : Nat) : List Raw → Except Fault (List α)
  | [] => .ok []
  | item :: rest => do
    let a ← d depth item
    let as ← items d depth rest
    return a :: as

/-- An array. -/
def list {α : Type} (d : Decoder α) : Decoder (List α) := fun depth raw =>
  match raw with
  | .array content ending =>
    match depth with
    | 0 => .error .malformed
    | depth + 1 => do
      let as ← items d depth content
      closeItems ending
      return as
  | _ => .error raw.mismatch

/-- The members of an object, sorted by key. -/
def object : Decoder (List (String × Json)) := fun depth raw =>
  match raw with
  | .object members closing =>
    match depth with
    | 0 => .error .malformed
    | depth + 1 => do
      let entries ← membersToJson depth members []
      closeMembers closing
      return entries
  | _ => .error raw.mismatch

/-- A UUID in any of its spellings. -/
def uuid : Decoder Uuid := parsed Uuid.parse?

/-- An instant. -/
def timestamp : Decoder Timestamp := parsed Timestamp.parse?

/-- One of some names, as a string or as the only key of an object with the value `null`. Any other
kind of value breaks the grammar. -/
def name {α : Type} (names : List (String × α)) : Decoder α := fun depth raw =>
  let known (key : Option String) : Except Fault α :=
    match key with
    | none => .error .malformed
    | some s =>
      match names.lookup s with
      | some a => .ok a
      | none => .error .shape
  match raw with
  | .text s => known s
  | .missing => .error .ended
  | .brokenText kept _ => .error kept
  | .object members closing =>
    match depth with
    | 0 => .error .malformed
    | _ + 1 =>
      match members with
      | (key, value) :: more => do
        let a ← known key
        match value with
        | .null => pure ()
        | _ => .error value.mismatch
        match more, closing with
        | [], .closed => return a
        | [], .cut fault => .error fault
        | _, _ => .error .malformed
      | [] =>
        match closing with
        | .cut fault => .error fault
        | .brokenKey kept _ => .error kept
        | .noColon key fault => do
          let _ ← known key
          .error fault
        | .closed | .keyless _ => .error .malformed
  | _ => .error .malformed

end Decoder

/-! ## Records -/

/-- What a record needs to know about a field to walk over it. -/
structure Field where
  key : String
  /-- Whether an array may end before the field. -/
  mayEnd : Bool
  check : Decoder Unit

/-- A structure with named fields. -/
structure Record (α : Type) where
  fields : List Field
  build : Nat → (String → Option Raw) → Except Fault α

namespace Record

/-- One field, with the value that stands for a missing one. -/
def field {α : Type} (key : String) (mayEnd : Bool) (absent : Except Fault α) (d : Decoder α) :
    Record α where
  fields := [{ key, mayEnd, check := fun depth raw => (d depth raw).map fun _ => () }]
  build depth get :=
    match get key with
    | some raw => d depth raw
    | none => absent

/-- A field that has to be there. -/
def required {α : Type} (key : String) (d : Decoder α) : Record α :=
  field key false (.error .shape) d

/-- A field that may be `null`, or left out of an object. -/
def nullable {α : Type} (key : String) (d : Decoder α) : Record (Option α) :=
  field key false (.ok none) d.option

/-- A field that has a value when it is left out. -/
def defaulted {α : Type} (key : String) (a : α) (d : Decoder α) : Record α :=
  field key true (.ok a) d

/-- A field that may be `null` or left out, also at the end of an array. -/
def optional {α : Type} (key : String) (d : Decoder α) : Record (Option α) :=
  defaulted key none d.option

/-- The fields of both, in order, and the function applied to the value. -/
def apply {α β : Type} (f : Record (α → β)) (a : Record α) : Record β where
  fields := f.fields ++ a.fields
  build depth get := do
    let g ← f.build depth get
    let x ← a.build depth get
    return g x

instance : Applicative Record where
  pure a := { fields := [], build := fun _ _ => .ok a }
  seq f a := apply f (a ())

/-- Walks over members, checking the known fields and skipping the others; gives the trees of the
fields. -/
def collectMembers (fields : List Field) (depth : Nat) (closing : Closing) :
    List (Option String × Raw) → List (String × Raw) → Except Fault (List (String × Raw))
  | [], found =>
    match closing with
    | .noColon (some key) fault =>
      .error (if (found.lookup key).isSome then .shape else fault)
    | _ => (closeMembers closing).map fun _ => found
  | (none, _) :: _, _ => .error .malformed
  | (some key, value) :: members, found =>
    match fields.find? fun f => f.key = key with
    | none =>
      match value.skipFault with
      | some fault => .error fault
      | none => collectMembers fields depth closing members found
    | some f =>
      if (found.lookup key).isSome then .error .shape
      else do
        f.check depth value
        collectMembers fields depth closing members ((key, value) :: found)

/-- Walks over items, one for each field; gives the trees of the fields. -/
def collectItems (depth : Nat) (ending : Ending) :
    List Field → List Raw → List (String × Raw) → Except Fault (List (String × Raw))
  | [], [], found => (closeItems ending).map fun _ => found
  | [], _ :: _, _ => .error .malformed
  | f :: fields, [], found => do
    closeItems ending
    if f.mayEnd then collectItems depth ending fields [] found else .error .shape
  | f :: fields, item :: rest, found => do
    f.check depth item
    collectItems depth ending fields rest ((f.key, item) :: found)

/-- The decoder of a structure, in object form or in array form. -/
def decoder {α : Type} (r : Record α) : Decoder α := fun depth raw =>
  match raw with
  | .object members closing =>
    match depth with
    | 0 => .error .malformed
    | depth + 1 => do
      let found ← collectMembers r.fields depth closing members []
      r.build depth fun key => found.lookup key
  | .array content ending =>
    match depth with
    | 0 => .error .malformed
    | depth + 1 => do
      let found ← collectItems depth ending r.fields content []
      r.build depth fun key => found.lookup key
  | _ => .error raw.mismatch

end Record

/-! ## Whole texts -/

/-- Reads the value at the front of a text, whatever follows it. -/
def decodeLead {α : Type} (d : Decoder α) (s : String) : Except Fault α := d maxDepth (Raw.read s).1

/-- Reads a text that is one value between blanks. -/
def decode {α : Type} (d : Decoder α) (s : String) : Except Fault α :=
  let (raw, rest) := Raw.read s
  match d maxDepth raw with
  | .error fault => .error fault
  | .ok a =>
    match rest with
    | some rest => if (skipBlanks rest).isEmpty then .ok a else .error .malformed
    | none => .error .malformed

/-- Reads a text as a value of any shape. -/
def parse (s : String) : Except Fault Json := decode Decoder.any s

end Bursar.Json
