import Bursar.Text.Split

/-!
# Media types

The value of a header for content types: a type, a subtype and parameters. Only
one question is asked of it, whether the content is JSON (`isJson`).
-/

namespace Bursar.Http.MediaType

/-- Whether a character may stand in a name. -/
def isToken (c : Char) : Bool :=
  ('a' ≤ c && c ≤ 'z') || ('A' ≤ c && c ≤ 'Z') || ('0' ≤ c && c ≤ '9') ||
    ['!', '#', '$', '%', '&', '\'', '*', '+', '-', '.', '^', '_', '\x60', '|', '~'].contains c

/-- Whether a character may stand in a quoted value. -/
def isQuotable (c : Char) : Bool := 31 < c.toNat && c.toNat ≠ 127

/-- A non-empty run of characters of a name at the front, and the rest. -/
def name? (cs : List Char) : Option (List Char × List Char) :=
  let name := cs.takeWhile isToken
  if name.isEmpty then none else some (name, cs.drop name.length)

/-- What follows a quoted value, its quote included; the value is not empty. -/
def quotedRest? (cs : List Char) : Option (List Char) :=
  let value := cs.takeWhile fun c => isQuotable c && c ≠ '\x22'
  match value, cs.drop value.length with
  | _ :: _, '\x22' :: rest => some rest
  | [], '\x22' :: rest =>
    let value := rest.takeWhile fun c => isQuotable c && c ≠ '\x22'
    match rest.drop value.length with
    | '\x22' :: rest => some rest
    | _ => none
  | _, _ => none

/-- Whether what stands after a first semicolon is a list of parameters. -/
def areParameters : (fuel : Nat) → List Char → Bool
  | 0, _ => false
  | _, [] => true
  | fuel + 1, ' ' :: rest => areParameters fuel rest
  | fuel + 1, cs =>
    match name? cs with
    | some (_, '=' :: '\x22' :: rest) =>
      match quotedRest? rest with
      | none => false
      | some rest =>
        match rest.dropWhile (· = ' ') with
        | [] => true
        | ';' :: rest => areParameters fuel rest
        | _ => false
    | some (_, '=' :: rest) =>
      match name? rest with
      | none => rest.isEmpty
      | some (_, []) => true
      | some (_, ';' :: rest) => areParameters fuel rest
      | some _ => false
    | _ => false

/-- The part of a subtype after its last `+`, and the part before; none without a `+`. -/
def suffix? (subtype : List Char) : Option (List Char × List Char) :=
  (Text.splitFirst '+' subtype.reverse).bind fun (after, before) =>
    if before.isEmpty then none else some (before.reverse, after.reverse)

/-- Whether a subtype is `json` or has the suffix `json`. -/
def isJsonSubtype (subtype : List Char) : Bool :=
  match suffix? subtype with
  | some (base, suffix) => base = "json".toList || suffix = "json".toList
  | none => subtype = "json".toList

/-- Whether a media type is `application/json` or `application/*+json`, in any letter case. -/
def isJson (value : String) : Bool :=
  match name? value.toList with
  | some (type, '/' :: rest) =>
    match name? rest with
    | some (subtype, rest) =>
      let isList :=
        match rest with
        | [] => true
        | ';' :: rest => areParameters (rest.length + 1) rest
        | _ => false
      isList && type.map Char.toLower = "application".toList &&
        isJsonSubtype (subtype.map Char.toLower)
    | none => false
  | _ => false

end Bursar.Http.MediaType
