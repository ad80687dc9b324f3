import Bursar.Proofs.Text.Encoding
import Bursar.Proofs.Text.Numeral
import Bursar.Proofs.Text.Utf8
import Bursar.Service.Route
import Bursar.Uuid
import Mathlib.Data.List.Basic

/-!
# Written identifiers

An identifier is read back from what it is written as (`Uuid.parse?_toString`), and so
no two are written alike. It can be told from its octets as well
(`Uuid.octets_injective`). A written identifier holds hexadecimal digits and hyphens
only, so it can stand in a path as it is: nothing is trimmed, cut or decoded there
(`Route.ofPath?_transaction`, `Route.decodeSegment?_toString`).
-/

namespace Bursar

namespace Uuid

/-! ## Octets -/

/-- The digits of the octets are the digits, if these come in pairs. -/
theorem hexOfOctets_octetsOf {ds : List (Fin 16)} (h : ds.length % 2 = 0) :
    Text.hexOfOctets (octetsOf ds) = ds.map Text.hexChar := by
  induction ds using octetsOf.induct with
  | case1 high low ds ih =>
    have hds : ds.length % 2 = 0 := by
      simp only [List.length_cons] at h
      omega
    rw [octetsOf, Text.hexOfOctets_cons, Text.octetDigits_octetOfDigits, ih hds]
    rfl
  | case2 ds hds =>
    match ds with
    | [] => rfl
    | [d] => simp at h
    | high :: low :: ds => exact absurd rfl (hds high low ds)

theorem hexOfOctets_octets (u : Uuid) : Text.hexOfOctets u.octets = u.simpleChars :=
  hexOfOctets_octetsOf (by rw [u.length_digits])

theorem length_octets (u : Uuid) : u.octets.length = 16 := by
  have h := congrArg List.length u.hexOfOctets_octets
  rw [Text.length_hexOfOctets, simpleChars, List.length_map, u.length_digits] at h
  omega

/-- **No two identifiers have the same octets.** -/
theorem octets_injective : Function.Injective octets := by
  intro u v h
  have hdigits : u.digits.map Text.hexChar = v.digits.map Text.hexChar := by
    rw [← simpleChars, ← simpleChars, ← hexOfOctets_octets, ← hexOfOctets_octets, h]
  cases u
  cases v
  simp only [mk.injEq]
  exact List.map_injective_iff.mpr Text.hexChar_injective hdigits

/-! ## Reading back -/

theorem length_simpleChars (u : Uuid) : u.simpleChars.length = 32 := by
  rw [simpleChars, List.length_map, u.length_digits]

theorem length_hyphenate {cs : List Char} (h : cs.length = 32) : (hyphenate cs).length = 36 := by
  simp [hyphenate, h]

theorem length_toChars (u : Uuid) : u.toChars.length = 36 := length_hyphenate u.length_simpleChars

theorem mapM_hexValue?_map_hexChar (ds : List (Fin 16)) :
    (ds.map Text.hexChar).mapM Text.hexValue? = some ds := by
  induction ds with
  | nil => rfl
  | cons d ds ih => simp [List.mapM_cons, ih]

theorem parseSimple?_simpleChars (u : Uuid) : parseSimple? u.simpleChars = some u := by
  rw [parseSimple?, simpleChars, mapM_hexValue?_map_hexChar, Option.bind_some, ofDigits?,
    dif_pos u.length_digits]

/-- What stands between the hyphens is what was cut. -/
theorem parseHyphenated?_hyphenate {cs : List Char} (h : cs.length = 32) :
    parseHyphenated? (hyphenate cs) = parseSimple? cs := by
  have hhyphens : (hyphenate cs)[8]? = some '-' ∧ (hyphenate cs)[13]? = some '-' ∧
      (hyphenate cs)[18]? = some '-' ∧ (hyphenate cs)[23]? = some '-' := by
    simp [hyphenate, h]
  have hgroups : (hyphenate cs).take 8 ++ ((hyphenate cs).drop 9).take 4 ++
      ((hyphenate cs).drop 14).take 4 ++ ((hyphenate cs).drop 19).take 4 ++
      (hyphenate cs).drop 24 = cs := by
    have h₄ : cs.drop 20 = (cs.drop 16).drop 4 := by simp
    have h₃ : cs.drop 16 = (cs.drop 12).drop 4 := by simp
    have h₂ : cs.drop 12 = (cs.drop 8).drop 4 := by simp
    simp only [hyphenate]
    simp [h, List.drop_append, List.drop_take]
    rw [h₄, List.take_append_drop, h₃, List.take_append_drop, h₂, List.take_append_drop,
      List.take_append_drop]
  rw [parseHyphenated?, if_pos ⟨length_hyphenate h, hhyphens⟩, hgroups]

/-- **An identifier is read back from what it is written as.** -/
@[simp] theorem parse?_toString (u : Uuid) : parse? u.toString = some u := by
  rw [parse?, toString, String.toList_ofList, parseChars?, if_neg (by simp [length_toChars]),
    if_pos u.length_toChars, toChars, parseHyphenated?_hyphenate u.length_simpleChars,
    parseSimple?_simpleChars]

theorem toString_injective : Function.Injective toString := by
  intro u v h
  have hu := parse?_toString u
  rw [h, parse?_toString] at hu
  exact (Option.some.inj hu).symm

/-! ## The characters of a written identifier -/

/-- A digit of an identifier, or a hyphen. -/
def IsSign (c : Char) : Prop := c = '-' ∨ ∃ d, c = Text.hexChar d

theorem isSign_of_mem_toChars {u : Uuid} {c : Char} (h : c ∈ u.toChars) : IsSign c := by
  have hdigit {c : Char} (hc : c ∈ u.simpleChars) : IsSign c := by
    obtain ⟨d, -, rfl⟩ := List.mem_map.mp hc
    exact .inr ⟨d, rfl⟩
  simp only [toChars, hyphenate, List.mem_append, List.mem_cons] at h
  rcases h with (((h | rfl | h) | rfl | h) | rfl | h) | rfl | h
  · exact hdigit (List.mem_of_mem_take h)
  · exact .inl rfl
  · exact hdigit (List.mem_of_mem_drop (List.mem_of_mem_take h))
  · exact .inl rfl
  · exact hdigit (List.mem_of_mem_drop (List.mem_of_mem_take h))
  · exact .inl rfl
  · exact hdigit (List.mem_of_mem_drop (List.mem_of_mem_take h))
  · exact .inl rfl
  · exact hdigit (List.mem_of_mem_drop h)

/-- A sign is no blank and means nothing in a path. -/
theorem IsSign.plain {c : Char} (h : IsSign c) : Text.isBlank c = false ∧ c ≠ '/' ∧ c ≠ '%' := by
  rcases h with rfl | ⟨d, rfl⟩
  · decide
  · revert d
    decide

@[simp] theorem trim_toString (u : Uuid) : Text.trim u.toString = u.toString := by
  have hkept := Text.trimChars_of_no_blank fun c hc => (isSign_of_mem_toChars (u := u) hc).plain.1
  rw [Text.trim, toString, String.toList_ofList, hkept]

end Uuid

/-! ## Identifiers in paths -/

namespace Text

theorem splitAll_ne_nil (sep : Char) (cs : List Char) : splitAll sep cs ≠ [] := by
  cases cs with
  | nil => nofun
  | cons c cs =>
    unfold splitAll
    split
    · nofun
    · split <;> nofun

/-- The pieces up to a separator, and those behind it. -/
theorem splitAll_append (sep : Char) (cs rest : List Char) :
    splitAll sep (cs ++ sep :: rest) = splitAll sep cs ++ splitAll sep rest := by
  induction cs with
  | nil => simp [splitAll]
  | cons c cs ih =>
    by_cases hc : c = sep
    · simp [splitAll, hc, ih]
    · simp only [List.cons_append, splitAll, hc, if_false, ih]
      cases hs : splitAll sep cs with
      | nil => exact absurd hs (splitAll_ne_nil sep cs)
      | cons piece pieces => rfl

theorem splitAll_of_not_mem {sep : Char} {cs : List Char} (h : sep ∉ cs) : splitAll sep cs = [cs] := by
  induction cs with
  | nil => rfl
  | cons c cs ih =>
    obtain ⟨hc, hcs⟩ := not_or.mp (List.mem_cons.not.mp h)
    simp [splitAll, Ne.symm hc, ih hcs]

end Text

/-- Where no octet is percent-encoded, characters stand for themselves. -/
theorem Http.percentDecode_of_not_mem {cs : List Char} (h : '%' ∉ cs) :
    percentDecode cs = Text.octetsOfChars cs := by
  induction cs with
  | nil => rfl
  | cons c cs ih =>
    obtain ⟨hc, hcs⟩ := not_or.mp (List.mem_cons.not.mp h)
    have hcons : percentDecode (c :: cs) = Text.octetsOfChar c ++ percentDecode cs := by
      rw [percentDecode]
      rintro high low rest rfl
      exact absurd rfl hc
    rw [hcons, ih hcs]
    rfl

namespace Route

/-- A written identifier stands for itself in a path. -/
theorem decodeSegment?_toString (u : Uuid) : decodeSegment? u.toString = some u.toString := by
  have hsigns {c : Char} (hc : c ∈ u.toChars) := (Uuid.isSign_of_mem_toChars hc).plain
  rw [decodeSegment?, Uuid.toString, String.toList_ofList,
    Http.percentDecode_of_not_mem fun hc => (hsigns hc).2.2 rfl,
    Text.decode?_octetsOfChars]

/-- The segments of a path that ends in an identifier and a slash. -/
theorem segments_toString (lead : String) (u : Uuid) :
    Text.splitAllString '/' (lead ++ "/" ++ u.toString ++ "/") =
      Text.splitAllString '/' lead ++ [u.toString, ""] := by
  have hslash : '/' ∉ u.toChars := fun hc => (Uuid.isSign_of_mem_toChars hc).plain.2.1 rfl
  have hpath : (lead ++ "/" ++ u.toString ++ "/").toList =
      lead.toList ++ '/' :: (u.toChars ++ '/' :: []) := by
    simp [Uuid.toString, String.toList_append]
  rw [Text.splitAllString, hpath, Text.splitAll_append, Text.splitAll_append,
    Text.splitAll_of_not_mem hslash]
  simp [Text.splitAllString, Text.splitAll, Uuid.toString]

/-- The path of a transaction. -/
def transactionPath (u : Uuid) : String := "/api/v1/transactions/" ++ u.toString ++ "/"

/-- The path of a subsidy. -/
def subsidyPath (u : Uuid) : String := "/api/v1/subsidies/" ++ u.toString ++ "/"

theorem ofPath?_transactionPath (u : Uuid) :
    ofPath? (transactionPath u) = some (.transaction u.toString) := by
  have h := segments_toString "/api/v1/transactions" u
  rw [show Text.splitAllString '/' "/api/v1/transactions" = ["", "api", "v1", "transactions"] by decide]
    at h
  rw [ofPath?, show transactionPath u = "/api/v1/transactions" ++ "/" ++ u.toString ++ "/" from rfl, h]
  simp [ofSegments?]

theorem ofPath?_subsidyPath (u : Uuid) : ofPath? (subsidyPath u) = some (.subsidy u.toString) := by
  have h := segments_toString "/api/v1/subsidies" u
  rw [show Text.splitAllString '/' "/api/v1/subsidies" = ["", "api", "v1", "subsidies"] by decide] at h
  rw [ofPath?, show subsidyPath u = "/api/v1/subsidies" ++ "/" ++ u.toString ++ "/" from rfl, h]
  simp [ofSegments?]

end Route
end Bursar
