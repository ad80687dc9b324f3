import Bursar.Http.Form
import Bursar.Proofs.Text.Encoding
import Bursar.Proofs.Text.Identifier
import Bursar.Url.Basic

/-!
# Queries are read back

Whatever names and values a query is made of, they come back from it
(`Http.Form.decode_encode`): a written text holds neither `&` nor `=`, so the query is cut
where it was put together; a `+` in it is always a blank, as one of the text itself is
written with its octet; and a `%` always stands in front of two digits.

What is added to the query of a URL is read behind what was there
(`Url.decode_withPairs`).
-/

namespace Bursar

/-! ## Pieces between separators -/

namespace Text

/-- A text is cut where the first separator stands. -/
theorem splitFirst_append {sep : Char} {cs : List Char} (h : sep ∉ cs) (rest : List Char) :
    splitFirst sep (cs ++ sep :: rest) = some (cs, rest) := by
  induction cs with
  | nil => simp [splitFirst]
  | cons c cs ih =>
    obtain ⟨hc, hcs⟩ := not_or.mp (List.mem_cons.not.mp h)
    simp [splitFirst, Ne.symm hc, ih hcs]

/-- **Pieces without the separator are those that the joined text is cut into.** -/
theorem splitAll_joinWith {sep : Char} {piece : List Char} {pieces : List (List Char)}
    (h : ∀ p ∈ piece :: pieces, sep ∉ p) :
    splitAll sep (joinWith [sep] (piece :: pieces)) = piece :: pieces := by
  induction pieces generalizing piece with
  | nil => exact splitAll_of_not_mem (h piece List.mem_cons_self)
  | cons next pieces ih =>
    have hfirst := splitAll_of_not_mem (h piece List.mem_cons_self)
    have hrest := ih fun p hp => h p (List.mem_cons_of_mem _ hp)
    rw [joinWith, List.append_assoc, List.singleton_append, splitAll_append, hfirst, hrest,
      List.singleton_append]
    nofun

end Text

namespace Http

/-! ## Octets -/

theorem percentDecode_percentOctet (b : UInt8) (rest : List Char) :
    percentDecode (percentOctet b ++ rest) = b :: percentDecode rest := by
  simp [percentOctet, percentDecode, Text.octetOfDigits_octetDigits]

/-- **Percent-encoded octets are read back.** -/
theorem percentDecode_flatMap (bs : List UInt8) (rest : List Char) :
    percentDecode (bs.flatMap percentOctet ++ rest) = bs ++ percentDecode rest := by
  induction bs with
  | nil => rfl
  | cons b bs ih =>
    rw [List.flatMap_cons, List.append_assoc, percentDecode_percentOctet, ih, List.cons_append]

theorem percentDecode_cons {c : Char} (h : c ≠ '%') (rest : List Char) :
    percentDecode (c :: rest) = Text.octetsOfChar c ++ percentDecode rest := by
  rw [percentDecode]
  rintro high low more rfl
  exact absurd rfl h

namespace Form

/-! ## Texts -/

/-- A sign of a written text: a blank, the mark of an octet, or a character for itself. -/
def IsSign (c : Char) : Prop := c = '+' ∨ c = '%' ∨ isPlain c = true

theorem isPlain_hexCharUpper (d : Fin 16) : isPlain (Text.hexCharUpper d) = true := by
  revert d
  decide

theorem isSign_of_mem_encodeText {s : String} {c : Char} (h : c ∈ encodeText s) : IsSign c := by
  obtain ⟨d, -, hc⟩ := List.mem_flatMap.mp h
  unfold encodeChar at hc
  split at hc
  · exact .inl (List.mem_singleton.mp hc)
  split at hc
  · rename_i hplain
    rw [List.mem_singleton.mp hc]
    exact .inr (.inr hplain)
  · obtain ⟨b, -, hb⟩ := List.mem_flatMap.mp hc
    simp only [percentOctet, List.mem_cons, List.not_mem_nil, or_false] at hb
    rcases hb with rfl | rfl | rfl
    · exact .inr (.inl rfl)
    · exact .inr (.inr (isPlain_hexCharUpper _))
    · exact .inr (.inr (isPlain_hexCharUpper _))

theorem not_mem_encodeText {d : Char} (h : ¬ IsSign d) (s : String) : d ∉ encodeText s :=
  fun hd => h (isSign_of_mem_encodeText hd)

theorem not_isSign_mark : ¬ IsSign '&' := by unfold IsSign; decide

theorem not_isSign_equals : ¬ IsSign '=' := by unfold IsSign; decide

/-- The character that a sign of a written text stands for by itself. -/
def unplus (c : Char) : Char := if c = '+' then ' ' else c

theorem unplus_of_isPlain {c : Char} (h : isPlain c = true) : unplus c = c := by
  refine if_neg ?_
  rintro rfl
  exact absurd h (by decide)

theorem map_unplus_percentOctet (b : UInt8) : (percentOctet b).map unplus = percentOctet b := by
  simp only [percentOctet, List.map_cons, List.map_nil, unplus_of_isPlain (isPlain_hexCharUpper _)]
  rfl

theorem map_unplus_percentChar (c : Char) : (percentChar c).map unplus = percentChar c := by
  simp only [percentChar, List.map_flatMap, map_unplus_percentOctet]

/-- **A written character is read as its octets**, whatever follows it. -/
theorem percentDecode_encodeChar (c : Char) (rest : List Char) :
    percentDecode ((encodeChar c).map unplus ++ rest) = Text.octetsOfChar c ++ percentDecode rest := by
  unfold encodeChar
  split
  · rename_i hblank
    rw [hblank]
    exact percentDecode_cons (by decide) rest
  split
  · rename_i hplain
    have hne : c ≠ '%' := by
      rintro rfl
      exact absurd hplain (by decide)
    rw [List.map_singleton, unplus_of_isPlain hplain]
    exact percentDecode_cons hne rest
  · rw [map_unplus_percentChar]
    exact percentDecode_flatMap _ rest

theorem percentDecode_encodeChars (cs : List Char) :
    percentDecode ((cs.flatMap encodeChar).map unplus) = Text.octetsOfChars cs := by
  induction cs with
  | nil => rfl
  | cons c cs ih =>
    rw [List.flatMap_cons, List.map_append, percentDecode_encodeChar, ih, Text.octetsOfChars_cons]

/-- **A text is read back from what it is written as.** -/
theorem decodeText_encodeText (s : String) : decodeText (encodeText s) = s := by
  have hoctets : percentDecode ((encodeText s).map unplus) = Text.octetsOfChars s.toList :=
    percentDecode_encodeChars s.toList
  change Text.decodeLossy (percentDecode ((encodeText s).map unplus)) = s
  rw [hoctets, Text.decodeLossy_octetsOfChars, String.ofList_toList]

/-! ## Pairs -/

theorem encodePair_ne_nil (pair : String × String) : encodePair pair ≠ [] := by
  simp [encodePair]

theorem decodePair_encodePair (pair : String × String) : decodePair (encodePair pair) = pair := by
  rw [decodePair, encodePair, Text.splitFirst_append (not_mem_encodeText not_isSign_equals pair.1)]
  simp [decodeText_encodeText]

theorem not_mem_encodePair (pair : String × String) : '&' ∉ encodePair pair := by
  simp [encodePair, not_mem_encodeText not_isSign_mark]

/-- **Names and values are read back from the query that is made of them.** -/
theorem decode_encode (pairs : List (String × String)) : decode (encode pairs) = pairs := by
  cases pairs with
  | nil => rfl
  | cons pair pairs =>
    have hpieces : ∀ p ∈ encodePair pair :: pairs.map encodePair, '&' ∉ p := by
      intro p hp
      rw [← List.map_cons] at hp
      obtain ⟨q, -, rfl⟩ := List.mem_map.mp hp
      exact not_mem_encodePair q
    have hkept : ((pair :: pairs).map encodePair).filter (fun piece => !piece.isEmpty) =
        (pair :: pairs).map encodePair := by
      refine List.filter_eq_self.mpr fun p hp => ?_
      obtain ⟨q, -, rfl⟩ := List.mem_map.mp hp
      simp [encodePair_ne_nil]
    rw [decode, encode, String.toList_ofList, List.map_cons, Text.splitAll_joinWith hpieces,
      ← List.map_cons, hkept, List.map_map]
    simp [Function.comp_def, decodePair_encodePair]

/-- What stands behind a query is read behind it. -/
theorem decode_append (query more : String) :
    decode (query ++ "&" ++ more) = decode query ++ decode more := by
  have hchars : (query ++ "&" ++ more).toList = query.toList ++ '&' :: more.toList := by
    simp [String.toList_append]
  simp [decode, hchars, Text.splitAll_append, List.filter_append]

end Form
end Http

/-! ## Queries of URLs -/

/-- **A URL's query is read as what it was, and then what was added.** -/
theorem Url.decode_withPairs (u : Url) (pairs : List (String × String)) :
    Http.Form.decode ((u.withPairs (Http.Form.encode pairs)).query.getD "") =
      Http.Form.decode (u.query.getD "") ++ pairs := by
  by_cases hnone : (Http.Form.encode pairs).isEmpty = true
  · have hpairs : pairs = [] := by
      rw [← Http.Form.decode_encode pairs, String.isEmpty_iff.mp hnone]
      rfl
    rw [withPairs, if_pos hnone, hpairs, List.append_nil]
  rw [withPairs, if_neg hnone]
  cases hquery : u.query with
  | none => exact Http.Form.decode_encode pairs
  | some query =>
    by_cases hempty : query.isEmpty = true
    · rw [String.isEmpty_iff.mp hempty]
      exact Http.Form.decode_encode pairs
    · simp [hempty, Http.Form.decode_append, Http.Form.decode_encode]

end Bursar
