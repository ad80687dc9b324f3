import Bursar.Proofs.Access.Grants
import Bursar.Proofs.Service.Authority
import Bursar.Proofs.Text.Identifier
import Bursar.Service.Counters

/-!
# Labels of paths

Three kinds of path name a resource by an identifier in them (`ResourcePath`). The service reads
an identifier in four spellings and with blanks around it; a label has `:id` in its place if it is
made of hexadecimal digits and hyphens. So the label of such a path hides the identifier exactly if
this is spelled bare or hyphenated, with no blanks (`ResourcePath.pathLabel_eq_iff`). Any other
spelling stands in the label as it stands in the path (`ResourcePath.pathLabel_of_shown`); the name
`urn:uuid:` and so on of a subsidy stands there whole (`ResourcePath.pathLabel_resourceName`).
-/

namespace Bursar

/-! ## Identifiers in digits and hyphens -/

namespace Text

/-- What an identifier may hold that a label hides. -/
def IsDigitOrHyphen (c : Char) : Prop := isHex c = true ∨ c = '-'

theorem SpellsHex.isHex {c : Char} {d : Fin 16} (h : SpellsHex c d) : isHex c = true := by
  rw [Text.isHex, hexValue?_eq_some_iff.mpr h]
  rfl

theorem IsDigitOrHyphen.ne {c d : Char} (h : IsDigitOrHyphen c) (hd : isHex d = false ∧ d ≠ '-') :
    c ≠ d := by
  rintro rfl
  rcases h with hhex | rfl
  · rw [hd.1] at hhex
    cases hhex
  · exact hd.2 rfl

theorem IsDigitOrHyphen.not_blank {c : Char} (h : IsDigitOrHyphen c) : isBlank c = false := by
  rcases h with hhex | rfl
  · obtain ⟨d, hd⟩ := Option.isSome_iff_exists.mp hhex
    rcases hexValue?_eq_some_iff.mp hd with rfl | rfl
    · revert d
      decide
    · revert d
      decide
  · decide

end Text

namespace Uuid

variable {u : Uuid} {cs : List Char}

/-- The characters spell the identifier with digits and hyphens alone. -/
inductive SpellsInDigits (u : Uuid) : List Char → Prop
  | bare {cs : List Char} (h : u.SpellsDigits cs) : u.SpellsInDigits cs
  | hyphenated {cs : List Char} (h : u.SpellsDigits cs) : u.SpellsInDigits (hyphenate cs)

theorem SpellsDigits.isHex (h : u.SpellsDigits cs) {c : Char} (hc : c ∈ cs) : Text.isHex c = true := by
  obtain ⟨n, hn, rfl⟩ := List.getElem_of_mem hc
  exact (h.get hn (by rwa [← List.Forall₂.length_eq h])).isHex

theorem SpellsInDigits.isDigitOrHyphen (h : u.SpellsInDigits cs) : ∀ c ∈ cs, Text.IsDigitOrHyphen c := by
  intro c hc
  cases h with
  | bare h => exact .inl (h.isHex hc)
  | hyphenated h =>
    rcases mem_hyphenate hc with rfl | hc
    · exact .inr rfl
    · exact .inl (h.isHex hc)

/-- **Braces and `urn:uuid:` are not made of digits and hyphens.** -/
theorem Spells.inDigits (h : u.Spells cs) (hsigns : ∀ c ∈ cs, Text.IsDigitOrHyphen c) :
    u.SpellsInDigits cs := by
  have hcolon : ':' ∉ cs := fun hmem => (hsigns _ hmem).ne (by decide) rfl
  cases h.plainly hcolon with
  | bare hdigits => exact .bare hdigits
  | hyphenated hdigits => exact .hyphenated hdigits
  | braced => exact absurd rfl ((hsigns '\x7b' List.mem_cons_self).ne (by decide))

theorem Spells.length_le (h : u.Spells cs) : 32 ≤ cs.length := by
  cases h with
  | bare h => exact h.length.ge
  | hyphenated h =>
    rw [length_hyphenate h.length]
    decide
  | braced h | resource _ h =>
    have hlength := length_hyphenate h.length
    simp only [List.cons_append, List.length_cons, List.length_append, List.length_nil]
    omega

end Uuid

/-! ## What looks like an identifier -/

theorem looksLikeId_iff {segment : List Char} : looksLikeId segment = true ↔
    (8 ≤ segment.length ∧ ∀ c ∈ segment, Text.IsDigitOrHyphen c) ∨
      (∃ rest, segment = "course-v1:".toList ++ rest) ∨ '+' ∈ segment := by
  simp only [looksLikeId, Text.startsWith, Bool.or_eq_true, Bool.and_eq_true, decide_eq_true_iff,
    List.all_eq_true, Option.isSome_iff_exists, Text.dropLead_eq_some_iff, List.contains_iff_mem,
    Text.IsDigitOrHyphen, or_assoc]

section

variable {raw : String} {u : Uuid} (h : Uuid.parse? (Text.trim raw) = some u)

include h

/-- A text that is read as an identifier holds a spelling of it, and blanks around that. -/
theorem exists_spelling : ∃ before inside after : List Char, raw.toList = before ++ inside ++ after ∧
    (∀ c ∈ before ++ after, Text.isBlank c = true) ∧ u.Spells inside := by
  obtain ⟨before, after, hbefore, hafter, hraw⟩ := Text.surrounds_trim raw
  refine ⟨before.toList, (Text.trim raw).toList, after.toList, ?_, ?_, Uuid.parse?_eq_some_iff.mp h⟩
  · rw [← String.toList_append, ← String.toList_append, ← hraw]
  · intro c hc
    rcases List.mem_append.mp hc with hc | hc
    · exact List.all_eq_true.mp hbefore c hc
    · exact List.all_eq_true.mp hafter c hc

theorem length_of_spelling : 32 ≤ raw.toList.length := by
  obtain ⟨before, inside, after, hraw, -, hspells⟩ := exists_spelling h
  have hinside := hspells.length_le
  rw [hraw, List.length_append, List.length_append]
  omega

/-- A sign that no spelling has, and that is no blank, is not in the text. -/
theorem not_mem_of_spelling {d : Char} (hlower : d.toLower = d) (hsign : d ∉ Uuid.spellingSigns)
    (hblank : Text.isBlank d = false) : d ∉ raw.toList := by
  obtain ⟨before, inside, after, hraw, hblanks, hspells⟩ := exists_spelling h
  intro hmem
  have hinside := Text.not_mem_of_toLower_mem hlower hsign hspells.toLower_mem
  rw [hraw, List.append_assoc, List.mem_append, List.mem_append] at hmem
  have houtside : d ∈ before ++ after := by
    rcases hmem with hbefore | hmem | hafter
    · exact List.mem_append_left _ hbefore
    · exact absurd hmem hinside
    · exact List.mem_append_right _ hafter
  rw [hblanks d houtside] at hblank
  cases hblank

theorem slash_not_mem_of_spelling : '/' ∉ raw.toList :=
  not_mem_of_spelling h (by decide) (by decide) (by decide)

theorem percent_not_mem_of_spelling : '%' ∉ raw.toList :=
  not_mem_of_spelling h (by decide) (by decide) (by decide)

/-- The text is what its segment of a path stands for. -/
theorem decodeSegment?_of_spelling : Route.decodeSegment? raw = some raw := by
  rw [Route.decodeSegment?, Http.percentDecode_of_not_mem (percent_not_mem_of_spelling h),
    Text.decode?_octetsOfChars, String.ofList_toList]

/-- Text in digits and hyphens has no blanks around it. -/
theorem spellsInDigits_of_signs (hsigns : ∀ c ∈ raw.toList, Text.IsDigitOrHyphen c) :
    u.SpellsInDigits raw.toList := by
  have htrim : Text.trim raw = raw := by
    rw [Text.trim, Text.trimChars_of_no_blank fun c hc => (hsigns c hc).not_blank, String.ofList_toList]
  rw [htrim] at h
  exact (Uuid.parse?_eq_some_iff.mp h).inDigits hsigns

/-- **What the service reads as an identifier looks like one exactly if it is spelled in digits and
hyphens.** -/
theorem looksLikeId_iff_spellsInDigits : looksLikeId raw.toList = true ↔ u.SpellsInDigits raw.toList := by
  rw [looksLikeId_iff]
  constructor
  · rintro (⟨-, hsigns⟩ | ⟨rest, hcourse⟩ | hplus)
    · exact spellsInDigits_of_signs h hsigns
    · -- the key of a course run has an `o` in it
      have hmem : 'o' ∈ raw.toList := by
        rw [hcourse]
        exact List.mem_append_left _ (by decide)
      exact absurd hmem (not_mem_of_spelling h (by decide) (by decide) (by decide))
    · exact absurd hplus (not_mem_of_spelling h (by decide) (by decide) (by decide))
  · intro hspelled
    have hlength := length_of_spelling h
    exact .inl ⟨by omega, hspelled.isDigitOrHyphen⟩

end

/-! ## Paths with a text in the place of an identifier -/

namespace Text

theorem joinWith_cons (sep piece : List Char) {pieces : List (List Char)} (h : pieces ≠ []) :
    joinWith sep (piece :: pieces) = piece ++ sep ++ joinWith sep pieces := by
  cases pieces with
  | nil => exact absurd rfl h
  | cons next pieces => rfl

theorem joinWith_append {sep : List Char} {pieces more : List (List Char)} (h : pieces ≠ [])
    (hmore : more ≠ []) :
    joinWith sep (pieces ++ more) = joinWith sep pieces ++ sep ++ joinWith sep more := by
  induction pieces with
  | nil => exact absurd rfl h
  | cons piece pieces ih =>
    by_cases hpieces : pieces = []
    · rw [hpieces, List.singleton_append, joinWith_cons _ _ hmore, joinWith]
    · rw [List.cons_append, joinWith_cons _ _ (by simp [hpieces]), ih hpieces, joinWith_cons _ _ hpieces]
      simp only [List.append_assoc]

/-- A piece that is replaced in a text stands where it stood, if the pieces around it stay. -/
theorem joinWith_map_splitAll {sep : Char} {f : List Char → List Char} {front piece back : List Char}
    (hpiece : sep ∉ piece) (hfront : joinWith [sep] ((splitAll sep front).map f) = front)
    (hback : joinWith [sep] ((splitAll sep back).map f) = back) :
    joinWith [sep] ((splitAll sep (front ++ sep :: (piece ++ sep :: back))).map f) =
      front ++ sep :: (f piece ++ sep :: back) := by
  rw [splitAll_append, splitAll_append, splitAll_of_not_mem hpiece, List.map_append, List.map_append,
    joinWith_append (by simp [splitAll_ne_nil]) (by simp),
    joinWith_append (by simp) (by simp [splitAll_ne_nil]),
    hfront, hback]
  simp [joinWith]

end Text

theorem length_cutLabel (label : List Char) : min labelLimit label.length ≤ (cutLabel label).length := by
  unfold cutLabel
  split
  · rw [List.length_take]
  · exact Nat.min_le_right ..

/-- A path that names a resource by an identifier: a transaction, the reversal of one, or a subsidy. -/
inductive ResourcePath where
  | transaction
  | reversal
  | subsidy
deriving DecidableEq

namespace ResourcePath

/-- What the resource is called when it is not there. -/
def resource : ResourcePath → String
  | .transaction | .reversal => "Transaction"
  | .subsidy => "Subsidy"

/-- What the path names, with a text for the identifier. -/
def route : ResourcePath → String → Route
  | .transaction => .transaction
  | .reversal => .reversal
  | .subsidy => .subsidy

/-- The path in front of the slash before the identifier. -/
def front : ResourcePath → String
  | .transaction | .reversal => "/api/v1/transactions"
  | .subsidy => "/api/v1/subsidies"

/-- The path behind the slash after the identifier. -/
def back : ResourcePath → String
  | .transaction | .subsidy => ""
  | .reversal => "reverse/"

/-- The path with a text for the identifier. -/
def naming (p : ResourcePath) (text : String) : String := p.front ++ "/" ++ text ++ "/" ++ p.back

variable (p : ResourcePath) {text raw : String} {u : Uuid}

theorem toList_naming (text : String) :
    (p.naming text).toList = p.front.toList ++ '/' :: (text.toList ++ '/' :: p.back.toList) := by
  simp [naming, String.toList_append]

/-- **A text without slashes is the segment that the service reads the identifier from.** -/
theorem ofPath?_naming (h : '/' ∉ text.toList) : Route.ofPath? (p.naming text) = some (p.route text) := by
  have hsegments : Text.splitAllString '/' (p.naming text) =
      Text.splitAllString '/' p.front ++ text :: Text.splitAllString '/' p.back := by
    rw [Text.splitAllString, p.toList_naming, Text.splitAll_append, Text.splitAll_append,
      Text.splitAll_of_not_mem h]
    simp [Text.splitAllString]
  have hfront : Text.splitAllString '/' p.front =
      ["", "api", "v1", if p = .subsidy then "subsidies" else "transactions"] := by
    cases p <;> decide
  have hback : Text.splitAllString '/' p.back = if p = .reversal then ["reverse", ""] else [""] := by
    cases p <;> decide
  rw [Route.ofPath?, hsegments, hfront, hback]
  cases p with
  | transaction | reversal | subsidy => simp [Route.ofSegments?, route]

/-- The label has for the text what stands for a segment, before it is cut. -/
theorem pathLabel_naming (h : '/' ∉ text.toList) :
    pathLabel (p.naming text) =
      String.ofList (cutLabel (p.naming (String.ofList (segmentLabel text.toList))).toList) := by
  have hfront : Text.joinWith ['/'] ((Text.splitAll '/' p.front.toList).map segmentLabel) =
    p.front.toList := by
    cases p <;> decide
  have hback : Text.joinWith ['/'] ((Text.splitAll '/' p.back.toList).map segmentLabel) =
    p.back.toList := by
    cases p <;> decide
  rw [pathLabel, pathLabelChars, p.toList_naming, p.toList_naming, String.toList_ofList,
    Text.joinWith_map_splitAll h hfront hback]

theorem cutLabel_hidden : cutLabel (p.naming ":id").toList = (p.naming ":id").toList := by
  cases p <;> decide

/-- **In digits and hyphens an identifier is hidden.** -/
theorem pathLabel_of_hidden (h : Uuid.parse? (Text.trim raw) = some u)
    (hspelled : u.SpellsInDigits raw.toList) :
    pathLabel (p.naming raw) = p.naming ":id" := by
  have hlooks := (looksLikeId_iff_spellsInDigits h).mpr hspelled
  rw [p.pathLabel_naming (slash_not_mem_of_spelling h), segmentLabel, if_pos hlooks, String.ofList_toList,
    cutLabel_hidden, String.ofList_toList]

/-- **In any other spelling an identifier is shown**, as far as the label is not cut. -/
theorem pathLabel_of_shown (h : Uuid.parse? (Text.trim raw) = some u)
    (hspelled : ¬ u.SpellsInDigits raw.toList) :
    pathLabel (p.naming raw) = String.ofList (cutLabel (p.naming raw).toList) := by
  have hlooks := mt (looksLikeId_iff_spellsInDigits h).mp hspelled
  rw [p.pathLabel_naming (slash_not_mem_of_spelling h), segmentLabel, if_neg hlooks, String.ofList_toList]

/-- What is shown is longer than what would hide it. -/
theorem pathLabel_ne_of_shown (h : Uuid.parse? (Text.trim raw) = some u)
    (hspelled : ¬ u.SpellsInDigits raw.toList)
    (q : ResourcePath) : pathLabel (p.naming raw) ≠ q.naming ":id" := by
  intro hlabel
  rw [p.pathLabel_of_shown h hspelled, ← String.toList_inj, String.toList_ofList] at hlabel
  have hhidden : (q.naming ":id").toList.length < min labelLimit (p.front.toList.length + 34) := by
    cases p <;> cases q <;> decide
  have hraw := length_of_spelling h
  have hlength : p.front.toList.length + 34 ≤ (p.naming raw).toList.length := by
    rw [p.toList_naming]
    simp only [List.length_append, List.length_cons]
    omega
  have hcut := length_cutLabel (p.naming raw).toList
  rw [hlabel] at hcut
  omega

/-- **The label of a path hides the identifier in it exactly if this is spelled in digits and hyphens.** -/
theorem pathLabel_eq_iff (h : Uuid.parse? (Text.trim raw) = some u) :
    pathLabel (p.naming raw) = p.naming ":id" ↔ u.SpellsInDigits raw.toList := by
  constructor
  · intro hlabel
    by_contra hspelled
    exact p.pathLabel_ne_of_shown h hspelled p hlabel
  · exact p.pathLabel_of_hidden h

end ResourcePath

/-! ## An identifier as the name of a resource -/

namespace Uuid

/-- The name of the resource that an identifier is of. -/
def resourceName (u : Uuid) : String := "urn:uuid:" ++ u.toString

theorem toList_resourceName (u : Uuid) : u.resourceName.toList = urnLead ++ u.toChars := by
  have hchars : u.toString.toList = u.toChars := String.toList_ofList
  rw [resourceName, String.toList_append, hchars]
  unfold urnLead
  rfl

theorem spells_resourceName (u : Uuid) : u.Spells u.resourceName.toList := by
  have hlead : urnLead.map Char.toLower = urnLead := by decide
  rw [toList_resourceName]
  exact .resource hlead (parseSimple?_eq_some_iff.mp u.parseSimple?_simpleChars)

theorem parse?_resourceName (u : Uuid) : parse? (Text.trim u.resourceName) = some u := by
  rw [Text.trim, Text.trimChars_of_no_blank u.spells_resourceName.not_blank, String.ofList_toList,
    parse?_eq_some_iff]
  exact u.spells_resourceName

theorem not_spellsInDigits_resourceName (u : Uuid) : ¬ u.SpellsInDigits u.resourceName.toList := by
  intro hspelled
  have hmem : ':' ∈ u.resourceName.toList := by
    rw [toList_resourceName]
    exact List.mem_append_left _ (by decide)
  exact (hspelled.isDigitOrHyphen _ hmem).ne (by decide) rfl

end Uuid

/-- As many octets as characters, if each character has one. -/
theorem cutLabel_of_short {label : List Char} (hone : ∀ c ∈ label, c.utf8Size = 1)
    (h : label.length ≤ labelLimit) :
    cutLabel label = label := by
  have hsum : label.foldr (fun c n => c.utf8Size + n) 0 = label.length := by
    clear h
    induction label with
    | nil => rfl
    | cons c cs ih =>
      rw [List.foldr_cons, ih fun c hc => hone c (List.mem_cons_of_mem _ hc), hone c List.mem_cons_self,
        List.length_cons, Nat.add_comm]
  rw [cutLabel, hsum, if_neg (by omega)]

theorem Text.utf8Size_hexChar (d : Fin 16) : (hexChar d).utf8Size = 1 := by
  revert d
  decide

/-- The path of a subsidy by its name has just as many octets as a label may take. -/
theorem ResourcePath.cutLabel_resourceName (u : Uuid) :
    cutLabel (subsidy.naming u.resourceName).toList = (subsidy.naming u.resourceName).toList := by
  rw [toList_naming, Uuid.toList_resourceName]
  refine cutLabel_of_short (fun c hc => ?_) ?_
  · have hcases : c ∈ subsidy.front.toList ++ '/' :: Uuid.urnLead ∨ c ∈ u.toChars := by
      simp only [back, String.toList_empty, List.mem_append, List.mem_cons] at hc ⊢
      tauto
    have hfixed : ∀ c ∈ subsidy.front.toList ++ '/' :: Uuid.urnLead, c.utf8Size = 1 :=
      Text.forall_mem_of_all (by decide)
    rcases hcases with hc | hc
    · exact hfixed c hc
    · rcases Uuid.isSign_of_mem_toChars hc with rfl | ⟨d, rfl⟩
      · decide
      · exact Text.utf8Size_hexChar d
  · have hfront : subsidy.front.toList.length = 17 := by decide
    have hlead : Uuid.urnLead.length = 9 := by decide
    have hchars := u.length_toChars
    simp only [List.length_append, List.length_cons, hfront, hlead, hchars]
    decide

/-- **By its name every subsidy has a label of its own.** -/
theorem ResourcePath.pathLabel_resourceName (u : Uuid) :
    pathLabel (subsidy.naming u.resourceName) = subsidy.naming u.resourceName := by
  rw [subsidy.pathLabel_of_shown u.parse?_resourceName u.not_spellsInDigits_resourceName,
    cutLabel_resourceName,
    String.ofList_toList]

theorem ResourcePath.naming_resourceName_injective :
    Function.Injective fun u : Uuid => subsidy.naming u.resourceName := by
  intro u v huv
  simp only [← String.toList_inj, toList_naming, Uuid.toList_resourceName] at huv
  have hchars : u.toChars = v.toChars := by simpa using huv
  exact Uuid.toString_injective (congrArg String.ofList hchars)

end Bursar
