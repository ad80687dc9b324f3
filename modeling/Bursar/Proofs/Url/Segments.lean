import Bursar.Proofs.Http.Form
import Bursar.Proofs.Text.LetterCase
import Mathlib.Data.List.Induction

/-!
# Texts as segments

A text that is put behind a path stands there as one segment, from which the text is read back
by undoing the percent-encoding. A few texts do not: no URL holds a tab or the end of a line,
`.` and `..` name places, and behind the path `/` an empty segment is none. All others do
(`Nameable`), so that the segments of a path below a base are those of the base and then the
texts, one by one, exactly if each text is one of these (`appendSegments_eq_iff`).

The argument from the segments back to the texts is one of lengths: a text adds one segment at
most, so that each has to add one if none is to be missing in the end.
-/

namespace Bursar.Url

open Http (percentDecode)

variable {kind : SchemeKind} {front base : List (List Char)} {segment : List Char} {text : String}
  {texts : List String}

/-! ## What a segment stands for -/

/-- A text is read back from its escaped form, if marks of octets are escaped. -/
theorem percentDecode_escapeWith {escapes : Char → Bool} (hmark : escapes '%' = true) (cs : List Char) :
    percentDecode (escapeWith escapes cs) = Text.octetsOfChars cs := by
  induction cs with
  | nil => rfl
  | cons c cs ih =>
    have hcons : escapeWith escapes (c :: cs) =
        (if escapes c then Http.percentChar c else [c]) ++ escapeWith escapes cs := rfl
    rw [hcons, Text.octetsOfChars_cons]
    by_cases hc : escapes c = true
    · rw [if_pos hc, Http.percentChar, Http.percentDecode_flatMap, ih]
    · have hne : c ≠ '%' := by
        rintro rfl
        exact hc hmark
      rw [if_neg hc, List.singleton_append, Http.percentDecode_cons hne, ih]

/-- The octets of an encoded text are those of what is left of it without tabs and line ends. -/
theorem percentDecode_encodeSegment (kind : SchemeKind) (text : String) :
    percentDecode (encodeSegment kind text) =
      Text.octetsOfChars (text.toList.filter fun c => !isLineMark c) := by
  refine percentDecode_escapeWith ?_ _
  simp [escapesInSegment]

theorem octetsOfChars_injective : Function.Injective Text.octetsOfChars := by
  intro cs ds h
  have hread := congrArg Text.decode? h
  rw [Text.decode?_octetsOfChars, Text.decode?_octetsOfChars] at hread
  exact String.ofList_injective (Option.some.inj hread)

theorem octetsOfChar_ne_nil (c : Char) : Text.octetsOfChar c ≠ [] := by
  simp only [Text.octetsOfChar]
  split_ifs <;> simp

theorem percentDecode_eq_nil_iff : percentDecode segment = [] ↔ segment = [] := by
  constructor
  · intro h
    unfold percentDecode at h
    split at h
    · rfl
    · split at h
      · cases h
      · exact absurd (List.append_eq_nil_iff.mp h).1 (octetsOfChar_ne_nil _)
    · exact absurd (List.append_eq_nil_iff.mp h).1 (octetsOfChar_ne_nil _)
  · rintro rfl
    rfl

theorem lowerAscii_eq_iff {word : String} :
    Text.lowerAscii (String.ofList segment) = word ↔ segment.map Char.toLower = word.toList := by
  rw [Text.lowerAscii, String.toList_ofList, ← String.toList_inj, String.toList_ofList]

/-- The segment is in lower case the word behind one dot, or behind what a dot is percent-encoded as. -/
def FollowsDot (segment word : List Char) : Prop :=
  ∃ rest, rest.map Char.toLower = word ∧ percentDecode segment = Text.octetsOf "." ++ percentDecode rest

theorem followsDot_of_dot {word : List Char} (h : segment.map Char.toLower = '.' :: word) :
    FollowsDot segment word := by
  obtain ⟨c, rest, rfl, hc, hrest⟩ := List.map_eq_cons_iff.mp h
  obtain rfl : c = '.' := Text.eq_of_toLower_eq (by decide) hc
  exact ⟨rest, hrest, Http.percentDecode_cons (by decide) rest⟩

theorem followsDot_of_mark {word : List Char} (h : segment.map Char.toLower = '%' :: '2' :: 'e' :: word) :
    FollowsDot segment word := by
  obtain ⟨mark, behind, rfl, hmark, h⟩ := List.map_eq_cons_iff.mp h
  obtain ⟨high, behind, rfl, hhigh, h⟩ := List.map_eq_cons_iff.mp h
  obtain ⟨low, rest, rfl, hlow, hrest⟩ := List.map_eq_cons_iff.mp h
  obtain rfl : mark = '%' := Text.eq_of_toLower_eq (by decide) hmark
  obtain rfl : high = '2' := Text.eq_of_toLower_eq (by decide) hhigh
  refine ⟨rest, hrest, ?_⟩
  -- only the last digit is a letter, in either case
  rcases Text.toLower_eq_iff.mp hlow with ⟨-, rfl⟩ | ⟨-, -, hcapital⟩
  · rfl
  · have hvalues : 'e'.toNat = 'E'.toNat + 32 := rfl
    obtain rfl : low = 'E' := Char.toNat_inj.mp (by omega)
    rfl

theorem FollowsDot.percentDecode_eq (h : FollowsDot segment []) :
    percentDecode segment = Text.octetsOf "." := by
  obtain ⟨rest, hrest, hdecode⟩ := h
  obtain rfl := List.map_eq_nil_iff.mp hrest
  exact hdecode

/-- What means the place itself stands for one dot. -/
theorem percentDecode_of_isHere (h : isHere segment = true) :
    percentDecode segment = Text.octetsOf "." := by
  simp only [isHere, List.contains_cons, List.contains_nil, Bool.or_false, Bool.or_eq_true, beq_iff_eq,
    lowerAscii_eq_iff] at h
  rcases h with h | h
  · exact (followsDot_of_dot h).percentDecode_eq
  · exact (followsDot_of_mark h).percentDecode_eq

/-- What means one place up stands for two dots. -/
theorem percentDecode_of_isUp (h : isUp segment = true) : percentDecode segment = Text.octetsOf ".." := by
  have hsecond {word : List Char} (hfirst : FollowsDot segment word)
      (hword : ∀ rest : List Char, rest.map Char.toLower = word → FollowsDot rest []) :
      percentDecode segment = Text.octetsOf ".." := by
    obtain ⟨rest, hrest, hdecode⟩ := hfirst
    rw [hdecode, (hword rest hrest).percentDecode_eq]
    rfl
  simp only [isUp, List.contains_cons, List.contains_nil, Bool.or_false, Bool.or_eq_true, beq_iff_eq,
    lowerAscii_eq_iff] at h
  rcases h with h | h | h | h
  · exact hsecond (followsDot_of_dot h) fun _ => followsDot_of_dot
  · exact hsecond (followsDot_of_mark h) fun _ => followsDot_of_dot
  · exact hsecond (followsDot_of_dot h) fun _ => followsDot_of_mark
  · exact hsecond (followsDot_of_mark h) fun _ => followsDot_of_mark

/-! ## Texts that can be segments -/

/-- The text can be a segment: it holds no tab and no end of a line, and is neither of the two that name
places. -/
structure Nameable (text : String) : Prop where
  no_mark : ∀ c ∈ text.toList, isLineMark c = false
  not_here : text ≠ "."
  not_up : text ≠ ".."

instance : Decidable (Nameable text) :=
  decidable_of_iff ((text.toList.all fun c => !isLineMark c) = true ∧ text ≠ "." ∧ text ≠ "..")
    ⟨fun h => ⟨by simpa using h.1, h.2.1, h.2.2⟩,
      fun h => ⟨by simpa using h.no_mark, h.not_here, h.not_up⟩⟩

/-- **A text is read back from its segment**, if it holds no tab and no end of a line. -/
theorem percentDecode_encodeSegment_eq_iff : percentDecode (encodeSegment kind text) = Text.octetsOf text ↔
    ∀ c ∈ text.toList, isLineMark c = false := by
  rw [percentDecode_encodeSegment, Text.octetsOf, octetsOfChars_injective.eq_iff, List.filter_eq_self]
  simp only [Bool.not_eq_true']

theorem Nameable.percentDecode_encodeSegment (h : Nameable text) (kind : SchemeKind) :
    percentDecode (encodeSegment kind text) = Text.octetsOf text :=
  percentDecode_encodeSegment_eq_iff.mpr h.no_mark

theorem Nameable.isUp_encodeSegment (h : Nameable text) (kind : SchemeKind) :
    isUp (encodeSegment kind text) = false := by
  refine eq_false_of_ne_true fun hup => h.not_up (Text.octetsOf_injective ?_)
  rw [← h.percentDecode_encodeSegment kind, percentDecode_of_isUp hup]

theorem Nameable.isHere_encodeSegment (h : Nameable text) (kind : SchemeKind) :
    isHere (encodeSegment kind text) = false := by
  refine eq_false_of_ne_true fun hhere => h.not_here (Text.octetsOf_injective ?_)
  rw [← h.percentDecode_encodeSegment kind, percentDecode_of_isHere hhere]

theorem nameable_empty : Nameable "" := by decide

/-! ## One more segment -/

/-- **A text that can be a segment becomes one.** -/
theorem Nameable.pushSegment (h : Nameable text) (hfront : front ≠ [[]]) :
    Url.pushSegment .special front text = front ++ [encodeSegment .special text] := by
  have hplain : ¬ (text = "." ∨ text = "..") := by
    rintro (hhere | hup)
    · exact h.not_here hhere
    · exact h.not_up hup
  simp [Url.pushSegment, hplain, openSegments, hfront, putSegment, h.isUp_encodeSegment,
    h.isHere_encodeSegment, putPlain, settle]

theorem openSegments_openSegments (front : List (List Char)) :
    openSegments (openSegments front) = openSegments front := by
  by_cases h : front = [[]]
  · rw [h]
    rfl
  · have hopen : openSegments front = front := if_neg h
    rw [hopen, hopen]

/-- What is behind an opened path is the same as behind the path itself, once a segment is there. -/
theorem foldl_openSegments (kind : SchemeKind) (front : List (List Char)) (texts : List String) :
    (texts ++ [""]).foldl (pushSegment kind) (openSegments front) =
      (texts ++ [""]).foldl (pushSegment kind) front := by
  induction texts generalizing front with
  | nil => simp [pushSegment, openSegments_openSegments]
  | cons text texts ih =>
    by_cases hplace : text = "." ∨ text = ".."
    · simpa [pushSegment, hplace] using ih front
    · simp [pushSegment, hplace, openSegments_openSegments]

/-! ## How many segments there are -/

/-- The segments are the same, or there are fewer. -/
def StaysOrShrinks (front after : List (List Char)) : Prop := after = front ∨ after.length < front.length

theorem StaysOrShrinks.length_le {after : List (List Char)} (h : StaysOrShrinks front after) :
    after.length ≤ front.length := by
  rcases h with rfl | hless
  · exact Nat.le_refl _
  · omega

theorem StaysOrShrinks.trans {after later : List (List Char)} (h : StaysOrShrinks front after)
    (h' : StaysOrShrinks after later) : StaysOrShrinks front later := by
  rcases h' with rfl | hless
  · exact h
  · have hle := h.length_le
    exact .inr (by omega)

theorem staysOrShrinks_openSegments (front : List (List Char)) :
    StaysOrShrinks front (openSegments front) := by
  by_cases h : front = [[]]
  · rw [h]
    exact .inr Nat.one_pos
  · exact .inl (if_neg h)

theorem staysOrShrinks_dropUp (front : List (List Char)) : StaysOrShrinks front (dropUp front) := by
  unfold dropUp
  split_ifs
  · exact .inl rfl
  · cases front with
    | nil => exact .inl rfl
    | cons segment front => exact .inr (by simp)

/-- What is left of the segments in front of the text. -/
def frontOf (front : List (List Char)) (text : String) : List (List Char) :=
  if isUp (encodeSegment .special text) then dropUp (openSegments front) else openSegments front

/-- What the text becomes behind them. -/
def lastOf (text : String) : List Char :=
  if isUp (encodeSegment .special text) ∨ isHere (encodeSegment .special text) then []
  else encodeSegment .special text

/-- A text is passed over, or something is behind what is left of the segments. -/
theorem pushSegment_special (front : List (List Char)) (text : String) : pushSegment .special front text =
    if text = "." ∨ text = ".." then front else frontOf front text ++ [lastOf text] := by
  simp only [pushSegment, settle, reduceCtorEq, if_false, putSegment, putPlain, false_and, frontOf, lastOf]
  split_ifs <;> simp_all

theorem staysOrShrinks_frontOf (front : List (List Char)) (text : String) :
    StaysOrShrinks front (frontOf front text) := by
  have hopen := staysOrShrinks_openSegments front
  unfold frontOf
  split_ifs
  · exact hopen.trans (staysOrShrinks_dropUp _)
  · exact hopen

theorem length_pushSegment_le (front : List (List Char)) (text : String) :
    (pushSegment .special front text).length ≤ front.length + 1 := by
  have hfront := (staysOrShrinks_frontOf front text).length_le
  rw [pushSegment_special]
  split_ifs
  · omega
  · rw [List.length_append, List.length_singleton]
    omega

theorem length_foldl_pushSegment_le (front : List (List Char)) (texts : List String) :
    (texts.foldl (pushSegment .special) front).length ≤ front.length + texts.length := by
  induction texts generalizing front with
  | nil => exact Nat.le_refl _
  | cons text texts ih =>
    have hfirst := length_pushSegment_le front text
    have hrest := ih (pushSegment .special front text)
    simp only [List.foldl_cons, List.length_cons]
    omega

/-- What stands for the text is its segment, so that the text holds no tab and no end of a line. -/
theorem no_mark_of_lastOf (h : percentDecode (lastOf text) = Text.octetsOf text) :
    ∀ c ∈ text.toList, isLineMark c = false := by
  unfold lastOf at h
  split_ifs at h
  · have hnothing : Text.octetsOf "" = Text.octetsOf text := h
    rw [← Text.octetsOf_injective hnothing]
    exact nameable_empty.no_mark
  · exact percentDecode_encodeSegment_eq_iff.mp h

/-- A text that adds a segment adds it at the end, and where that stands for the text, it can be a
segment. -/
theorem exists_last_of_length (h : (pushSegment .special front text).length = front.length + 1) :
    ∃ last, pushSegment .special front text = front ++ [last] ∧
      (percentDecode last = Text.octetsOf text → Nameable text) := by
  rw [pushSegment_special] at h ⊢
  split_ifs at h ⊢ with hplace
  · omega
  obtain ⟨hhere, hup⟩ := not_or.mp hplace
  rw [List.length_append, List.length_singleton] at h
  have hfront : frontOf front text = front := by
    rcases staysOrShrinks_frontOf front text with hstays | hless
    · exact hstays
    · omega
  exact ⟨lastOf text, by rw [hfront], fun hdecode => ⟨no_mark_of_lastOf hdecode, hhere, hup⟩⟩

/-- **Segments that stand for texts are of texts that can be segments.** -/
theorem nameable_of_foldl {places : List (List UInt8)} (hlength : places.length = front.length)
    (h : (texts.foldl (pushSegment .special) front).map percentDecode =
      places ++ texts.map Text.octetsOf) :
    ∀ text ∈ texts, Nameable text := by
  induction texts using List.reverseRecOn with
  | nil => nofun
  | append_singleton texts text ih =>
    rw [List.foldl_append, List.foldl_cons, List.foldl_nil] at h
    have hle := length_foldl_pushSegment_le front texts
    have hlast := length_pushSegment_le (texts.foldl (pushSegment .special) front) text
    have hall := congrArg List.length h
    simp only [List.length_map, List.length_append, List.length_singleton] at hall
    have hone : (pushSegment .special (texts.foldl (pushSegment .special) front) text).length =
        (texts.foldl (pushSegment .special) front).length + 1 := by omega
    obtain ⟨last, hpush, hnameable⟩ := exists_last_of_length hone
    rw [hpush, List.map_append, List.map_append, ← List.append_assoc] at h
    obtain ⟨hfront, htext⟩ := List.append_inj' h rfl
    intro t ht
    rcases List.mem_append.mp ht with ht | ht
    · exact ih hfront t ht
    · rw [List.mem_singleton.mp ht]
      exact hnameable (List.head_eq_of_cons_eq htext)

theorem forall_nameable_concat (h : ∀ text ∈ texts, Nameable text) :
    ∀ text ∈ texts ++ [""], Nameable text := by
  intro text htext
  rcases List.mem_append.mp htext with htext | htext
  · exact h text htext
  · rw [List.mem_singleton.mp htext]
    exact nameable_empty

/-- The texts are read back from their segments. -/
theorem map_percentDecode_encodeSegment (h : ∀ text ∈ texts, Nameable text) :
    ((texts ++ [""]).map (encodeSegment kind)).map percentDecode = (texts ++ [""]).map Text.octetsOf := by
  rw [List.map_map]
  refine List.map_congr_left fun text htext => ?_
  exact (forall_nameable_concat h text htext).percentDecode_encodeSegment kind

/-- Behind a path with a segment all texts that can be segments become segments. -/
theorem foldl_of_nameable (h : ∀ text ∈ texts, Nameable text) (hne : front ≠ []) (hfront : front ≠ [[]]) :
    texts.foldl (pushSegment .special) front = front ++ texts.map (encodeSegment .special) := by
  induction texts generalizing front with
  | nil => simp
  | cons text texts ih =>
    obtain ⟨htext, htexts⟩ := List.forall_mem_cons.mp h
    have hlonger : front ++ [encodeSegment .special text] ≠ [[]] := by
      intro hone
      have hlength := congrArg List.length hone
      have hpos := List.length_pos_iff.mpr hne
      simp only [List.length_append, List.length_singleton] at hlength
      omega
    rw [List.foldl_cons, htext.pushSegment hfront, ih htexts (by simp) hlonger, List.map_cons,
      List.append_assoc, List.singleton_append]

theorem Nameable.encodeSegment_ne_nil (h : Nameable text) (hne : text ≠ "") (kind : SchemeKind) :
    encodeSegment kind text ≠ [] := by
  intro hempty
  have hoctets : Text.octetsOf "" = Text.octetsOf text := by
    rw [← h.percentDecode_encodeSegment kind, hempty]
    rfl
  exact hne (Text.octetsOf_injective hoctets).symm

theorem openSegments_ne (front : List (List Char)) : openSegments front ≠ [[]] := by
  unfold openSegments
  split_ifs with h
  · simp
  · exact h

theorem appendSegments_eq_foldl (kind : SchemeKind) (base : List (List Char)) (texts : List String) :
    appendSegments kind base texts =
      (texts ++ [""]).foldl (pushSegment kind) (openSegments (dropEmptyLast base)) :=
  (foldl_openSegments kind (dropEmptyLast base) texts).symm

/-- **Texts that can be segments become segments, one by one**, unless the first is an empty one
behind `/`. -/
theorem appendSegments_of_nameable (h : ∀ text ∈ texts, Nameable text)
    (hhead : openSegments (dropEmptyLast base) = [] → texts.head? ≠ some "") :
    appendSegments .special base texts =
      openSegments (dropEmptyLast base) ++ (texts ++ [""]).map (encodeSegment .special) := by
  rw [appendSegments_eq_foldl]
  have hopen := openSegments_ne (dropEmptyLast base)
  generalize openSegments (dropEmptyLast base) = front at hhead hopen ⊢
  by_cases hfront : front = []
  · subst hfront
    cases texts with
    | nil => rfl
    | cons text texts =>
      obtain ⟨htext, htexts⟩ := List.forall_mem_cons.mp h
      have hne : text ≠ "" := fun hempty => hhead rfl (by rw [hempty, List.head?_cons])
      have hsegment : [encodeSegment .special text] ≠ [[]] := by
        simpa using htext.encodeSegment_ne_nil hne .special
      rw [List.cons_append, List.foldl_cons, htext.pushSegment hopen, List.nil_append,
        foldl_of_nameable (forall_nameable_concat htexts) (by simp) hsegment]
      rfl
  · exact foldl_of_nameable (forall_nameable_concat h) hfront hopen

/-! ## Below a base -/

/-- The places of a path without an empty last one. -/
def withoutEmptyLast {α : Type} (places : List (List α)) : List (List α) :=
  if places.getLast?.any List.isEmpty then places.dropLast else places

theorem withoutEmptyLast_concat {α : Type} (init : List (List α)) (last : List α) :
    withoutEmptyLast (init ++ [last]) = if last.isEmpty then init else init ++ [last] := by
  simp [withoutEmptyLast]

/-- The path of a base is opened by leaving out an empty last segment, except that of `//`. -/
theorem openSegments_dropEmptyLast (hslashes : base ≠ [[], []]) :
    openSegments (dropEmptyLast base) = withoutEmptyLast base := by
  rcases List.eq_nil_or_concat base with rfl | ⟨init, last, rfl⟩
  · rfl
  rw [List.concat_eq_append, withoutEmptyLast_concat]
  cases last with
  | nil =>
    by_cases hinit : init = []
    · subst hinit
      rfl
    · have hpos := List.length_pos_iff.mpr hinit
      have hdrop : dropEmptyLast (init ++ [[]]) = init := by
        rw [dropEmptyLast, if_pos, List.dropLast_concat]
        exact ⟨by simpa using hpos, List.getLast?_concat⟩
      have hopen : init ≠ [[]] := by
        rintro rfl
        exact hslashes rfl
      rw [hdrop, openSegments, if_neg hopen]
      rfl
  | cons c cs =>
    have hone : init ++ [c :: cs] ≠ [[]] := by
      intro hone
      simpa using congrArg List.getLast? hone
    simp [dropEmptyLast, openSegments, hone]

theorem withoutEmptyLast_map (base : List (List Char)) :
    withoutEmptyLast (base.map percentDecode) = (withoutEmptyLast base).map percentDecode := by
  rcases List.eq_nil_or_concat base with rfl | ⟨init, last, rfl⟩
  · rfl
  rw [List.concat_eq_append, List.map_append, List.map_singleton, withoutEmptyLast_concat,
    withoutEmptyLast_concat]
  have hempty : (percentDecode last).isEmpty = last.isEmpty := by
    rw [Bool.eq_iff_iff, List.isEmpty_iff, List.isEmpty_iff, percentDecode_eq_nil_iff]
  rw [hempty]
  split_ifs
  · rfl
  · rw [List.map_append, List.map_singleton]

theorem withoutEmptyLast_eq_nil (hbase : base ≠ []) (h : withoutEmptyLast base = []) : base = [[]] := by
  rcases List.eq_nil_or_concat base with rfl | ⟨init, last, rfl⟩
  · exact absurd rfl hbase
  rw [List.concat_eq_append, withoutEmptyLast_concat] at h
  split_ifs at h with hlast
  · rw [h, List.isEmpty_iff.mp hlast]
    rfl
  · simp at h

/-- **The segments of a path below a base** stand for the places of the base and then for the texts,
one by one, exactly if the texts can be segments, the path of the base is not two slashes and
nothing else, and the first text is not an empty one behind a single slash. -/
theorem appendSegments_eq_iff (hbase : base ≠ []) :
    (appendSegments .special base texts).map percentDecode =
        withoutEmptyLast (base.map percentDecode) ++ (texts ++ [""]).map Text.octetsOf ↔
      (∀ text ∈ texts, Nameable text) ∧ base ≠ [[], []] ∧ (base = [[]] → texts.head? ≠ some "") := by
  rw [withoutEmptyLast_map]
  constructor
  · intro h
    have hlength := congrArg List.length h
    simp only [List.length_map, List.length_append, List.length_singleton] at hlength
    have hslashes : base ≠ [[], []] := by
      rintro rfl
      have hle := length_foldl_pushSegment_le [] (texts ++ [""])
      rw [appendSegments_eq_foldl] at hlength
      simp [dropEmptyLast, openSegments, withoutEmptyLast] at hlength hle
      omega
    have hopen := openSegments_dropEmptyLast hslashes
    refine ⟨?_, hslashes, ?_⟩
    · rw [appendSegments_eq_foldl, hopen] at h
      have hall := nameable_of_foldl (List.length_map _) h
      exact fun text htext => hall text (List.mem_append_left _ htext)
    · rintro rfl hhead
      obtain ⟨rest, rfl⟩ := List.head?_eq_some_iff.mp hhead
      -- the empty text behind the single slash adds nothing
      have hskip : appendSegments .special [[]] ("" :: rest) =
          (rest ++ [""]).foldl (pushSegment .special) [] :=
        foldl_openSegments .special [[]] rest |>.symm
      have hle := length_foldl_pushSegment_le [] (rest ++ [""])
      rw [hskip] at hlength
      simp [withoutEmptyLast] at hlength hle
      omega
  · rintro ⟨hall, hslashes, hhead⟩
    have hopen := openSegments_dropEmptyLast hslashes
    rw [appendSegments_of_nameable hall, hopen, List.map_append, map_percentDecode_encodeSegment hall]
    rw [hopen]
    exact fun hnil => hhead (withoutEmptyLast_eq_nil hbase hnil)

end Bursar.Url
