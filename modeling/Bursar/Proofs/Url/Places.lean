import Bursar.Proofs.Table
import Bursar.Proofs.Url.Segments
import Bursar.Url.Reading

/-!
# The places of a path

Who gets a URL knows its path as a text only: it is cut at the slashes, and the percent-encoding
of each piece is undone (`Path.places`). No segment holds a slash, neither one that was read
(`isCut_readPath`) nor one that a text became (`IsCut.appendSegments`), so these places are what
the segments stand for. Below a base with a host they are those of the base and then the texts,
one by one, exactly if each of these can be a segment (`below?_names_iff`).
-/

namespace Bursar.Url

open Http (percentDecode)

variable {kind : SchemeKind} {scheme : String} {front segments : List (List Char)} {segment cs : List Char}
  {base u : Url} {texts : List String}

/-! ## Segments without slashes -/

/-- No segment holds a slash. -/
def IsCut (segments : List (List Char)) : Prop := ∀ segment ∈ segments, '/' ∉ segment

theorem IsCut.append {more : List (List Char)} (h : IsCut segments) (h' : IsCut more) :
    IsCut (segments ++ more) := by
  intro segment hsegment
  rcases List.mem_append.mp hsegment with hsegment | hsegment
  · exact h segment hsegment
  · exact h' segment hsegment

theorem isCut_singleton (h : '/' ∉ segment) : IsCut [segment] := by
  intro s hs
  rwa [List.mem_singleton.mp hs]

theorem isCut_place : IsCut [[]] := isCut_singleton List.not_mem_nil

theorem IsCut.dropUp (h : IsCut front) : IsCut (dropUp front) := by
  unfold Url.dropUp
  split
  · exact h
  · exact fun segment hsegment => h segment (List.dropLast_subset _ hsegment)

theorem IsCut.openSegments (h : IsCut segments) : IsCut (openSegments segments) := by
  unfold Url.openSegments
  split
  · nofun
  · exact h

theorem IsCut.dropEmptyLast (h : IsCut segments) : IsCut (dropEmptyLast segments) := by
  unfold Url.dropEmptyLast
  split
  · exact fun segment hsegment => h segment (List.dropLast_subset _ hsegment)
  · exact h

theorem putPlain_special (front : List (List Char)) (segment : List Char) :
    putPlain .special front segment = front ++ [segment] := by
  simp [putPlain]

theorem settle_special (segments : List (List Char)) : settle .special segments = segments := by
  simp [settle]

theorem IsCut.putSegment (h : IsCut front) (hsegment : '/' ∉ segment) :
    IsCut (putSegment .special front segment) := by
  unfold Url.putSegment
  split
  · exact h.dropUp.append isCut_place
  · split
    · exact h.append isCut_place
    · rw [putPlain_special]
      exact h.append (isCut_singleton hsegment)

theorem isCut_readSegments (hfront : IsCut front) (h : IsCut segments) :
    IsCut (readSegments .special front segments) := by
  induction segments generalizing front with
  | nil => exact hfront
  | cons segment rest ih =>
    have hsegment := h segment List.mem_cons_self
    cases rest with
    | nil => exact hfront.putSegment hsegment
    | cons next rest =>
      have hrest : IsCut (next :: rest) := fun s hs => h s (List.mem_cons_of_mem _ hs)
      unfold readSegments
      split
      · exact ih hfront.dropUp hrest
      · split
        · exact ih hfront hrest
        · rw [putPlain_special]
          exact ih (hfront.append (isCut_singleton hsegment)) hrest

/-- A segment is left over at the end. -/
theorem readSegments_ne_nil (front : List (List Char)) (h : segments ≠ []) :
    readSegments .special front segments ≠ [] := by
  induction segments generalizing front with
  | nil => exact absurd rfl h
  | cons segment rest ih =>
    cases rest with
    | nil =>
      unfold readSegments putSegment
      split
      · simp
      · split <;> simp [putPlain_special]
    | cons next rest =>
      unfold readSegments
      split
      · exact ih _ (by simp)
      · split <;> exact ih _ (by simp)

/-! ## Escapes -/

theorem slash_not_mem_percentChar (c : Char) : '/' ∉ Http.percentChar c := by
  have hdigit : ∀ d : Fin 16, '/' ≠ Text.hexCharUpper d := by decide
  intro hmem
  obtain ⟨b, -, hb⟩ := List.mem_flatMap.mp hmem
  simp [Http.percentOctet, hdigit] at hb

theorem slash_not_mem_escapeWith {escapes : Char → Bool} (h : escapes '/' = true ∨ '/' ∉ cs) :
    '/' ∉ escapeWith escapes cs := by
  intro hmem
  obtain ⟨c, hc, hslash⟩ := List.mem_flatMap.mp hmem
  split at hslash
  · exact slash_not_mem_percentChar c hslash
  · rename_i hplain
    obtain rfl := List.mem_singleton.mp hslash
    rcases h with hescaped | hnot
    · exact hplain hescaped
    · exact hnot hc

theorem slash_not_mem_encodeSegment (kind : SchemeKind) (text : String) : '/' ∉ encodeSegment kind text :=
  slash_not_mem_escapeWith (.inl (by simp [escapesInSegment]))

theorem isCut_splitAll (cs : List Char) : IsCut (Text.splitAll '/' cs) := by
  induction cs with
  | nil => exact isCut_place
  | cons c cs ih =>
    unfold Text.splitAll
    split
    · exact isCut_place.append ih
    · rename_i hc
      split
      · exact isCut_singleton (by simpa using Ne.symm hc)
      · rename_i piece pieces hpieces
        rw [hpieces] at ih
        intro s hs
        rcases List.mem_cons.mp hs with rfl | hs
        · exact List.not_mem_cons_of_ne_of_not_mem (Ne.symm hc) (ih piece List.mem_cons_self)
        · exact ih s (List.mem_cons_of_mem _ hs)

/-- **What is read of a path has no slash in its segments**, and there is a segment. -/
theorem isCut_readPath (cs : List Char) : IsCut (readPath .special cs) ∧ readPath .special cs ≠ [] := by
  have hread (ds : List Char) :
      IsCut (readSegments .special [] ((Text.splitAll '/' ds).map (escapeWith escapesInPath))) ∧
        readSegments .special [] ((Text.splitAll '/' ds).map (escapeWith escapesInPath)) ≠ [] := by
    constructor
    · refine isCut_readSegments nofun fun segment hsegment => ?_
      obtain ⟨piece, hpiece, rfl⟩ := List.mem_map.mp hsegment
      exact slash_not_mem_escapeWith (.inr (isCut_splitAll ds piece hpiece))
    · exact readSegments_ne_nil [] (by simpa using Text.splitAll_ne_nil '/' ds)
  simp only [readPath, SchemeKind.isSpecial, if_true]
  split
  · exact ⟨isCut_place, by simp⟩
  · exact hread _
  · exact hread _

theorem IsCut.pushSegment (h : IsCut front) (text : String) : IsCut (pushSegment .special front text) := by
  unfold Url.pushSegment
  split
  · exact h
  · rw [settle_special]
    exact h.openSegments.putSegment (slash_not_mem_encodeSegment _ _)

/-- **Texts put no slash into a segment.** -/
theorem IsCut.appendSegments (h : IsCut segments) (texts : List String) :
    IsCut (appendSegments .special segments texts) := by
  have hfold (front : List (List Char)) (texts : List String) (hfront : IsCut front) :
      IsCut (texts.foldl (Url.pushSegment .special) front) := by
    induction texts generalizing front with
    | nil => exact hfront
    | cons text texts ih => exact ih _ (hfront.pushSegment text)
  exact hfold _ _ h.dropEmptyLast

/-! ## Reading a base -/

theorem readAuthority_eq_ok (h : readAuthority scheme cs = .ok u) :
    u.scheme = scheme ∧ ∃ path, u.path = .slashed (readPath (kindOf scheme) path) := by
  simp only [readAuthority] at h
  split at h
  · cases h
  split at h
  · cases h
  -- a host with a name, or any host
  split at h <;>
    · obtain ⟨host, -, h⟩ := bind_eq_ok_iff.mp h
      obtain ⟨port, -, h⟩ := bind_eq_ok_iff.mp h
      cases h
      exact ⟨rfl, _, rfl⟩

theorem readFile_eq_ok (h : readFile cs = .ok u) : u.scheme = "file" := by
  simp only [readFile] at h
  split at h
  · cases h
    rfl
  · obtain ⟨host, -, h⟩ := bind_eq_ok_iff.mp h
    cases h
    rfl

/-- **A base whose scheme asks for a host has a path of segments**, one at least. -/
theorem path_of_parse {s : String} (h : parse s = .ok base) (hkind : kindOf base.scheme = .special) :
    ∃ segments, base.path = .slashed segments ∧ IsCut segments ∧ segments ≠ [] := by
  simp only [parse] at h
  split at h
  · cases h
  · rename_i scheme rest _
    split at h
    · have hfile : kindOf "file" ≠ .special := by decide
      rw [readFile_eq_ok h] at hkind
      exact absurd hkind hfile
    · rename_i hspecial
      obtain ⟨-, path, hpath⟩ := readAuthority_eq_ok h
      rw [hspecial] at hpath
      exact ⟨_, hpath, isCut_readPath path⟩
    · rename_i hother
      split at h
      · rw [(readAuthority_eq_ok h).1, hother] at hkind
        cases hkind
      · cases h
        have hscheme : (readHostless scheme rest).scheme = scheme := rfl
        rw [hscheme, hother] at hkind
        cases hkind

/-! ## Paths as they are written -/

/-- What a path stands for, place by place: it is cut at its slashes, the first of which is in front of
everything, and the percent-encoding is undone. -/
def Path.places (path : Path) : List (List UInt8) :=
  ((Text.splitAll '/' path.toString.toList).drop 1).map percentDecode

/-- The path stands for the places of the base, but for an empty last one, then for the texts, one by one,
and ends in a slash. -/
def Path.Names (path base : Path) (texts : List String) : Prop :=
  path.places = withoutEmptyLast base.places ++ (texts ++ [""]).map Text.octetsOf

instance (path base : Path) : Decidable (path.Names base texts) :=
  inferInstanceAs (Decidable (_ = _))

theorem splitAll_flatMap {first : List Char} (hfirst : '/' ∉ first) (h : IsCut segments) :
    Text.splitAll '/' (first ++ segments.flatMap fun segment => '/' :: segment) = first :: segments := by
  induction segments generalizing first with
  | nil => rw [List.flatMap_nil, List.append_nil, Text.splitAll_of_not_mem hfirst]
  | cons segment segments ih =>
    have hrest : IsCut segments := fun s hs => h s (List.mem_cons_of_mem _ hs)
    rw [List.flatMap_cons, List.cons_append, Text.splitAll_append, Text.splitAll_of_not_mem hfirst,
      ih (h segment List.mem_cons_self) hrest, List.singleton_append]

/-- **A written path is cut into its segments.** -/
theorem IsCut.splitAll_toString (h : IsCut segments) :
    Text.splitAll '/' (Path.slashed segments).toString.toList = [] :: segments := by
  rw [Path.toString, String.toList_ofList]
  exact splitAll_flatMap List.not_mem_nil h

theorem IsCut.places (h : IsCut segments) :
    (Path.slashed segments).places = segments.map percentDecode := by
  rw [Path.places, h.splitAll_toString, List.drop_one, List.tail_cons]

theorem IsCut.toString_eq_iff {others : List (List Char)} (h : IsCut segments) (h' : IsCut others) :
    (Path.slashed segments).toString = (Path.slashed others).toString ↔ segments = others := by
  constructor
  · intro heq
    have hcut := h.splitAll_toString
    rw [heq, h'.splitAll_toString] at hcut
    exact (List.tail_eq_of_cons_eq hcut).symm
  · rintro rfl
    rfl

/-! ## Below a base -/

/-- **What stands below a base names the texts, one by one**, exactly if each of them can be a segment, the
path of the base is not two slashes and nothing else, and the first text is not an empty one right behind
the host. There is a URL below the base in any case, and it is the base but for its path. -/
theorem below?_names_iff {s : String} (h : parse s = .ok base) (hkind : kindOf base.scheme = .special)
    (texts : List String) : ∃ path, base.below? texts = some { base with path } ∧
      (path.Names base.path texts ↔ (∀ text ∈ texts, Nameable text) ∧ base.path.toString ≠ "//" ∧
        (base.path.toString = "/" → texts.head? ≠ some "")) := by
  obtain ⟨segments, hpath, hcut, hne⟩ := path_of_parse h hkind
  have hslashes : (Path.slashed segments).toString = "//" ↔ segments = [[], []] :=
    hcut.toString_eq_iff (isCut_place.append isCut_place)
  have hslash : (Path.slashed segments).toString = "/" ↔ segments = [[]] :=
    hcut.toString_eq_iff isCut_place
  refine ⟨.slashed (appendSegments .special segments texts), by rw [below?, hpath, hkind], ?_⟩
  rw [Path.Names, hpath, hcut.places, (hcut.appendSegments texts).places, appendSegments_eq_iff hne]
  simp only [ne_eq, hslashes, hslash]

/-- **Below a base different texts are at different places**, if each of them can be a segment. -/
theorem below?_injective {s : String} (h : parse s = .ok base) (hkind : kindOf base.scheme = .special)
    {others : List String} {v : Url} (htexts : ∀ text ∈ texts, Nameable text)
    (hothers : ∀ text ∈ others, Nameable text)
    (hhead : texts.head? ≠ some "") (hhead' : others.head? ≠ some "")
    (hu : base.below? texts = some u) (hv : base.below? others = some v)
    (hsame : u.path.toString = v.path.toString) : texts = others := by
  obtain ⟨segments, hpath, hcut, -⟩ := path_of_parse h hkind
  rw [below?, hpath, hkind] at hu hv
  obtain rfl := Option.some.inj hu
  obtain rfl := Option.some.inj hv
  have hsegments := ((hcut.appendSegments texts).toString_eq_iff (hcut.appendSegments others)).mp hsame
  rw [appendSegments_of_nameable htexts fun _ => hhead,
    appendSegments_of_nameable hothers fun _ => hhead', List.append_cancel_left_eq] at hsegments
  have hoctets := congrArg (List.map percentDecode) hsegments
  rw [map_percentDecode_encodeSegment htexts, map_percentDecode_encodeSegment hothers] at hoctets
  exact List.append_cancel_right (List.map_injective_iff.mpr Text.octetsOf_injective hoctets)

end Bursar.Url
