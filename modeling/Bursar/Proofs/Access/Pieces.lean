import Bursar.Access.Principal
import Bursar.Proofs.Text.Cutting

/-!
# Lists of pieces

Tokens and grants are written as pieces with a separator between them, any blanks around each,
and any number of pieces that are nothing but blanks. What such a text lists is said here apart
from how it is read (`Text.Lists`), and so is what is wrong with one that lists nothing: the
first piece of it that is no item (`Text.FirstFault`).

A reader that takes exactly the items for what they are, and finds fault with all else
(`Text.ReadsPieces`), reads piece by piece exactly what a text lists
(`Text.ReadsPieces.mapM_eq_ok_iff`), or fails over its first fault
(`Text.ReadsPieces.mapM_eq_error_iff`).
-/

namespace Bursar

open Principal (pieces)

namespace Text

variable {c sep : Char} {cs ds : List Char}

/-! ## Pieces -/

/-- A text without the separator is one piece, if it is more than blanks. -/
theorem pieces_of_not_mem (h : sep ∉ cs) : pieces sep (String.ofList cs) =
    if trimChars cs = [] then [] else [String.ofList (trimChars cs)] := by
  have htrim : trim (String.ofList cs) = String.ofList (trimChars cs) := by
    rw [trim, String.toList_ofList]
  rw [pieces, splitAllString, String.toList_ofList, splitAll_of_not_mem h, List.map_singleton,
    List.map_singleton, htrim]
  by_cases hblank : trimChars cs = []
  · rw [if_pos hblank, hblank]
    rfl
  · rw [if_neg hblank, List.filter_cons_of_pos]
    · rfl
    · simpa [String.isEmpty_iff] using hblank

/-- The pieces in front of a separator, and those behind it. -/
theorem pieces_append (cs ds : List Char) : pieces sep (String.ofList (cs ++ sep :: ds)) =
    pieces sep (String.ofList cs) ++ pieces sep (String.ofList ds) := by
  simp [pieces, splitAllString, splitAll_append]

/-- Blanks at the end make no difference to the pieces. -/
theorem pieces_trimEnd (hsep : isBlank sep = false) (cs : List Char) :
    pieces sep (String.ofList (trimEnd cs)) = pieces sep (String.ofList cs) := by
  induction cs using induction_on_pieces sep with
  | last cs h => rw [pieces_of_not_mem (not_mem_trimEnd h), pieces_of_not_mem h, trimChars_trimEnd]
  | more cs ds h ih => rw [trimEnd_append_cons hsep, pieces_append, pieces_append, ih]

/-! ## What a text lists -/

variable {α ε : Type} {Item : List Char → α → Prop} {Fault : List Char → ε → Prop} {a : α} {e : ε}
  {as : List α}

/-- Between the separators of the text stand the items in this order, each with blanks around it, or
nothing but blanks. -/
inductive Lists (sep : Char) (Item : List Char → α → Prop) : List Char → List α → Prop
  | blank {cs : List Char} (h : ∀ c ∈ cs, isBlank c = true) : Lists sep Item cs []
  | item {cs inside : List Char} {a : α} (hcs : Wraps cs inside) (h : Item inside a) :
      Lists sep Item cs [a]
  | append {cs ds : List Char} {as bs : List α} (h : Lists sep Item cs as) (h' : Lists sep Item ds bs) :
      Lists sep Item (cs ++ sep :: ds) (as ++ bs)

/-- The first piece of the text that is no item has this fault. -/
inductive FirstFault (sep : Char) (Item : List Char → α → Prop) (Fault : List Char → ε → Prop) :
    List Char → ε → Prop
  | here {cs : List Char} {e : ε} (hsep : sep ∉ cs) (hcs : ¬ ∀ c ∈ cs, isBlank c = true)
      (h : Fault (trimChars cs) e) : FirstFault sep Item Fault cs e
  | left {cs ds : List Char} {e : ε} (h : FirstFault sep Item Fault cs e) :
      FirstFault sep Item Fault (cs ++ sep :: ds) e
  | right {cs ds : List Char} {as : List α} {e : ε} (h : Lists sep Item cs as)
      (h' : FirstFault sep Item Fault ds e) : FirstFault sep Item Fault (cs ++ sep :: ds) e

/-- A sign that is in no item, and does not separate them, is not in the text either. -/
theorem Lists.not_mem (h : Lists sep Item cs as) (hc : isBlank c = false) (hne : c ≠ sep)
    (hitem : ∀ inside a, Item inside a → c ∉ inside) : c ∉ cs := by
  induction h with
  | blank h =>
    intro hmem
    rw [h c hmem] at hc
    cases hc
  | item hcs h => exact hcs.not_mem hc (hitem _ _ h)
  | append _ _ ih ih' =>
    intro hmem
    rcases List.mem_append.mp hmem with hmem | hmem
    · exact ih hmem
    · exact ih' (List.mem_of_ne_of_mem hne hmem)

/-- What is known of all parts of the text is known of the items. -/
theorem Lists.imp {Item' : List Char → α → Prop} {P : Char → Prop} (h : Lists sep Item cs as)
    (hcs : ∀ c ∈ cs, P c) (hitem : ∀ inside a, (∀ c ∈ inside, P c) → Item inside a → Item' inside a) :
    Lists sep Item' cs as := by
  induction h with
  | blank h => exact .blank h
  | item hwraps h => exact .item hwraps (hitem _ _ (fun c hc => hcs c (hwraps.mem hc)) h)
  | append _ _ ih ih' =>
    refine .append (ih fun c hc => hcs c (List.mem_append_left _ hc)) (ih' fun c hc => hcs c ?_)
    exact List.mem_append_right _ (List.mem_cons_of_mem _ hc)

theorem Lists.exists_item (h : Lists sep Item cs as) (ha : a ∈ as) : ∃ inside, Item inside a := by
  induction h with
  | blank => cases ha
  | item _ h =>
    obtain rfl := List.mem_singleton.mp ha
    exact ⟨_, h⟩
  | append _ _ ih ih' =>
    rcases List.mem_append.mp ha with ha | ha
    · exact ih ha
    · exact ih' ha

/-- What can be listed is what can be written item by item. -/
theorem exists_lists_iff : (∃ cs, Lists sep Item cs as) ↔ ∀ a ∈ as, ∃ inside, Item inside a := by
  refine ⟨fun ⟨_, h⟩ _ ha => h.exists_item ha, fun h => ?_⟩
  induction as with
  | nil => exact ⟨[], .blank nofun⟩
  | cons a as ih =>
    obtain ⟨inside, hinside⟩ := h a List.mem_cons_self
    obtain ⟨cs, hcs⟩ := ih fun b hb => h b (List.mem_cons_of_mem a hb)
    exact ⟨_, .append (.item (.refl inside) hinside) hcs⟩

/-- The reader takes the items for what they are and finds fault with all else. An item holds no separator
and is more than blanks, and blanks around it are no part of it. -/
structure ReadsPieces (sep : Char) (f : String → Except ε α) (Item : List Char → α → Prop)
    (Fault : List Char → ε → Prop) : Prop where
  ok (cs : List Char) (a : α) : sep ∉ cs → (f (String.ofList cs) = .ok a ↔ Item cs a)
  error (cs : List Char) (e : ε) : f (String.ofList cs) = .error e ↔ Fault cs e
  not_mem (cs : List Char) (a : α) : Item cs a → sep ∉ cs
  not_blank (cs : List Char) (a : α) : Item cs a → ¬ ∀ c ∈ cs, isBlank c = true
  trimmed (cs : List Char) (a : α) : Item cs a → Item (trimChars cs) a

namespace ReadsPieces

variable {f : String → Except ε α} (hf : ReadsPieces sep f Item Fault) (hsep : isBlank sep = false)

/-- One piece is read as the item that it is. -/
theorem mapM_pieces_of_not_mem (h : sep ∉ cs) (hblank : ¬ ∀ c ∈ cs, isBlank c = true) :
    (pieces sep (String.ofList cs)).mapM f = (f (String.ofList (trimChars cs))).map ([·]) := by
  rw [pieces_of_not_mem h, if_neg (mt trimChars_eq_nil_iff.mp hblank), List.mapM_cons]
  cases f (String.ofList (trimChars cs)) <;> rfl

theorem mapM_pieces_of_blank (h : sep ∉ cs) (hblank : ∀ c ∈ cs, isBlank c = true) :
    (pieces sep (String.ofList cs)).mapM f = .ok [] := by
  rw [pieces_of_not_mem h, if_pos (trimChars_eq_nil_iff.mpr hblank)]
  rfl

theorem mapM_pieces_append (cs ds : List Char) : (pieces sep (String.ofList (cs ++ sep :: ds))).mapM f =
    (pieces sep (String.ofList cs)).mapM f >>= fun as =>
      (pieces sep (String.ofList ds)).mapM f >>= fun bs => .ok (as ++ bs) := by
  rw [pieces_append, List.mapM_append]
  rfl

include hf

/-- What one piece is read as, it is. -/
theorem lists_of_not_mem (hcs : sep ∉ cs) (h : (pieces sep (String.ofList cs)).mapM f = .ok as) :
    Lists sep Item cs as := by
  by_cases hblank : ∀ c ∈ cs, isBlank c = true
  · rw [mapM_pieces_of_blank hcs hblank] at h
    cases h
    exact .blank hblank
  · rw [mapM_pieces_of_not_mem hcs hblank] at h
    cases hread : f (String.ofList (trimChars cs)) with
    | error e =>
      rw [hread] at h
      cases h
    | ok a =>
      rw [hread] at h
      cases h
      exact .item (wraps_trimChars cs) ((hf.ok _ _ (not_mem_trimChars hcs)).mp hread)

/-- What reading one piece fails over is its fault. -/
theorem firstFault_of_not_mem (hcs : sep ∉ cs) (h : (pieces sep (String.ofList cs)).mapM f = .error e) :
    FirstFault sep Item Fault cs e := by
  by_cases hblank : ∀ c ∈ cs, isBlank c = true
  · rw [mapM_pieces_of_blank hcs hblank] at h
    cases h
  · rw [mapM_pieces_of_not_mem hcs hblank] at h
    cases hread : f (String.ofList (trimChars cs)) with
    | error e' =>
      rw [hread] at h
      cases h
      exact .here hcs hblank ((hf.error _ _).mp hread)
    | ok a =>
      rw [hread] at h
      cases h

/-- **A text with a bad piece has a first fault**, wherever the piece stands. -/
theorem exists_firstFault {piece : List Char} (hmem : piece ∈ splitAll sep cs)
    (hblank : ¬ ∀ c ∈ piece, isBlank c = true) (h : Fault (trimChars piece) e) :
    ∃ e', FirstFault sep Item Fault cs e' := by
  induction cs using induction_on_pieces sep with
  | last cs hcs =>
    rw [splitAll_of_not_mem hcs] at hmem
    obtain rfl := List.mem_singleton.mp hmem
    exact ⟨e, .here hcs hblank h⟩
  | more cs ds hcs ih =>
    rw [splitAll_append, splitAll_of_not_mem hcs] at hmem
    rcases List.mem_append.mp hmem with hmem | hmem
    · obtain rfl := List.mem_singleton.mp hmem
      exact ⟨e, .left (.here hcs hblank h)⟩
    · -- the piece stands behind, but there may be a fault in front of it
      obtain ⟨e', he'⟩ := ih hmem
      cases hfirst : (pieces sep (String.ofList cs)).mapM f with
      | error e'' => exact ⟨e'', .left (hf.firstFault_of_not_mem hcs hfirst)⟩
      | ok as => exact ⟨e', .right (hf.lists_of_not_mem hcs hfirst) he'⟩

include hsep

/-- **A text that lists items is read as these items.** -/
theorem mapM_of_lists (h : Lists sep Item cs as) : (pieces sep (String.ofList cs)).mapM f = .ok as := by
  induction h with
  | blank h =>
    refine mapM_pieces_of_blank (fun hmem => ?_) h
    rw [h sep hmem] at hsep
    cases hsep
  | @item cs inside a hcs h =>
    have hnot : sep ∉ inside := hf.not_mem inside a h
    have hcs' : sep ∉ cs := hcs.not_mem hsep hnot
    have hblank : ¬ ∀ c ∈ cs, isBlank c = true := by
      rw [← trimChars_eq_nil_iff, hcs.trimChars_eq, trimChars_eq_nil_iff]
      exact hf.not_blank inside a h
    rw [mapM_pieces_of_not_mem hcs' hblank, hcs.trimChars_eq,
      (hf.ok _ _ (not_mem_trimChars hnot)).mpr (hf.trimmed inside a h)]
    rfl
  | append _ _ ih ih' =>
    rw [mapM_pieces_append, ih, ih']
    rfl

/-- **What is read is what the text lists.** -/
theorem mapM_eq_ok_iff : (pieces sep (String.ofList cs)).mapM f = .ok as ↔ Lists sep Item cs as := by
  constructor
  · intro h
    induction cs using induction_on_pieces sep generalizing as with
    | last cs hcs => exact hf.lists_of_not_mem hcs h
    | more cs ds hcs ih =>
      rw [mapM_pieces_append] at h
      cases hfirst : (pieces sep (String.ofList cs)).mapM f with
      | error e =>
        rw [hfirst] at h
        cases h
      | ok as' =>
        cases hrest : (pieces sep (String.ofList ds)).mapM f with
        | error e =>
          rw [hfirst, hrest] at h
          cases h
        | ok bs =>
          rw [hfirst, hrest] at h
          cases h
          exact .append (hf.lists_of_not_mem hcs hfirst) (ih hrest)
  · exact hf.mapM_of_lists hsep

/-- **Reading fails over the first fault of the text.** -/
theorem mapM_eq_error_iff :
    (pieces sep (String.ofList cs)).mapM f = .error e ↔ FirstFault sep Item Fault cs e := by
  constructor
  · intro h
    induction cs using induction_on_pieces sep with
    | last cs hcs => exact hf.firstFault_of_not_mem hcs h
    | more cs ds hcs ih =>
      rw [mapM_pieces_append] at h
      cases hfirst : (pieces sep (String.ofList cs)).mapM f with
      | error e' =>
        rw [hfirst] at h
        cases h
        exact .left (hf.firstFault_of_not_mem hcs hfirst)
      | ok as' =>
        cases hrest : (pieces sep (String.ofList ds)).mapM f with
        | error e' =>
          rw [hfirst, hrest] at h
          cases h
          exact .right (hf.lists_of_not_mem hcs hfirst) (ih hrest)
        | ok bs =>
          rw [hfirst, hrest] at h
          cases h
  · intro h
    induction h with
    | here hsep hblank h =>
      rw [mapM_pieces_of_not_mem hsep hblank, (hf.error _ _).mpr h]
      rfl
    | left _ ih =>
      rw [mapM_pieces_append, ih]
      rfl
    | right h _ ih =>
      rw [mapM_pieces_append, hf.mapM_of_lists hsep h, ih]
      rfl

end ReadsPieces
end Text
end Bursar
