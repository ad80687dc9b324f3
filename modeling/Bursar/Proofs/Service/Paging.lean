import Bursar.Service.Page

/-!
# Reading page by page

Who reads a list page by page, from the first page until one says that there is no
more, reads the whole list and nothing twice (`Page.read_of_iff`), whatever size was
asked for: an asked size may be changed, but to the same size for every page.

Where a page starts is kept within 64 bits, so this is said of lists whose length is
such a number.
-/

namespace Bursar.Page

variable {α β : Type}

/-- What is read from the page `k` on, page by page, until there is no more. -/
inductive Read (page : Nat → Page α) : Nat → List α → Prop
  | last {k : Nat} (h : (page k).hasMore = false) : Read page k (page k).items
  | more {k : Nat} {rest : List α} (h : (page k).hasMore = true) (hrest : Read page (k + 1) rest) :
    Read page k ((page k).items ++ rest)

theorem Read.unique {page : Nat → Page α} {k : Nat} {items items' : List α}
    (h : Read page k items) (h' : Read page k items') : items' = items := by
  induction h generalizing items' with
  | last hlast =>
    cases h' with
    | last => rfl
    | more hmore => simp [hlast] at hmore
  | more hmore _ ih =>
    cases h' with
    | last hlast => simp [hlast] at hmore
    | more _ hrest => rw [ih hrest]

/-! ## The pages of a list -/

theorem effectiveSize_pos (size : Nat) : 0 < effectiveSize size :=
  Nat.lt_of_lt_of_le Nat.zero_lt_one (Nat.le_max_left 1 _)

variable {all : List α}

/-- A page begins after the pages before it. -/
theorem items_of (h : all.length ≤ Text.maxNat64) (size k : Nat) :
    (of all ⟨k, size⟩).items =
      (all.drop (k * effectiveSize size)).take (effectiveSize size) := by
  have hstart : min (start ⟨k, size⟩) all.length = min (k * effectiveSize size) all.length := by
    simp only [start]
    omega
  simp only [of, hstart]
  rcases Nat.le_total (k * effectiveSize size) all.length with hk | hk
  · rw [Nat.min_eq_left hk]
  · rw [Nat.min_eq_right hk, List.drop_length, List.drop_of_length_le hk]

/-- There is more as long as the pages so far are shorter than the list. -/
theorem hasMore_of (h : all.length ≤ Text.maxNat64) (size k : Nat) :
    (of all ⟨k, size⟩).hasMore = true ↔ (k + 1) * effectiveSize size < all.length := by
  have hitems := congrArg List.length (items_of h size k)
  have hsize : (k + 1) * effectiveSize size = k * effectiveSize size + effectiveSize size :=
    Nat.succ_mul ..
  have hpos := effectiveSize_pos size
  rw [List.length_take, List.length_drop] at hitems
  rw [show (of all ⟨k, size⟩).hasMore =
    decide (start ⟨k, size⟩ + (of all ⟨k, size⟩).items.length < all.length) from rfl,
    decide_eq_true_iff, hitems, hsize]
  simp only [start]
  omega

/-- What is left of the list is the next page and what is left after it. -/
theorem items_of_append (h : all.length ≤ Text.maxNat64) (size k : Nat) :
    (of all ⟨k, size⟩).items ++ all.drop ((k + 1) * effectiveSize size) =
      all.drop (k * effectiveSize size) := by
  rw [items_of h, Nat.succ_mul, ← List.drop_drop, List.take_append_drop]

theorem read_of_from (h : all.length ≤ Text.maxNat64) (size k : Nat) :
    Read (fun k => of all ⟨k, size⟩) k (all.drop (k * effectiveSize size)) := by
  have happend := items_of_append h size k
  cases hmore : (of all ⟨k, size⟩).hasMore with
  | true =>
    -- the rest is shorter, as no page is empty while there is more
    have hlt := (hasMore_of h size k).mp hmore
    have hpos := effectiveSize_pos size
    have hshorter : all.length - (k + 1) * effectiveSize size <
        all.length - k * effectiveSize size := by
      rw [Nat.succ_mul] at hlt ⊢
      omega
    rw [← happend]
    exact .more hmore (read_of_from h size (k + 1))
  | false =>
    have hend : all.length ≤ (k + 1) * effectiveSize size := by
      rw [← Nat.not_lt, ← hasMore_of h size k, hmore]
      exact Bool.false_ne_true
    rw [List.drop_of_length_le hend, List.append_nil] at happend
    rw [← happend]
    exact .last hmore
termination_by all.length - k * effectiveSize size

/-- **Reading page by page gives the list**, and nothing else. -/
theorem read_of_iff (h : all.length ≤ Text.maxNat64) (size : Nat) {items : List α} :
    Read (fun k => of all ⟨k, size⟩) 0 items ↔ items = all := by
  have hall := read_of_from h size 0
  rw [Nat.zero_mul, List.drop_zero] at hall
  constructor
  · intro hread
    exact hall.unique hread
  · rintro rfl
    exact hall

/-- The page of the images is the page with the images in place of the items. -/
theorem withItems_of (f : α → β) (q : PageQuery) :
    (of all q).withItems ((of all q).items.map f) = of (all.map f) q := by
  simp [of, withItems, List.map_take, List.map_drop]

end Bursar.Page
