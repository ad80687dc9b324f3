import Bursar.Proofs.Service.Paging

/-!
# A list in pages

The pages of one size cut a list into stretches (`Page.IsStretch`): page `k` holds the elements
from place `k * c` up to place `(k + 1) * c`, or to the end, where `c` is the size that pages
have. There is more behind a page exactly if the next page has anything in it. The pages up to
the first one that has no more behind it make up the list (`Page.of_partitions`).

A page may be asked for by any number. Where it starts is kept within 64 bits, and so is where it
ends: a start that had to be cut off lies behind the list, and nothing is added to it.
-/

namespace Bursar.Page

variable {α : Type} {all : List α}

/-- The page is stretch `k` of a list that is cut into stretches of length `c`. -/
structure IsStretch (p : Page α) (all : List α) (k c : Nat) : Prop where
  items : p.items = all.extract (k * c) (min ((k + 1) * c) all.length)
  total : p.total = all.length
  page : p.page = k
  pageSize : p.pageSize = c
  hasMore : p.hasMore = true ↔ k * c + p.items.length < all.length

/-- A size below the bounds counts as the least, one above them as the greatest. -/
theorem effectiveSize_eq (size : Nat) :
    effectiveSize size = if size < 1 then 1 else if maxSize < size then maxSize else size := by
  unfold effectiveSize maxSize
  split
  · omega
  · split <;> omega

/-- A page ends where the next one starts, or with the list. -/
theorem items_of_eq_extract (h : all.length ≤ Text.maxNat64) (size k : Nat) :
    (of all ⟨k, size⟩).items =
      all.extract (k * effectiveSize size) (min ((k + 1) * effectiveSize size) all.length) := by
  have hsize : (k + 1) * effectiveSize size = k * effectiveSize size + effectiveSize size :=
    Nat.succ_mul ..
  rw [items_of h, List.extract_eq_take_drop, List.take_eq_take_iff, List.length_drop]
  omega

theorem length_items_of (h : all.length ≤ Text.maxNat64) (size k : Nat) :
    (of all ⟨k, size⟩).items.length =
      min (effectiveSize size) (all.length - k * effectiveSize size) := by
  rw [items_of h, List.length_take, List.length_drop]

theorem isStretch_of (h : all.length ≤ Text.maxNat64) (size k : Nat) :
    (of all ⟨k, size⟩).IsStretch all k (effectiveSize size) where
  items := items_of_eq_extract h size k
  total := rfl
  page := rfl
  pageSize := rfl
  hasMore := by
    have hsize : (k + 1) * effectiveSize size = k * effectiveSize size + effectiveSize size :=
      Nat.succ_mul ..
    rw [hasMore_of h, length_items_of h, hsize]
    omega

/-- **There is more behind a page exactly if the next one is not empty.** -/
theorem hasMore_of_iff_next (h : all.length ≤ Text.maxNat64) (size k : Nat) :
    (of all ⟨k, size⟩).hasMore = true ↔ (of all ⟨k + 1, size⟩).items ≠ [] := by
  have hpos := effectiveSize_pos size
  rw [hasMore_of h, ne_eq, ← List.length_eq_zero_iff, length_items_of h]
  omega

/-- **A page that starts behind the list is empty**, and nothing is behind it. -/
theorem of_of_length_le (h : all.length ≤ Text.maxNat64) {size k : Nat}
    (hk : all.length ≤ k * effectiveSize size) :
    (of all ⟨k, size⟩).items = [] ∧ (of all ⟨k, size⟩).hasMore = false := by
  have hitems : (of all ⟨k, size⟩).items = [] := by
    rw [items_of h, List.drop_of_length_le hk, List.take_nil]
  refine ⟨hitems, ?_⟩
  rw [← Bool.not_eq_true, (isStretch_of h size k).hasMore, hitems]
  exact Nat.not_lt.mpr hk

/-- **The end of a page is a number of 64 bits**: either the page ends within the list, or it is empty. -/
theorem start_add_length_items_le (h : all.length ≤ Text.maxNat64) (q : PageQuery) :
    start q + (of all q).items.length ≤ Text.maxNat64 := by
  have hstart : start q ≤ Text.maxNat64 := Nat.min_le_right ..
  have hlength : (of all q).items.length =
      min (effectiveSize q.pageSize) (all.length - min (start q) all.length) := by
    rw [of, List.length_take, List.length_drop]
  omega

/-- The first pages make up the front of the list. -/
theorem flatMap_items_of (h : all.length ≤ Text.maxNat64) (size count : Nat) :
    ((List.range count).flatMap fun k => (of all ⟨k, size⟩).items) =
      all.take (count * effectiveSize size) := by
  induction count with
  | zero => simp
  | succ count ih =>
    rw [List.range_succ, List.flatMap_append, ih, List.flatMap_singleton, items_of h, Nat.succ_mul,
      List.take_add]

/-- The number of the last page that is not empty, or of the first page if there is none. -/
def lastOf (all : List α) (size : Nat) : Nat := (all.length - 1) / effectiveSize size

/-- **The pages before the last one are those that have more behind them.** -/
theorem hasMore_of_iff_lt_last (h : all.length ≤ Text.maxNat64) (size k : Nat) :
    (of all ⟨k, size⟩).hasMore = true ↔ k < lastOf all size := by
  have hpos := effectiveSize_pos size
  have hfirst : 0 < (k + 1) * effectiveSize size := Nat.mul_pos (Nat.succ_pos k) hpos
  have hlast : k < lastOf all size ↔ (k + 1) * effectiveSize size ≤ all.length - 1 := by
    rw [lastOf, ← Nat.succ_le_iff, Nat.le_div_iff_mul_le hpos]
  rw [hasMore_of h, hlast]
  omega

/-- **Pages partition a list.** Each holds the stretch of its number, in the size that was asked for as far
as that is within bounds. There is more behind it exactly if the next one is not empty. The pages up to the
first without more make up the list. A page behind the list is empty, and whatever page is asked for, its
start and its end are numbers of 64 bits. -/
theorem of_partitions (h : all.length ≤ Text.maxNat64) (size : Nat) :
    (∀ k, (of all ⟨k, size⟩).IsStretch all k
        (if size < 1 then 1 else if maxSize < size then maxSize else size)) ∧
      (∀ k, (of all ⟨k, size⟩).hasMore = true ↔ (of all ⟨k + 1, size⟩).items ≠ []) ∧
      (∃ last, (∀ k, (of all ⟨k, size⟩).hasMore = true ↔ k < last) ∧
        ((List.range (last + 1)).flatMap fun k => (of all ⟨k, size⟩).items) = all) ∧
      (∀ k, all.length ≤ k * effectiveSize size →
        (of all ⟨k, size⟩).items = [] ∧ (of all ⟨k, size⟩).hasMore = false) ∧
      ∀ k, start ⟨k, size⟩ ≤ Text.maxNat64 ∧
        start ⟨k, size⟩ + (of all ⟨k, size⟩).items.length ≤ Text.maxNat64 := by
  refine ⟨fun k => ?_, hasMore_of_iff_next h size, ⟨lastOf all size, hasMore_of_iff_lt_last h size, ?_⟩,
    fun k hk => of_of_length_le h hk,
    fun k => ⟨Nat.min_le_right .., start_add_length_items_le h ⟨k, size⟩⟩⟩
  · rw [← effectiveSize_eq]
    exact isStretch_of h size k
  · have hlast : ¬ (lastOf all size + 1) * effectiveSize size < all.length := by
      intro hmore
      rw [← hasMore_of h, hasMore_of_iff_lt_last h] at hmore
      exact Nat.lt_irrefl _ hmore
    rw [flatMap_items_of h, List.take_of_length_le (Nat.not_lt.mp hlast)]

/-- Five items in pages of two: the third page is the last, and one that is asked for by the
greatest number of 64 bits is empty. -/
theorem of_partitions_fives : [1, 2, 3, 4, 5].length ≤ Text.maxNat64 ∧
    (of [1, 2, 3, 4, 5] ⟨1, 2⟩).items = [3, 4] ∧ (of [1, 2, 3, 4, 5] ⟨1, 2⟩).hasMore = true ∧
    (of [1, 2, 3, 4, 5] ⟨2, 2⟩).items = [5] ∧ (of [1, 2, 3, 4, 5] ⟨2, 2⟩).hasMore = false ∧
    (of [1, 2, 3, 4, 5] ⟨Text.maxNat64, 2⟩).items = [] := by
  have hlength : [1, 2, 3, 4, 5].length ≤ Text.maxNat64 := by decide
  obtain ⟨hstretch, hnext, -, hbehind, -⟩ := of_partitions hlength 2
  have hthird : (of [1, 2, 3, 4, 5] ⟨2, 2⟩).items = [5] := (hstretch 2).items
  refine ⟨hlength, (hstretch 1).items, (hnext 1).mpr ?_, hthird, ?_, (hbehind _ (by decide)).1⟩
  · rw [hthird]
    exact List.cons_ne_nil _ _
  · rw [← Bool.not_eq_true, (hstretch 2).hasMore, hthird]
    decide

end Bursar.Page
