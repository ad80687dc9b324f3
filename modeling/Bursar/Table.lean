/-!
# Tables

A finite map as a list of keys and values. Putting a value under a key that is
there already replaces the value where it stands; a new key goes to the end, so
the entries keep the order in which their keys first came.
-/

namespace Bursar

/-- A finite map from keys to values, in the order in which the keys came. -/
structure Table (κ α : Type) where
  entries : List (κ × α)
deriving Repr

namespace Table

variable {κ α : Type} [DecidableEq κ]

/-- The map without entries. -/
def empty : Table κ α := ⟨[]⟩

instance : Inhabited (Table κ α) := ⟨empty⟩

/-- The value under a key in a list of entries. -/
def find (k : κ) : List (κ × α) → Option α
  | [] => none
  | (k', a) :: rest => if k = k' then some a else find k rest

/-- The value under a key. -/
def get? (t : Table κ α) (k : κ) : Option α := find k t.entries

/-- Whether a key has a value. -/
def contains (t : Table κ α) (k : κ) : Bool := (t.get? k).isSome

/-- A list of entries with a value put under a key. -/
def put (k : κ) (a : α) : List (κ × α) → List (κ × α)
  | [] => [(k, a)]
  | (k', b) :: rest => if k = k' then (k, a) :: rest else (k', b) :: put k a rest

/-- The map with a value put under a key. -/
def insert (t : Table κ α) (k : κ) (a : α) : Table κ α := ⟨put k a t.entries⟩

/-- The map without a key. -/
def erase (t : Table κ α) (k : κ) : Table κ α := ⟨t.entries.filter fun e => e.1 ≠ k⟩

/-- The map with the entries that a test accepts. -/
def retain (t : Table κ α) (p : κ → α → Bool) : Table κ α := ⟨t.entries.filter fun e => p e.1 e.2⟩

/-- The values in order. -/
def values (t : Table κ α) : List α := t.entries.map (·.2)

/-- The keys in order. -/
def keys (t : Table κ α) : List κ := t.entries.map (·.1)

/-- The number of entries. -/
def size (t : Table κ α) : Nat := t.entries.length

@[simp] theorem get?_empty (k : κ) : (empty : Table κ α).get? k = none := rfl

theorem find_put (k j : κ) (a : α) (l : List (κ × α)) :
    find j (put k a l) = if j = k then some a else find j l := by
  induction l with
  | nil => simp [put, find]
  | cons e rest ih =>
    obtain ⟨k', b⟩ := e
    by_cases h : k = k'
    · subst h; by_cases hj : j = k <;> simp [put, find, hj]
    · by_cases hj : j = k
      · subst hj; simp [put, find, h, ih]
      · simp [put, find, h, hj, ih]

/-- After an insertion the new key has the new value and every other key what it had. -/
theorem get?_insert (t : Table κ α) (k j : κ) (a : α) :
    (t.insert k a).get? j = if j = k then some a else t.get? j := find_put k j a t.entries

end Table
end Bursar
