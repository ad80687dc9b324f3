import Bursar.Text.Utf8
import Mathlib.Algebra.Group.Nat.Defs
import Mathlib.Data.List.TakeWhile

/-!
# Octets are read back

A character is written in one to four octets, as many as its number needs. The first one
says how many they are, the second is in the range that the first allows, and all the
others continue a character; so the reader takes just these octets for a piece, whatever
follows them, and makes the number up again (`isPiece`). Text by text,
nothing is lost and nothing is replaced (`decode?_octetsOfChars`,
`decodeLossy_octetsOfChars`).
-/

namespace Bursar.Text

/-! ## Octets -/

theorem toNat_octet {n : Nat} (h : n < 256) : (octet n).toNat = n := by
  rw [octet, UInt8.toNat_ofNat']
  omega

theorem octetsOfChar_of_lt {c : Char} (h : c.toNat < 128) : octetsOfChar c = [octet c.toNat] :=
  if_pos h

theorem toNat_valid (c : Char) : c.toNat < 0xD800 ∨ 0xDFFF < c.toNat ∧ c.toNat < 0x110000 := c.valid

theorem ofNat_eq {c : Char} {n : Nat} (h : n = c.toNat) : Char.ofNat n = c := by rw [h, Char.ofNat_toNat]

theorem continues_octet {n : Nat} (h : n < 64) : continues (octet (0x80 + n)) = true := by
  rw [continues, toNat_octet (by omega)]
  simp
  omega

/-- A second octet continues the character, in the range that the first one leaves. -/
theorem follows_eq_true {first second : UInt8} (hsecond : continues second = true)
    (he0 : first.toNat = 0xE0 → 0xA0 ≤ second.toNat) (hed : first.toNat = 0xED → second.toNat < 0xA0)
    (hf0 : first.toNat = 0xF0 → 0x90 ≤ second.toNat) (hf4 : first.toNat = 0xF4 → second.toNat < 0x90) :
    follows first second = true := by
  unfold follows
  rw [hsecond, Bool.true_and]
  split
  · exact decide_eq_true (he0 ‹_›)
  · exact decide_eq_true (hed ‹_›)
  · exact decide_eq_true (hf0 ‹_›)
  · exact decide_eq_true (hf4 ‹_›)
  · rfl

/-! ## Pieces -/

/-- An octet below 128 is a character by itself. -/
theorem firstPiece_of_lt {first : UInt8} (h : first.toNat < 128) (rest : List UInt8) :
    firstPiece first rest = (some (Char.ofNat first.toNat), 1) := by
  have hlength : lengthFrom first = some 1 := if_pos h
  simp [firstPiece, hlength, reach, charOfOctets]

/-- As many octets as the first one announces are a character, if all of them continue it. -/
theorem firstPiece_append {first second : UInt8} (more : List UInt8)
    (hlength : lengthFrom first = some (more.length + 2)) (hsecond : follows first second = true)
    (hmore : ∀ b ∈ more, continues b = true) (rest : List UInt8) :
    firstPiece first (second :: more ++ rest) =
      (some (charOfOctets (first :: second :: more)), more.length + 2) := by
  have htaken : ((more ++ rest).take more.length).takeWhile continues = more := by
    rw [List.take_left' rfl]
    exact List.takeWhile_eq_self_iff.mpr hmore
  have hreach : reach first (more.length + 2 - 1) (second :: more ++ rest) = more.length + 1 := by
    change (if follows first second then
      1 + (((more ++ rest).take more.length).takeWhile continues).length else 0) = _
    rw [if_pos hsecond, htaken, Nat.add_comm]
  have hoctets : (second :: more ++ rest).take (more.length + 1) = second :: more := by
    rw [List.cons_append, List.take_succ_cons, List.take_left' rfl]
  simp only [firstPiece, hlength, hreach, hoctets, if_true]

theorem lengthFrom_eq_two {n : Nat} (h : 2 ≤ n ∧ n < 0x20) : lengthFrom (octet (0xC0 + n)) = some 2 := by
  rw [lengthFrom, toNat_octet (by omega), if_neg (by omega), if_pos (by omega)]

theorem lengthFrom_eq_three {n : Nat} (h : n < 0x10) : lengthFrom (octet (0xE0 + n)) = some 3 := by
  rw [lengthFrom, toNat_octet (by omega), if_neg (by omega), if_neg (by omega), if_pos (by omega)]

theorem lengthFrom_eq_four {n : Nat} (h : n < 5) : lengthFrom (octet (0xF0 + n)) = some 4 := by
  rw [lengthFrom, toNat_octet (by omega), if_neg (by omega), if_neg (by omega), if_neg (by omega),
    if_pos (by omega)]

/-- The character is read off the octets that it is written in, and no others. -/
def IsPiece (c : Char) : Prop :=
  ∃ first more, octetsOfChar c = first :: more ∧
    ∀ rest, firstPiece first (more ++ rest) = (some c, more.length + 1)

theorem isPiece_one {c : Char} (h : c.toNat < 0x80) : IsPiece c := by
  have hoctet : (octet c.toNat).toNat = c.toNat := toNat_octet (by omega)
  refine ⟨octet c.toNat, [], octetsOfChar_of_lt h, fun rest => ?_⟩
  rw [firstPiece_of_lt (by rw [hoctet]; exact h), hoctet, Char.ofNat_toNat]
  rfl

theorem isPiece_two {c : Char} (hlow : 0x80 ≤ c.toNat) (hhigh : c.toNat < 0x800) : IsPiece c := by
  have hfirst : (octet (0xC0 + c.toNat / 64)).toNat = 0xC0 + c.toNat / 64 := toNat_octet (by omega)
  have hlast := continues_octet (n := c.toNat % 64) (by omega)
  have hfollows : follows (octet (0xC0 + c.toNat / 64)) (octet (0x80 + c.toNat % 64)) = true := by
    apply follows_eq_true hlast <;> omega
  have hpiece := firstPiece_append [] (lengthFrom_eq_two (by omega)) hfollows nofun
  have hchar : charOfOctets [octet (0xC0 + c.toNat / 64), octet (0x80 + c.toNat % 64)] = c := by
    rw [charOfOctets, hfirst, toNat_octet (by omega)]
    exact ofNat_eq (by omega)
  rw [hchar] at hpiece
  exact ⟨_, _, by simp [octetsOfChar, Nat.not_lt.mpr hlow, hhigh], hpiece⟩

theorem isPiece_three {c : Char} (hlow : 0x800 ≤ c.toNat) (hhigh : c.toNat < 0x10000) : IsPiece c := by
  have hfirst : (octet (0xE0 + c.toNat / 4096)).toNat = 0xE0 + c.toNat / 4096 := toNat_octet (by omega)
  have hnext : (octet (0x80 + c.toNat / 64 % 64)).toNat = 0x80 + c.toNat / 64 % 64 :=
    toNat_octet (by omega)
  have hsecond := continues_octet (n := c.toNat / 64 % 64) (by omega)
  have hlast := continues_octet (n := c.toNat % 64) (by omega)
  -- the character needs all three octets, and is no surrogate
  have hfollows : follows (octet (0xE0 + c.toNat / 4096)) (octet (0x80 + c.toNat / 64 % 64)) = true := by
    have hvalid := toNat_valid c
    apply follows_eq_true hsecond <;> omega
  have hpiece := firstPiece_append [octet (0x80 + c.toNat % 64)]
    (lengthFrom_eq_three (by omega)) hfollows (by simpa using hlast)
  have hchar : charOfOctets [octet (0xE0 + c.toNat / 4096), octet (0x80 + c.toNat / 64 % 64),
      octet (0x80 + c.toNat % 64)] = c := by
    rw [charOfOctets, hfirst, hnext, toNat_octet (by omega)]
    exact ofNat_eq (by omega)
  rw [hchar] at hpiece
  exact ⟨_, _, by simp [octetsOfChar, show ¬ c.toNat < 0x80 by omega, Nat.not_lt.mpr hlow, hhigh], hpiece⟩

theorem isPiece_four {c : Char} (hlow : 0x10000 ≤ c.toNat) : IsPiece c := by
  have hvalid := toNat_valid c
  have hfirst : (octet (0xF0 + c.toNat / 262144)).toNat = 0xF0 + c.toNat / 262144 :=
    toNat_octet (by omega)
  have hnext : (octet (0x80 + c.toNat / 4096 % 64)).toNat = 0x80 + c.toNat / 4096 % 64 :=
    toNat_octet (by omega)
  have hsecond := continues_octet (n := c.toNat / 4096 % 64) (by omega)
  have hthird := continues_octet (n := c.toNat / 64 % 64) (by omega)
  have hlast := continues_octet (n := c.toNat % 64) (by omega)
  -- the character needs all four octets, and there is none after the last plane
  have hfollows :
      follows (octet (0xF0 + c.toNat / 262144)) (octet (0x80 + c.toNat / 4096 % 64)) = true := by
    apply follows_eq_true hsecond <;> omega
  have hpiece := firstPiece_append [octet (0x80 + c.toNat / 64 % 64), octet (0x80 + c.toNat % 64)]
    (lengthFrom_eq_four (by omega)) hfollows (by simp [hthird, hlast])
  have hchar : charOfOctets [octet (0xF0 + c.toNat / 262144), octet (0x80 + c.toNat / 4096 % 64),
      octet (0x80 + c.toNat / 64 % 64), octet (0x80 + c.toNat % 64)] = c := by
    rw [charOfOctets, hfirst, hnext, toNat_octet (by omega), toNat_octet (by omega)]
    exact ofNat_eq (by omega)
  rw [hchar] at hpiece
  exact ⟨_, _, by simp [octetsOfChar, show ¬ c.toNat < 0x80 by omega, show ¬ c.toNat < 0x800 by omega,
    Nat.not_lt.mpr hlow], hpiece⟩

/-- **A character's octets are taken for the character**, whatever follows them. -/
theorem isPiece (c : Char) : IsPiece c := by
  by_cases h₁ : c.toNat < 0x80
  · exact isPiece_one h₁
  by_cases h₂ : c.toNat < 0x800
  · exact isPiece_two (Nat.not_lt.mp h₁) h₂
  by_cases h₃ : c.toNat < 0x10000
  · exact isPiece_three (Nat.not_lt.mp h₂) h₃
  · exact isPiece_four (Nat.not_lt.mp h₃)

/-! ## Texts -/

theorem octetsOfChars_cons (c : Char) (cs : List Char) :
    octetsOfChars (c :: cs) = octetsOfChar c ++ octetsOfChars cs := rfl

/-- Characters are read piece by piece, with a step at most for each octet. -/
theorem piecesOf_octetsOfChars {fuel : Nat} {cs : List Char} (h : (octetsOfChars cs).length ≤ fuel) :
    piecesOf fuel (octetsOfChars cs) = cs.map some := by
  induction cs generalizing fuel with
  | nil => cases fuel <;> rfl
  | cons c cs ih =>
    obtain ⟨first, more, hoctets, hpiece⟩ := isPiece c
    rw [octetsOfChars_cons, hoctets, List.cons_append] at h ⊢
    obtain ⟨fuel, rfl⟩ : ∃ k, fuel = k + 1 := ⟨fuel - 1, by simp at h; omega⟩
    have hrest : (octetsOfChars cs).length ≤ fuel := by
      simp only [List.length_cons, List.length_append] at h
      omega
    rw [piecesOf, hpiece]
    simp [ih hrest]

/-- **Octets that characters were written in are these characters.** -/
theorem decode?_octetsOfChars (cs : List Char) : decode? (octetsOfChars cs) = some (String.ofList cs) := by
  have hmap (cs : List Char) : (cs.map some).mapM id = some cs := by
    induction cs with
    | nil => rfl
    | cons c cs ih => simp [List.mapM_cons, ih]
  rw [decode?, decodeChars?, piecesOf_octetsOfChars (Nat.le_refl _), hmap]
  rfl

/-- **Nothing is replaced in what characters were written in.** -/
theorem decodeLossy_octetsOfChars (cs : List Char) :
    decodeLossy (octetsOfChars cs) = String.ofList cs := by
  have hkept (cs : List Char) : (cs.map some).map (fun piece => piece.getD '\ufffd') = cs := by
    simp [Function.comp_def]
  rw [decodeLossy, piecesOf_octetsOfChars (Nat.le_refl _), hkept]

end Bursar.Text
