import Bursar.Json.Raw
import Bursar.Proofs.Text.Encoding
import Bursar.Proofs.Text.Numeral

/-!
# Written strings and integers are read back

A string is written in quotes with some of its characters escaped, and read up to the
closing quote; no escape has a quote in it that is not itself escaped, and none is read
as another character (`textToken_escape`). An integer of 64 bits, signed or not, is written
with all its digits, and they are gathered without loss (`foldl_whole`).
-/

namespace Bursar.Json

/-! ## Strings -/

theorem hexFour?_control {n : Nat} (h : n < 32) :
    hexFour? '0' '0' (Text.hexChar (Text.lastHex (n / 16))) (Text.hexChar (Text.lastHex n)) =
      some n := by
  have hzero : Text.hexValue? '0' = some 0 := by decide
  have hhigh : (Text.lastHex (n / 16)).val = n / 16 := Nat.mod_eq_of_lt (by omega)
  have hlow : (Text.lastHex n).val = n % 16 := rfl
  simp only [hexFour?, hzero, Text.hexValue?_hexChar, hhigh, hlow, Option.bind_eq_bind, Option.bind_some,
    Fin.val_zero]
  congr 1
  omega

/-- **An escaped character is read as itself.** -/
theorem textToken_escape (fuel : Nat) (done : List Char) (c : Char) (cs : List Char) :
    textToken (fuel + 1) done false (escape c ++ cs) = textToken fuel (c :: done) false cs := by
  by_cases hsimple : c ∈ ['\x22', '\x5c', '\x08', '\x0c', '\n', '\r', '\t']
  · simp only [List.mem_cons, List.not_mem_nil, or_false] at hsimple
    rcases hsimple with rfl | rfl | rfl | rfl | rfl | rfl | rfl <;> rfl
  · simp only [List.mem_cons, List.not_mem_nil, or_false, not_or] at hsimple
    by_cases hcontrol : c.toNat < 32
    · -- hexadecimal digits, and no surrogate
      have hlow : ¬ (0xDC00 ≤ c.toNat ∧ c.toNat ≤ 0xDFFF) := by omega
      have hhigh : ¬ (0xD800 ≤ c.toNat ∧ c.toNat ≤ 0xDBFF) := by omega
      have hslash : ('\x5c' : Char) ≠ '\x22' ∧ ¬ ('\x5c' : Char).toNat < 32 := by decide
      simp [escape, textToken, hsimple, hcontrol, hslash, hexFour?_control hcontrol, hlow, hhigh,
        Char.ofNat_toNat]
    · simp [escape, textToken, hsimple, hcontrol]

theorem textToken_flatMap_escape (fuel : Nat) (done cs rest : List Char) (h : cs.length < fuel) :
    textToken fuel done false (cs.flatMap escape ++ '\x22' :: rest) =
      .found (some (String.ofList (done.reverse ++ cs))) rest := by
  induction cs generalizing fuel done with
  | nil =>
    obtain ⟨fuel, rfl⟩ : ∃ k, fuel = k + 1 := ⟨fuel - 1, by omega⟩
    simp [textToken]
  | cons c cs ih =>
    obtain ⟨fuel, rfl⟩ : ∃ k, fuel = k + 1 := ⟨fuel - 1, by omega⟩
    rw [List.flatMap_cons, List.append_assoc, textToken_escape,
      ih fuel (c :: done) (Nat.lt_of_succ_lt_succ h), List.reverse_cons, List.append_assoc,
      List.singleton_append]

theorem escape_ne_nil (c : Char) : escape c ≠ [] := by
  unfold escape
  repeat' split
  all_goals exact List.cons_ne_nil _ _

theorem length_le_length_flatMap_escape (cs : List Char) :
    cs.length ≤ (cs.flatMap escape).length := by
  induction cs with
  | nil => exact Nat.le_refl _
  | cons c cs ih =>
    have hpos := List.length_pos_iff.mpr (escape_ne_nil c)
    rw [List.flatMap_cons, List.length_append, List.length_cons]
    omega

/-- **A quoted string is read as itself.** -/
theorem stringToken_quote (s : String) (rest : List Char) :
    stringToken (s.toList.flatMap escape ++ '\x22' :: rest) = .found (some s) rest := by
  have hle := length_le_length_flatMap_escape s.toList
  rw [stringToken, textToken_flatMap_escape, List.reverse_nil, List.nil_append, String.ofList_toList]
  rw [List.length_append, List.length_cons]
  omega

/-! ## Integers -/

/-- A number ends where this follows. -/
def EndsNumber (rest : List Char) : Prop :=
  ∀ c ∈ rest.head?, Text.digitValue? c = none ∧ c ≠ '.' ∧ c ≠ 'e' ∧ c ≠ 'E'

theorem endsNumber_nil : EndsNumber [] := nofun

theorem endsNumber_cons {c : Char} (h : Text.digitValue? c = none ∧ c ≠ '.' ∧ c ≠ 'e' ∧ c ≠ 'E')
    (rest : List Char) : EndsNumber (c :: rest) := by
  intro d hd
  obtain rfl := Option.mem_some.mp hd
  exact h

/-- **Digits are gathered without loss as long as the value has 64 bits.** -/
theorem foldl_whole {v n : Nat} {cs : List Char} (h : Text.digitsValue? v cs = some n)
    (hn : n ≤ Text.maxNat64) :
    (digitValues cs).foldl Gathered.whole ⟨v, 0, false⟩ = ⟨n, 0, false⟩ := by
  induction cs generalizing v with
  | nil =>
    obtain rfl := Option.some.inj h
    rfl
  | cons c cs ih =>
    obtain ⟨d, hd, hcs⟩ := Text.digitsValue?_cons_eq_some h
    have hle := Text.le_of_digitsValue? hcs
    have hfits : ¬ v * 10 + d > Text.maxNat64 := by omega
    have hwhole : Gathered.whole ⟨v, 0, false⟩ d = ⟨v * 10 + d, 0, false⟩ := by
      simp [Gathered.whole, hfits]
    rw [digitValues, List.filterMap_cons_some hd, List.foldl_cons, hwhole]
    exact ih hcs

/-- No written numeral has a zero in front of other digits. -/
theorem no_leading_zero (n : Nat) :
    ¬ ((Text.digitsOnto n []).head? = some '0' ∧ (Text.digitsOnto n []).length > 1) := by
  rintro ⟨hhead, hlength⟩
  rcases Nat.eq_zero_or_pos n with rfl | hpos
  · simp [Text.digitsOnto_of_lt] at hlength
  · exact Text.head?_digitsOnto hpos hhead

/-- **A natural number of 64 bits is read as itself**, with the sign that stood before it. -/
theorem numberToken_digits (isNegative : Bool) {n : Nat} (hn : n ≤ Text.maxNat64) {rest : List Char}
    (hrest : EndsNumber rest) :
    numberToken isNegative (Text.digitsOnto n [] ++ rest) =
      .found (integerNumber isNegative ⟨n, 0, false⟩) rest := by
  have hdigits := Text.digitsValue?_digitsOnto n
  have hleading : leadingDigits (Text.digitsOnto n [] ++ rest) = Text.digitsOnto n [] :=
    Text.takeWhile_digits (Text.isDigit_of_digitsValue? hdigits) fun c hc => (hrest c hc).1
  have hempty : (Text.digitsOnto n []).isEmpty = false := by
    simpa using Text.digitsOnto_ne_nil n
  unfold numberToken
  simp only [hleading, hempty, Bool.false_eq_true, if_false, if_neg (no_leading_zero n),
    foldl_whole hdigits hn, List.drop_left]
  cases rest with
  | nil => rfl
  | cons c rest =>
    obtain ⟨-, hpoint, he, hE⟩ := hrest c rfl
    simp [hpoint, he, hE]

/-- An integer that a number can hold: of 64 bits, with or without a sign. -/
def IsHeld (n : Int) : Prop := Text.minInt64 ≤ n ∧ n ≤ Text.maxNat64

/-- The first character of a numeral: a minus sign or a digit. -/
theorem toList_ofInt (n : Int) :
    (Text.ofInt n).toList =
      if n < 0 then '-' :: Text.digitsOnto n.natAbs [] else Text.digitsOnto n.natAbs [] := by
  cases n with
  | ofNat n => exact Text.toList_ofNat n
  | negSucc n =>
    have hminus : "-".toList = ['-'] := by decide
    rw [Text.ofInt, String.toList_append, hminus, Text.toList_ofNat, List.singleton_append]
    exact (if_pos (Int.negSucc_lt_zero n)).symm

end Bursar.Json
