import Bursar.Text.Blank
import Bursar.Text.Numeral
import Mathlib.Algebra.Group.Nat.Defs
import Mathlib.Data.List.Basic
import Mathlib.Data.List.TakeWhile

/-!
# Written numerals

A numeral is read back from its digits, whatever value they are read onto
(`digitsValue?_add`): a run of digits shifts that value to the left and adds its own.
So a run can be cut anywhere, and readers that take one digit after the other come to
the number that was written (`digitsValue?_digitsOnto`, `digitsValue?_padded`).

Digits are no blanks: nothing is trimmed off a text that starts and ends with one.
-/

namespace Bursar.Text

/-! ## Trimming -/

/-- Nothing is dropped in front of a character that is no blank. -/
theorem trimStart_cons {c : Char} (h : isBlank c = false) (cs : List Char) :
    trimStart (c :: cs) = c :: cs := by
  simp [trimStart, h]

/-- Nothing is trimmed off characters that are no blanks. -/
theorem trimChars_of_no_blank {cs : List Char} (h : ∀ c ∈ cs, isBlank c = false) :
    trimChars cs = cs := by
  have hkept {ds : List Char} (hd : ∀ c ∈ ds, isBlank c = false) : ds.dropWhile isBlank = ds := by
    cases ds with
    | nil => rfl
    | cons d ds => exact trimStart_cons (hd d List.mem_cons_self) ds
  rw [trimChars, trimStart, hkept h, trimEnd, hkept fun c hc => h c (List.mem_reverse.mp hc),
    List.reverse_reverse]

theorem trimEnd_eq_nil_iff {cs : List Char} : trimEnd cs = [] ↔ ∀ c ∈ cs, isBlank c = true := by
  simp [trimEnd, List.dropWhile_eq_nil_iff]

/-- All that is trimmed off is blanks: nothing is left exactly of a text of blanks. -/
theorem trimChars_eq_nil_iff {cs : List Char} : trimChars cs = [] ↔ ∀ c ∈ cs, isBlank c = true := by
  induction cs with
  | nil => simp [trimChars, trimStart, trimEnd]
  | cons c cs ih =>
    by_cases hc : isBlank c = true
    · have hdropped : trimChars (c :: cs) = trimChars cs := by simp [trimChars, trimStart, hc]
      rw [hdropped, ih]
      simp [hc]
    · rw [trimChars, trimStart_cons (Bool.eq_false_iff.mpr hc), trimEnd_eq_nil_iff]

theorem isEmpty_trim (s : String) : (trim s).isEmpty = isBlankText s := by
  rw [Bool.eq_iff_iff, String.isEmpty_iff, isBlankText, List.all_eq_true, ← trimChars_eq_nil_iff, trim,
    ← String.toList_inj, String.toList_ofList]
  rfl

/-! ## Digits -/

/-- The character is a decimal digit. -/
def IsDigit (c : Char) : Prop := ∃ d, digitValue? c = some d

theorem digitValue?_digitChar (n : Nat) : digitValue? (digitChar n) = some (n % 10) := by
  have hdigit : ∀ d < 10, digitValue? (Char.ofNat (48 + d)) = some d := by decide
  exact hdigit (n % 10) (Nat.mod_lt n (by decide))

theorem digitValue?_eq_some {c : Char} {d : Nat} (h : digitValue? c = some d) :
    48 ≤ c.toNat ∧ c.toNat ≤ 57 ∧ d = c.toNat - 48 := by
  unfold digitValue? at h
  split at h
  · rename_i hc
    have hlow : 48 ≤ c.toNat := hc.1
    have hhigh : c.toNat ≤ 57 := hc.2
    exact ⟨hlow, hhigh, (Option.some.inj h).symm⟩
  · cases h

theorem IsDigit.range {c : Char} (h : IsDigit c) : 48 ≤ c.toNat ∧ c.toNat ≤ 57 := by
  obtain ⟨d, hd⟩ := h
  exact ⟨(digitValue?_eq_some hd).1, (digitValue?_eq_some hd).2.1⟩

/-- A digit is none of the characters of other numbers. -/
theorem IsDigit.ne {c : Char} (h : IsDigit c) {e : Char} (he : digitValue? e = none) : c ≠ e := by
  rintro rfl
  obtain ⟨d, hd⟩ := h
  rw [he] at hd
  cases hd

theorem IsDigit.not_blank {c : Char} (h : IsDigit c) : isBlank c = false := by
  have hc := h.range
  have hranges : ∀ r ∈ blankRanges, ¬ (r.1 ≤ c.toNat ∧ c.toNat ≤ r.2) := by
    simp only [blankRanges, List.forall_mem_cons, List.not_mem_nil, false_imp_iff, implies_true,
      and_true]
    omega
  simpa [isBlank, -Prod.forall] using hranges

theorem isDigit_iff {c : Char} : IsDigit c ↔ (digitValue? c).isSome = true :=
  Option.isSome_iff_exists.symm

/-! ## Runs of digits -/

theorem digitsValue?_cons {v d : Nat} {c : Char} (h : digitValue? c = some d) (cs : List Char) :
    digitsValue? v (c :: cs) = digitsValue? (v * 10 + d) cs := by
  rw [digitsValue?, h, Option.bind_some]

/-- The first digit of a run, and the run after it. -/
theorem digitsValue?_cons_eq_some {v n : Nat} {c : Char} {cs : List Char}
    (h : digitsValue? v (c :: cs) = some n) :
    ∃ d, digitValue? c = some d ∧ digitsValue? (v * 10 + d) cs = some n := by
  rw [digitsValue?] at h
  exact Option.bind_eq_some_iff.mp h

theorem digitsValue?_append (v : Nat) (cs ds : List Char) :
    digitsValue? v (cs ++ ds) = (digitsValue? v cs).bind fun m => digitsValue? m ds := by
  induction cs generalizing v with
  | nil => rfl
  | cons c cs ih =>
    simp only [List.cons_append, digitsValue?, ih, Option.bind_assoc]

/-- **A run of digits shifts the value that it is read onto, and adds its own.** -/
theorem digitsValue?_add {w n : Nat} {cs : List Char} (h : digitsValue? w cs = some n) (v : Nat) :
    digitsValue? (v + w) cs = some (v * 10 ^ cs.length + n) := by
  induction cs generalizing v w with
  | nil =>
    obtain rfl := Option.some.inj h
    simp [digitsValue?]
  | cons c cs ih =>
    obtain ⟨d, hd, hcs⟩ := digitsValue?_cons_eq_some h
    have hshift : (v + w) * 10 + d = v * 10 + (w * 10 + d) := by omega
    rw [digitsValue?_cons hd, hshift, ih hcs, List.length_cons, Nat.pow_succ', Nat.mul_assoc]

theorem digitsValue?_onto {n : Nat} {cs : List Char} (h : digitsValue? 0 cs = some n) (v : Nat) :
    digitsValue? v cs = some (v * 10 ^ cs.length + n) := digitsValue?_add h v

/-- Digits only make a value greater. -/
theorem le_of_digitsValue? {v n : Nat} {cs : List Char} (h : digitsValue? v cs = some n) : v ≤ n := by
  induction cs generalizing v with
  | nil => exact Nat.le_of_eq (Option.some.inj h)
  | cons c cs ih =>
    obtain ⟨d, -, hcs⟩ := digitsValue?_cons_eq_some h
    have hle := ih hcs
    omega

theorem isDigit_of_digitsValue? {v n : Nat} {cs : List Char} (h : digitsValue? v cs = some n) :
    ∀ c ∈ cs, IsDigit c := by
  induction cs generalizing v with
  | nil => nofun
  | cons c cs ih =>
    obtain ⟨d, hd, hcs⟩ := digitsValue?_cons_eq_some h
    intro e he
    rcases List.mem_cons.mp he with rfl | he
    · exact ⟨d, hd⟩
    · exact ih hcs e he

/-- A run of digits that is not empty starts with a digit. -/
theorem exists_cons_of_digitsValue? {v n : Nat} {cs : List Char} (h : digitsValue? v cs = some n)
    (hne : cs ≠ []) : ∃ c ds, cs = c :: ds ∧ IsDigit c := by
  cases cs with
  | nil => exact absurd rfl hne
  | cons c ds => exact ⟨c, ds, rfl, isDigit_of_digitsValue? h c List.mem_cons_self⟩

/-- A run of digits ends where no digit follows. -/
theorem takeWhile_digits {cs rest : List Char} (h : ∀ c ∈ cs, IsDigit c)
    (hrest : ∀ c ∈ rest.head?, digitValue? c = none) :
    (cs ++ rest).takeWhile (fun c => (digitValue? c).isSome) = cs := by
  rw [List.takeWhile_append_of_pos fun c hc => isDigit_iff.mp (h c hc)]
  cases rest with
  | nil => simp
  | cons c rest => simp [hrest c rfl]

/-! ## Written numerals -/

theorem digitsOnto_of_lt {n : Nat} (h : n < 10) (tail : List Char) :
    digitsOnto n tail = digitChar n :: tail := by
  rw [digitsOnto, dif_pos h]

theorem digitsOnto_of_le {n : Nat} (h : 10 ≤ n) (tail : List Char) :
    digitsOnto n tail = digitsOnto (n / 10) (digitChar n :: tail) := by
  rw [digitsOnto, dif_neg (Nat.not_lt.mpr h)]

/-- What follows the digits does not matter to them. -/
theorem digitsOnto_eq (n : Nat) (tail : List Char) : digitsOnto n tail = digitsOnto n [] ++ tail := by
  induction n using Nat.strongRecOn generalizing tail with
  | _ n ih =>
    by_cases h : n < 10
    · rw [digitsOnto_of_lt h, digitsOnto_of_lt h, List.singleton_append]
    · have hle : 10 ≤ n := Nat.not_lt.mp h
      have hlt : n / 10 < n := by omega
      rw [digitsOnto_of_le hle, digitsOnto_of_le hle, ih _ hlt, ih _ hlt [digitChar n],
        List.append_assoc, List.singleton_append]

/-- The last digit stands behind the digits of a tenth. -/
theorem digitsOnto_snoc {n : Nat} (h : 10 ≤ n) :
    digitsOnto n [] = digitsOnto (n / 10) [] ++ [digitChar n] := by
  rw [digitsOnto_of_le h, digitsOnto_eq]

theorem digitsOnto_ne_nil (n : Nat) : digitsOnto n [] ≠ [] := by
  by_cases h : n < 10
  · simp [digitsOnto_of_lt h]
  · simp [digitsOnto_snoc (Nat.not_lt.mp h)]

/-- **A number is read back from its digits.** -/
theorem digitsValue?_digitsOnto (n : Nat) : digitsValue? 0 (digitsOnto n []) = some n := by
  induction n using Nat.strongRecOn with
  | _ n ih =>
    by_cases h : n < 10
    · rw [digitsOnto_of_lt h, digitsValue?_cons (digitValue?_digitChar n), digitsValue?]
      congr 1
      omega
    · have hle : 10 ≤ n := Nat.not_lt.mp h
      rw [digitsOnto_snoc hle, digitsValue?_append, ih _ (by omega), Option.bind_some,
        digitsValue?_cons (digitValue?_digitChar n), digitsValue?]
      congr 1
      omega

/-- A numeral starts with a digit. -/
theorem digitsOnto_eq_cons (n : Nat) : ∃ c cs, digitsOnto n [] = c :: cs ∧ IsDigit c :=
  exists_cons_of_digitsValue? (digitsValue?_digitsOnto n) (digitsOnto_ne_nil n)

theorem length_digitsOnto_le {n width : Nat} (hw : 0 < width) (h : n < 10 ^ width) :
    (digitsOnto n []).length ≤ width := by
  induction width generalizing n with
  | zero => cases hw
  | succ width ih =>
    by_cases hn : n < 10
    · simp [digitsOnto_of_lt hn]
    · have hle : 10 ≤ n := Nat.not_lt.mp hn
      have hpos : 0 < width := by
        by_contra hzero
        obtain rfl : width = 0 := by omega
        exact hn h
      rw [digitsOnto_snoc hle, List.length_append, List.length_singleton]
      have hlt : n / 10 < 10 ^ width := Nat.div_lt_of_lt_mul (by rwa [Nat.pow_succ'] at h)
      exact Nat.succ_le_succ (ih hpos hlt)

/-- No numeral of two or more digits starts with a zero. -/
theorem head?_digitsOnto {n : Nat} (h : 0 < n) : (digitsOnto n []).head? ≠ some '0' := by
  induction n using Nat.strongRecOn with
  | _ n ih =>
    by_cases hn : n < 10
    · have hdigit : ∀ d < 10, 0 < d → digitChar d ≠ '0' := by decide
      rw [digitsOnto_of_lt hn]
      simpa using hdigit n hn h
    · have hle : 10 ≤ n := Nat.not_lt.mp hn
      rw [digitsOnto_snoc hle, List.head?_append_of_ne_nil _ (digitsOnto_ne_nil _)]
      exact ih _ (by omega) (by omega)

theorem toList_ofNat (n : Nat) : (ofNat n).toList = digitsOnto n [] := String.toList_ofList

theorem natural?_of_ne_nil {cs : List Char} (h : cs ≠ []) : natural? cs = digitsValue? 0 cs := by
  cases cs with
  | nil => exact absurd rfl h
  | cons c cs => rfl

theorem natural?_digitsOnto (n : Nat) : natural? (digitsOnto n []) = some n := by
  rw [natural?_of_ne_nil (digitsOnto_ne_nil n), digitsValue?_digitsOnto]

/-- Digits are read without looking for a sign. -/
theorem unsigned?_digitsOnto (max n : Nat) : unsigned? max (digitsOnto n []) = atMost max n := by
  have hvalue := natural?_digitsOnto n
  obtain ⟨c, cs, hcs, hc⟩ := digitsOnto_eq_cons n
  have hplus : c ≠ '+' := hc.ne (by decide)
  rw [hcs] at hvalue ⊢
  rw [unsigned?, hvalue, Option.bind_some]
  rintro ds ⟨⟩
  exact hplus rfl

/-- Digits are read without looking for a sign. -/
theorem signed64Chars?_of_natural? {cs : List Char} {n : Nat} (h : natural? cs = some n) :
    signed64Chars? cs = within64 n := by
  have hne : cs ≠ [] := by
    rintro rfl
    cases h
  obtain ⟨c, ds, rfl, hc⟩ := exists_cons_of_digitsValue? (natural?_of_ne_nil hne ▸ h) hne
  have hplus : c ≠ '+' := hc.ne (by decide)
  have hminus : c ≠ '-' := hc.ne (by decide)
  rw [signed64Chars?, h, Option.bind_some]
  · rintro ds ⟨⟩
    exact hplus rfl
  · rintro ds ⟨⟩
    exact hminus rfl

theorem signed64Chars?_digitsOnto (n : Nat) : signed64Chars? (digitsOnto n []) = within64 n :=
  signed64Chars?_of_natural? (natural?_digitsOnto n)

/-- **An unsigned number of 64 bits is read back from its numeral.** -/
theorem unsigned64?_ofNat {n : Nat} (h : n ≤ maxNat64) : unsigned64? (ofNat n) = some n := by
  rw [unsigned64?, toList_ofNat, unsigned?_digitsOnto, atMost, if_pos h]

/-- **A signed number of 64 bits is read back from its numeral.** -/
theorem signed64?_ofInt {n : Int} (h : minInt64 ≤ n ∧ n ≤ maxInt64) : signed64? (ofInt n) = some n := by
  cases n with
  | ofNat n =>
    rw [signed64?, ofInt, toList_ofNat, signed64Chars?_digitsOnto]
    exact if_pos h
  | negSucc n =>
    have hchars : ("-" ++ ofNat (n + 1)).toList = '-' :: digitsOnto (n + 1) [] := by
      rw [String.toList_append, toList_ofNat]
      rfl
    rw [signed64?, ofInt, hchars, signed64Chars?, natural?_digitsOnto, Option.bind_some]
    exact if_pos h

/-! ## Numerals of a fixed width -/

theorem toList_ofNatPadded (width n : Nat) :
    (ofNatPadded width n).toList =
      List.replicate (width - (digitsOnto n []).length) '0' ++ digitsOnto n [] :=
  String.toList_ofList

theorem digitsValue?_zeros (k v : Nat) : digitsValue? v (List.replicate k '0') = some (v * 10 ^ k) := by
  induction k generalizing v with
  | zero => simp [digitsValue?]
  | succ k ih =>
    have hzero : digitValue? '0' = some 0 := by decide
    rw [List.replicate_succ, digitsValue?_cons hzero, ih, Nat.add_zero, Nat.mul_assoc, Nat.pow_succ']

/-- **A number is read back from its padded digits.** -/
theorem digitsValue?_padded (width n : Nat) :
    digitsValue? 0 (ofNatPadded width n).toList = some n := by
  rw [toList_ofNatPadded, digitsValue?_append, digitsValue?_zeros, Option.bind_some, Nat.zero_mul,
    digitsValue?_digitsOnto]

/-- A numeral of a fixed width starts with a digit. -/
theorem padded_eq_cons (width n : Nat) :
    ∃ c cs, (ofNatPadded width n).toList = c :: cs ∧ IsDigit c := by
  refine exists_cons_of_digitsValue? (digitsValue?_padded width n) ?_
  rw [toList_ofNatPadded]
  exact List.append_ne_nil_of_right_ne_nil _ (digitsOnto_ne_nil n)

theorem natural?_padded (width n : Nat) : natural? (ofNatPadded width n).toList = some n := by
  have hvalue := digitsValue?_padded width n
  obtain ⟨c, cs, hcs, -⟩ := padded_eq_cons width n
  rw [hcs] at hvalue ⊢
  exact hvalue

theorem length_padded {width n : Nat} (hw : 0 < width) (h : n < 10 ^ width) :
    (ofNatPadded width n).toList.length = width := by
  have hle := length_digitsOnto_le hw h
  rw [toList_ofNatPadded, List.length_append, List.length_replicate]
  omega

end Bursar.Text
