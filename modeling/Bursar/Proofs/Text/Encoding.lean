import Bursar.Sha256
import Bursar.Text.Hexadecimal
import Bursar.Text.Utf8
import Mathlib.Algebra.Group.Nat.Defs
import Mathlib.Logic.Function.Basic

/-!
# Encodings lose nothing

Digits, octets and texts can be told from what they are written as: no two octets
have the same two digits (`Text.hexOfOctets_injective`), no two numbers that fit
have the same octets (`Sha256.bigEndian_injective`), and no two texts have the same
octets (`Text.octetsOf_injective`). The last one is taken over from the strings
themselves, whose own octets are the same (`Text.toByteArray_octetsOf`).
-/

namespace Bursar

namespace Text

/-! ## Hexadecimal digits -/

@[simp] theorem hexValue?_hexChar (d : Fin 16) : hexValue? (hexChar d) = some d := by
  revert d
  decide

@[simp] theorem hexValue?_hexCharUpper (d : Fin 16) : hexValue? (hexCharUpper d) = some d := by
  revert d
  decide

theorem hexChar_injective : Function.Injective hexChar := by
  intro d e h
  have hd := hexValue?_hexChar d
  rw [h, hexValue?_hexChar] at hd
  exact (Option.some.inj hd).symm

@[simp] theorem isHex_hexChar (d : Fin 16) : isHex (hexChar d) = true := by
  simp [isHex]

/-- The digits of an octet make up the octet. -/
theorem octetOfDigits_octetDigits (b : UInt8) :
    octetOfDigits (octetDigits b).1 (octetDigits b).2 = b := by
  have hb : b.toNat < 256 := b.toNat_lt
  apply UInt8.toNat_inj.mp
  simp only [octetOfDigits, octetDigits, lastHex, Fin.val_ofNat, UInt8.toNat_ofNat']
  omega

theorem octetDigits_octetOfDigits (high low : Fin 16) :
    octetDigits (octetOfDigits high low) = (high, low) := by
  have hh := high.isLt
  have hl := low.isLt
  simp only [octetOfDigits, octetDigits, lastHex, UInt8.toNat_ofNat', Prod.mk.injEq, Fin.ext_iff,
    Fin.val_ofNat]
  omega

theorem hexOfOctets_cons (b : UInt8) (bs : List UInt8) :
    hexOfOctets (b :: bs) =
      hexChar (octetDigits b).1 :: hexChar (octetDigits b).2 :: hexOfOctets bs := rfl

theorem hexOfOctets_injective : Function.Injective hexOfOctets := by
  intro bs cs h
  induction bs generalizing cs with
  | nil =>
    cases cs with
    | nil => rfl
    | cons c cs => cases h
  | cons b bs ih =>
    cases cs with
    | nil => cases h
    | cons c cs =>
      simp only [hexOfOctets_cons, List.cons.injEq] at h
      obtain ⟨hhigh, hlow, hrest⟩ := h
      have hb : b = c := by
        rw [← octetOfDigits_octetDigits b, ← octetOfDigits_octetDigits c, hexChar_injective hhigh,
          hexChar_injective hlow]
      rw [hb, ih hrest]

theorem isHex_of_mem_hexOfOctets {bs : List UInt8} {c : Char} (h : c ∈ hexOfOctets bs) :
    isHex c = true := by
  obtain ⟨b, -, hc⟩ := List.mem_flatMap.mp h
  simp only [List.mem_cons, List.not_mem_nil, or_false] at hc
  rcases hc with rfl | rfl
  · exact isHex_hexChar _
  · exact isHex_hexChar _

theorem length_hexOfOctets (bs : List UInt8) : (hexOfOctets bs).length = 2 * bs.length := by
  induction bs with
  | nil => rfl
  | cons b bs ih =>
    rw [hexOfOctets_cons, List.length_cons, List.length_cons, List.length_cons, ih]
    omega

/-! ## Texts -/

/-- The octets of a character are those that strings are made of. -/
theorem octetsOfChar_eq (c : Char) : octetsOfChar c = String.utf8EncodeChar c := by
  have hc : c.toNat < 1114112 := by
    have hvalid := c.valid
    simp only [UInt32.isValidChar, Nat.isValidChar] at hvalid
    change c.val.toNat < 1114112
    omega
  have hval : c.val.toNat = c.toNat := rfl
  -- the bounds of the two definitions are the same, and so are the parts of the number
  by_cases h₁ : c.toNat < 128
  · simp [octetsOfChar, octet, String.utf8EncodeChar, hval, h₁, Nat.le_of_lt_succ h₁]
  by_cases h₂ : c.toNat < 2048
  · have hhigh : 192 + c.toNat / 64 = c.toNat / 64 % 32 + 192 := by omega
    simp only [octetsOfChar, octet, String.utf8EncodeChar, hval, h₁, h₂, if_true, if_false, hhigh,
      show ¬ c.toNat ≤ 127 by omega, show c.toNat ≤ 2047 by omega, Nat.add_comm 128]
  by_cases h₃ : c.toNat < 65536
  · have hhigh : 224 + c.toNat / 4096 = c.toNat / 4096 % 16 + 224 := by omega
    simp only [octetsOfChar, octet, String.utf8EncodeChar, hval, h₁, h₂, h₃, if_true, if_false,
      hhigh, show ¬ c.toNat ≤ 127 by omega, show ¬ c.toNat ≤ 2047 by omega,
      show c.toNat ≤ 65535 by omega, Nat.add_comm 128]
  · have hhigh : 240 + c.toNat / 262144 = c.toNat / 262144 % 8 + 240 := by omega
    simp only [octetsOfChar, octet, String.utf8EncodeChar, hval, h₁, h₂, h₃, if_false, hhigh,
      show ¬ c.toNat ≤ 127 by omega, show ¬ c.toNat ≤ 2047 by omega,
      show ¬ c.toNat ≤ 65535 by omega, Nat.add_comm 128]

/-- The octets of a text are those of the string. -/
theorem toByteArray_octetsOf (s : String) : (octetsOf s).toByteArray = s.toByteArray := by
  have hchars : octetsOfChar = String.utf8EncodeChar := funext octetsOfChar_eq
  rw [← String.utf8Encode_toList, List.utf8Encode, octetsOf, octetsOfChars, hchars]

theorem octetsOf_injective : Function.Injective octetsOf := by
  intro s t h
  rw [← String.toByteArray_inj, ← toByteArray_octetsOf, ← toByteArray_octetsOf, h]

end Text

namespace Sha256

/-! ## Numbers -/

@[simp] theorem length_bigEndian (count n : Nat) : (bigEndian count n).length = count := by
  induction count generalizing n with
  | zero => rfl
  | succ count ih => simp [bigEndian, ih]

/-- Numbers that fit have octets of their own. -/
theorem bigEndian_injective {count n m : Nat} (hn : n < 256 ^ count) (hm : m < 256 ^ count)
    (h : bigEndian count n = bigEndian count m) : n = m := by
  induction count generalizing n m with
  | zero =>
    rw [Nat.pow_zero] at hn hm
    omega
  | succ count ih =>
    rw [Nat.pow_succ] at hn hm
    obtain ⟨hhigh, hlow⟩ := List.append_inj h (by simp)
    have hquotient : n / 256 = m / 256 :=
      ih (Nat.div_lt_of_lt_mul (by omega)) (Nat.div_lt_of_lt_mul (by omega)) hhigh
    have hrest : (UInt8.ofNat n).toNat = (UInt8.ofNat m).toNat := by
      rw [(List.cons.inj hlow).1]
    simp only [UInt8.toNat_ofNat'] at hrest
    omega

end Sha256
end Bursar
