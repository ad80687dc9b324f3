import Bursar.Ledger.Key
import Bursar.Proofs.Text.Identifier

/-!
# Derived keys

The key of an enrollment is the ledger and the digest of what identifies the
enrollment. Subsidy, learner, content and policy are written one after the other
without a sign in between; only the content has no fixed length, and it is the only
one, so what is written tells all four (`enrollmentOctets_injective`). Up to
collisions of the digest, a derived key then tells the ledger and the enrollment
(`ofEnrollment_injective`). It is never the key of a deposit
(`ofEnrollment_ne_ofDeposit`), which is no hexadecimal number.
-/

namespace Bursar

/-- Two messages that the digest does not tell apart. -/
def Sha256.Collides (m m' : List UInt8) : Prop := m ≠ m' ∧ digest m = digest m'

/-- An integer of 64 signed bits. -/
def Text.Fits64 (n : Int) : Prop := minInt64 ≤ n ∧ n ≤ maxInt64

/-- A written identifier can be cut off from what follows it. -/
theorem Uuid.toString_append_inj {u v : Uuid} {s t : String}
    (h : u.toString ++ s = v.toString ++ t) : u = v ∧ s = t := by
  have hchars : u.toChars ++ s.toList = v.toChars ++ t.toList := by
    have hlist := congrArg String.toList h
    simpa [Uuid.toString, String.toList_append] using hlist
  have hlength : u.toChars.length = v.toChars.length := by
    rw [length_toChars, length_toChars]
  obtain ⟨huv, hst⟩ := List.append_inj hchars hlength
  exact ⟨toString_injective (congrArg String.ofList huv), String.toList_inj.mp hst⟩

namespace IdempotencyKey

variable {ledger ledger' subsidy subsidy' policy policy' : Uuid} {learner learner' : Int}
variable {content content' : String}

theorem length_octetsOfInt (n : Int) : (octetsOfInt n).length = 8 := Sha256.length_bigEndian _ _

/-- Two's complement tells the integers of 64 bits apart. -/
theorem octetsOfInt_injective {n m : Int} (hn : Text.Fits64 n) (hm : Text.Fits64 m)
    (h : octetsOfInt n = octetsOfInt m) : n = m := by
  have hpow : (Nat.pow 2 64 : Int) = 18446744073709551616 := rfl
  have hfits (n : Int) : (n % (Nat.pow 2 64 : Int)).toNat < 256 ^ 8 := by
    rw [hpow]
    omega
  have hsame := Sha256.bigEndian_injective (hfits n) (hfits m) h
  simp only [Text.Fits64, Text.minInt64, Text.maxInt64] at hn hm
  rw [hpow] at hsame
  omega

/-- **What identifies an enrollment is told by its octets.** -/
theorem enrollmentOctets_injective (hl : Text.Fits64 learner) (hl' : Text.Fits64 learner')
    (h : enrollmentOctets subsidy learner content policy =
      enrollmentOctets subsidy' learner' content' policy') :
    subsidy = subsidy' ∧ learner = learner' ∧ content = content' ∧ policy = policy' := by
  -- the policy is cut off at the end, then the subsidy and the learner at the front
  obtain ⟨hrest, hpolicy⟩ := List.append_inj' h (by rw [Uuid.length_octets, Uuid.length_octets])
  have hfixed : (subsidy.octets ++ octetsOfInt learner).length =
      (subsidy'.octets ++ octetsOfInt learner').length := by
    simp [Uuid.length_octets, length_octetsOfInt]
  obtain ⟨hlead, hcontent⟩ := List.append_inj hrest hfixed
  obtain ⟨hsubsidy, hlearner⟩ :=
    List.append_inj hlead (by rw [Uuid.length_octets, Uuid.length_octets])
  exact ⟨Uuid.octets_injective hsubsidy, octetsOfInt_injective hl hl' hlearner,
    Text.octetsOf_injective hcontent, Uuid.octets_injective hpolicy⟩

/-- Equal derived keys have the ledger in common, and the digest of the enrollment. -/
theorem digest_eq_of_ofEnrollment_eq
    (h : ofEnrollment ledger subsidy learner content policy =
      ofEnrollment ledger' subsidy' learner' content' policy') :
    ledger = ledger' ∧
      Sha256.digest (enrollmentOctets subsidy learner content policy) =
        Sha256.digest (enrollmentOctets subsidy' learner' content' policy') := by
  have htext := congrArg text h
  simp only [ofEnrollment, String.append_assoc] at htext
  obtain ⟨hledger, hrest⟩ := Uuid.toString_append_inj htext
  have hhex := congrArg String.toList hrest
  simp only [String.toList_append, String.toList_ofList, List.append_cancel_left_eq] at hhex
  exact ⟨hledger, Text.hexOfOctets_injective hhex⟩

/-- **Up to collisions of the digest, a derived key tells the ledger and the enrollment.** -/
theorem ofEnrollment_injective (hl : Text.Fits64 learner) (hl' : Text.Fits64 learner')
    (hdigest : ¬ Sha256.Collides (enrollmentOctets subsidy learner content policy)
      (enrollmentOctets subsidy' learner' content' policy'))
    (h : ofEnrollment ledger subsidy learner content policy =
      ofEnrollment ledger' subsidy' learner' content' policy') :
    ledger = ledger' ∧ subsidy = subsidy' ∧ learner = learner' ∧ content = content' ∧
      policy = policy' := by
  obtain ⟨hledger, hsame⟩ := digest_eq_of_ofEnrollment_eq h
  have hoctets := not_not.mp fun hne => hdigest ⟨hne, hsame⟩
  exact ⟨hledger, enrollmentOctets_injective hl hl' hoctets⟩

/-- **A derived key is no key of a deposit.** -/
theorem ofEnrollment_ne_ofDeposit (ledger ledger' subsidy policy : Uuid) (learner : Int)
    (content : String) :
    ofEnrollment ledger subsidy learner content policy ≠ ofDeposit ledger' := by
  intro h
  have htext := congrArg text h
  have hdeposit : "-initial-deposit" = "-" ++ "initial-deposit" := by decide
  simp only [ofEnrollment, ofDeposit, String.append_assoc, hdeposit] at htext
  obtain ⟨-, hrest⟩ := Uuid.toString_append_inj htext
  have hhex := congrArg String.toList hrest
  simp only [String.toList_append, String.toList_ofList, List.append_cancel_left_eq] at hhex
  -- behind the hyphen stands an `i`, which is no digit
  have hi : 'i' ∈ "initial-deposit".toList := by decide
  rw [← hhex] at hi
  exact absurd (Text.isHex_of_mem_hexOfOctets hi) (by decide)

end IdempotencyKey
end Bursar
