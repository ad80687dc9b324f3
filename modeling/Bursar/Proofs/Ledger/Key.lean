import Bursar.Spend.Command

/-!
# Keys are never blank

A blank key stands for no key, so no record may carry one. The keys that the
ledger makes up itself have a hyphen in them, and a caller's key replaces the
derived one only if it is not blank (`isEmpty_resolveKey`).
-/

namespace Bursar

theorem Text.isBlankText_append (s t : String) :
    Text.isBlankText (s ++ t) = (Text.isBlankText s && Text.isBlankText t) := by
  simp [Text.isBlankText, String.toList_append]

namespace IdempotencyKey

theorem isEmpty_ofDeposit (ledger : Uuid) : (ofDeposit ledger).isEmpty = false := by
  have h : Text.isBlankText "-initial-deposit" = false := by decide
  simp [ofDeposit, isEmpty, Text.isBlankText_append, h]

theorem isEmpty_ofEnrollment (ledger subsidy : Uuid) (learner : Int) (content : String)
    (policy : Uuid) : (ofEnrollment ledger subsidy learner content policy).isEmpty = false := by
  have h : Text.isBlankText "-" = false := by decide
  simp [ofEnrollment, isEmpty, Text.isBlankText_append, h]

end IdempotencyKey

/-- Whatever key a command comes with, the one it is carried out under is not blank. -/
theorem SpendCommand.isEmpty_resolveKey (c : SpendCommand) (ledger : Uuid) :
    (c.resolveKey ledger).isEmpty = false := by
  unfold resolveKey
  cases c.key with
  | none => exact IdempotencyKey.isEmpty_ofEnrollment ..
  | some key =>
    by_cases hk : key.isEmpty = true
    · simpa [hk] using IdempotencyKey.isEmpty_ofEnrollment ..
    · simp [hk]

end Bursar
