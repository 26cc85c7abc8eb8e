import AlertRelay.Proofs.CheckedValues
import AlertRelay.Delivery.Ledger
import AlertRelay.Dispatch.Build

/-!
# Raw failures

The failures of the dispatch and of the provider layer say what was being done when they came up.
All others are raw.  Reading stored items and checking data against its model only ever fail raw,
which is why their callers have to wrap what they pass on.
-/

namespace AlertRelay

namespace Failure

/-- Whether the failure is one of the dispatch or of the provider layer. -/
def isLibrary (failure : Failure) : Bool := failure.isDispatch || failure.isProvider

/-- The failure belongs neither to the dispatch nor to the provider layer. -/
def IsRaw (failure : Failure) : Prop := failure.isLibrary = false

instance (failure : Failure) : Decidable failure.IsRaw :=
  inferInstanceAs (Decidable (_ = _))

theorem IsRaw.ne_of_isLibrary {failure other : Failure} (raw : failure.IsRaw)
    (library : other.isLibrary = true) : failure ≠ other := by
  rintro rfl
  rw [IsRaw, library] at raw
  cases raw

/-- Which failures can come out of a computation. -/
def Only {α : Type} (holds : Failure → Prop) (result : Except Failure α) : Prop :=
  ∀ failure, result = .error failure → holds failure

section Only

variable {α β : Type} {holds : Failure → Prop}

theorem only_ok (value : α) : Only holds (.ok value) := by
  rintro failure ⟨⟩

theorem only_error {failure : Failure} (satisfied : holds failure) :
    Only holds (.error failure : Except Failure α) := by
  rintro _ ⟨⟩
  exact satisfied

/-- A composition fails as one of its parts does. -/
theorem only_bind {result : Except Failure α} {next : α → Except Failure β}
    (first : Only holds result) (later : ∀ value, Only holds (next value)) :
    Only holds (result >>= next) := by
  cases result with
  | ok value => exact later value
  | error failure => exact only_error (first failure rfl)

end Only

end Failure

open Failure

/-- Data that does not fit its model fails raw. -/
theorem Checked.onlyRaw_orFail {α : Type} (model : String) (checked : Checked α) :
    Only IsRaw (checked.orFail model) := by
  cases checked with
  | valid value => exact only_ok value
  | invalid first more => exact only_error rfl

namespace Outcome

theorem onlyRaw_ofServiceCode (code : Json) : Only IsRaw (ofServiceCode code) := by
  dsimp only [ofServiceCode]
  split
  · split
    · exact only_ok _
    · split
      · exact only_ok _
      · exact only_ok _
  · exact only_error rfl
  · exact only_error rfl
  · exact only_ok _

theorem onlyRaw_ofServiceFailure (failure : Failure) : Only IsRaw (ofServiceFailure failure) := by
  cases failure with
  | service refusal => exact onlyRaw_ofServiceCode refusal.code
  | _ => exact only_ok _

end Outcome

/-! ## Stored items -/

namespace Attribute

variable (data item default : Json) (name : String)

theorem onlyRaw_getOr : Only IsRaw (getOr data name default) := by
  dsimp only [getOr]
  split
  · exact only_ok _
  · exact only_error rfl

theorem onlyRaw_getRequired : Only IsRaw (getRequired data name) := by
  dsimp only [getRequired]
  split
  · split
    · exact only_ok _
    · exact only_error rfl
  · exact only_error rfl
  · exact only_error rfl
  · exact only_error rfl

theorem onlyRaw_textOr : Only IsRaw (textOr item name default) :=
  only_bind (onlyRaw_getOr _ _ _) fun _ => onlyRaw_getOr _ _ _

theorem onlyRaw_textRequired : Only IsRaw (textRequired item name) :=
  only_bind (onlyRaw_getRequired _ _) fun _ => onlyRaw_getRequired _ _

theorem onlyRaw_itemOf (response : Json) : Only IsRaw (itemOf response) :=
  only_bind (onlyRaw_getOr _ _ _) fun _ => only_ok _

end Attribute

namespace DeliveryRecord

theorem onlyRaw_stateOf (value : Json) : Only IsRaw (stateOf value) := by
  dsimp only [stateOf]
  split
  · exact only_ok _
  · exact only_error rfl

theorem onlyRaw_momentOf (value : Json) : Only IsRaw (momentOf value) := by
  dsimp only [momentOf]
  split
  · split
    · split
      · exact only_ok _
      · exact only_error rfl
    · exact only_error rfl
  · exact only_ok _

/-- Whatever is wrong with the row of a delivery, reading it fails raw. -/
theorem onlyRaw_ofItem (alertId : Int) (destination : DestinationId) (item : Json) :
    Only IsRaw (ofItem alertId destination item) := by
  refine only_bind (Attribute.onlyRaw_textOr _ _ _) fun recordedAt => ?_
  refine only_bind (Attribute.onlyRaw_textRequired _ _) fun messageId => ?_
  refine only_bind (Attribute.onlyRaw_textOr _ _ _) fun externalId => ?_
  have state : Only IsRaw
      ((Attribute.textOr item "state" (.text SendState.sent.name)).bind stateOf) :=
    only_bind (Attribute.onlyRaw_textOr _ _ _) onlyRaw_stateOf
  refine only_bind state fun state => ?_
  refine only_bind (onlyRaw_momentOf _) fun moment => ?_
  exact Checked.onlyRaw_orFail _ _

end DeliveryRecord

namespace BuildOutcome

theorem onlyRaw_serviceParts (parts : List Json) :
    Only IsRaw (serviceParts parts) := by
  dsimp only [serviceParts]
  split
  · exact only_ok _
  · exact only_error rfl

theorem onlyRaw_codeText (code : Json) : Only IsRaw (codeText code) := by
  cases code with
  | integer value => exact only_ok _
  | bool value => exact only_ok _
  | _ => exact only_error rfl

end BuildOutcome

end AlertRelay
