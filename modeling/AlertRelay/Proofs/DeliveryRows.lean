import AlertRelay.Proofs.CheckedValues
import AlertRelay.Proofs.DeliveryKeys
import AlertRelay.Proofs.ServiceCalls

/-!
# Rows of the delivery table

Looking up a first delivery makes one kind of call, a consistent read of the row under the delivery
key, and recording one makes one kind of call, a write of the row if there is none.  A row that was
recorded is found again with the message that it was recorded for.
-/

namespace AlertRelay

open Program

namespace DeliveryRecord

variable (alertId : Int) (destination : DestinationId) (messageId : String)
  (externalId : Option String) (recordedAt : Moment)

@[simp]
theorem keyOf_toItem :
    Table.keyOf "delivery_key" (toItem alertId destination messageId externalId recordedAt) =
      deliveryKey alertId destination := by
  simp [toItem, Table.keyOf, Table.attributeText, Json.member?, Attribute.ofText]

theorem textRequired_toItem :
    Attribute.textRequired (toItem alertId destination messageId externalId recordedAt)
      "message_id" = .ok (.text messageId) := by
  have held :
      Attribute.getRequired (toItem alertId destination messageId externalId recordedAt)
        "message_id" = .ok (Attribute.ofText messageId) := by
    simp [toItem, Attribute.getRequired, List.lookup_cons]
  rw [Attribute.textRequired, held]
  rfl

end DeliveryRecord

namespace DeliveryRecord

/-- A record that is read from the row of a delivery refers to the message of the delivery. -/
theorem messageId_of_ofItem_toItem {alertId storedAlert : Int}
    {destination storedDestination : DestinationId} {messageId : String}
    {externalId : Option String} {recordedAt : Moment} {record : DeliveryRecord}
    (read : ofItem alertId destination
      (toItem storedAlert storedDestination messageId externalId recordedAt) = .ok record) :
    record.messageId = messageId := by
  simp only [ofItem, except_bind_eq_ok, Checked.orFail_eq_ok, Checked.seq_eq_valid,
    Checked.map_eq_valid, Checked.within_eq_valid] at read
  obtain ⟨_, _, id, required, _, _, _, _, _, _, _, _, ⟨given, text, rfl⟩, _, rfl⟩ := read
  rw [textRequired_toItem] at required
  cases required
  cases text
  rfl

end DeliveryRecord

namespace Attribute

theorem itemOf_item (item : Json) :
    itemOf (.object [("Item", item)]) = .ok (if item.isTruthy then some item else none) :=
  rfl

end Attribute

namespace Ledger

variable (ledger : Ledger) (alertId : Int) (destination : DestinationId)

/-- The call that looks up a first delivery. -/
def readCall : ServiceCall :=
  ledger.tables.call
    (.getItem ledger.table
      (.object [("delivery_key", Attribute.ofText (deliveryKey alertId destination))])
      [("ConsistentRead", .bool true)])

/-- The call that stores the row of a first delivery, unless there is one. -/
def writeCall (item : Json) : ServiceCall :=
  ledger.tables.call (.putItem ledger.table item firstWrite)

theorem sent_read :
    ledger.tables.sent (.getItem ledger.table
      (.object [("delivery_key", Attribute.ofText (deliveryKey alertId destination))])
      [("ConsistentRead", .bool true)]) = ledger.readCall alertId destination := by
  simp [TableClient.sent, Operation.options, Operation.withOptions, Repetition.otherOptions,
    Repetition.retriesOption, Repetition.backoffOption, readCall]

private theorem sent_write (item : Json) :
    ledger.tables.sent (.putItem ledger.table item firstWrite) = ledger.writeCall item := by
  simp [TableClient.sent, Operation.options, Operation.withOptions, Repetition.otherOptions,
    Repetition.retriesOption, Repetition.backoffOption, writeCall, firstWrite]

section Requests

variable {allowed : Request → Prop} (routine : ∀ request, request.Routine → allowed request)
  {ledger} {alertId} {destination}

include routine

theorem makes_firstDelivery (read : allowed (.service (ledger.readCall alertId destination))) :
    (ledger.firstDelivery alertId destination).Makes allowed := by
  refine makes_bind (TableClient.makes_getItem routine ?_) fun outcome => ?_
  · rw [sent_read]
    exact read
  · split
    · refine makes_bind makes_ofExcept fun found => ?_
      split
      · exact .done _
      · exact makes_bind makes_ofExcept fun _ => .done _
    · exact .fail _

theorem makes_record {messageId : String} {externalId : Option String}
    (written : ∀ now recordedAt, universal now = .ok recordedAt →
      allowed (.service (ledger.writeCall
        (DeliveryRecord.toItem alertId destination messageId externalId recordedAt)))) :
    (ledger.record destination alertId messageId externalId).Makes allowed := by
  refine makes_bind (makes_bind (makes_request.mpr (routine _ trivial)) fun _ => makes_ofExcept)
    fun now => makes_ofExcept_bind fun recordedAt stamped => ?_
  refine makes_bind (TableClient.makes_putItem routine ?_) fun outcome => ?_
  · rw [sent_write]
    exact written now recordedAt stamped
  · split
    · exact makes_reported routine _ _ _ _ _
    · split
      · exact makes_reported routine _ _ _ _ _
      · exact .done _

end Requests

/-- What the answer to a look-up is read as. -/
def Reads (alertId : Int) (destination : DestinationId) (response : Json) :
    Option DeliveryRecord → Prop
  | none => Attribute.itemOf response = .ok none
  | some record => ∃ item, Attribute.itemOf response = .ok (some item) ∧
      DeliveryRecord.ofItem alertId destination item = .ok record

/-- What a look-up found was in an answer of the service. -/
theorem answered_of_ends_firstDelivery {ledger : Ledger} {alertId : Int}
    {destination : DestinationId} {exchanges : List Exchange} {found : Option DeliveryRecord}
    (ended : (ledger.firstDelivery alertId destination).Ends exchanges (.ok found)) :
    ∃ response, ⟨.service (ledger.readCall alertId destination), .ok response⟩ ∈ exchanges ∧
      Reads alertId destination response found := by
  obtain ⟨first, second, outcome, rfl, got, rest⟩ := ends_bind_ok.mp ended
  split at rest
  · rename_i success
    have answered := TableClient.answered_of_ends_getItem got success
    rw [sent_read] at answered
    refine ⟨outcome.data, List.mem_append_left _ answered, ?_⟩
    obtain ⟨_, _, item, _, itemRead, rest⟩ := ends_bind_ok.mp rest
    obtain ⟨_, sameItem⟩ := ends_ofExcept.mp itemRead
    cases item with
    | none =>
        obtain ⟨_, same⟩ := ends_done.mp rest
        cases same
        exact sameItem.symm
    | some item =>
        obtain ⟨_, _, record, _, recordRead, rest⟩ := ends_bind_ok.mp rest
        obtain ⟨_, sameRecord⟩ := ends_ofExcept.mp recordRead
        obtain ⟨_, same⟩ := ends_done.mp rest
        cases same
        exact ⟨item, sameItem.symm, sameRecord.symm⟩
  · simp at rest

end Ledger

namespace Store

variable {store after : Store} {ledger : Ledger} {alertId : Int} {destination : DestinationId}

/-- A consistent look-up that is answered tells the row under the delivery key. -/
theorem Answers.tells_row {response : Json}
    (answers : store.Answers ⟨.service (ledger.readCall alertId destination), .ok response⟩ after) :
    response = match store.row? ledger.table (deliveryKey alertId destination) with
      | some item => .object [("Item", item)]
      | none => .object [] := by
  cases answers with
  | service served =>
      cases served with
      | answered _ told => exact told (by simp)
  | elsewhere noCall => exact absurd rfl (noCall _)

end Store
end AlertRelay
