import AlertRelay.Delivery.Record
import AlertRelay.Table.Attribute
import AlertRelay.Table.Client

/-!
# The ledger of first deliveries

The delivery table keeps the first delivery for each alert and destination.  Writes are
conditional on the absence of the key, so the first write wins, and a write that loses is not an
error.
-/

namespace AlertRelay

/-- The key of an alert and a destination: the number, a separator and the destination. -/
def deliveryKey (alertId : Int) (destination : DestinationId) : String :=
  toString alertId ++ "#" ++ destination.text

namespace DeliveryRecord

/-- The item that stores a first delivery. -/
def toItem (alertId : Int) (destination : DestinationId) (messageId : String)
    (externalId : Option String) (recordedAt : Moment) : Json :=
  .object
    ([("delivery_key", Attribute.ofText (deliveryKey alertId destination)),
      ("alert_id", Attribute.ofInteger alertId),
      ("message_id", Attribute.ofText messageId),
      ("state", Attribute.ofText SendState.sent.name),
      ("recorded_at", Attribute.ofText recordedAt.storedText),
      match destination with
      | .contactMethod id _ => ("contact_method_id", Attribute.ofText id)
      | .channel id _ => ("channel_id", Attribute.ofText id)] ++
    ((externalId.filter (· != "")).map fun id => ("external_id", Attribute.ofText id)).toList)

/-- The state that an item names. -/
def stateOf (value : Json) : Except Failure SendState :=
  let state? := match value with
    | .text name => SendState.ofName? name
    | _ => none
  match state? with
  | some state => .ok state
  | none => .error (.unknownName value.literal "SendState")

/-- The moment that an item names; an empty value counts as absent. -/
def momentOf (value : Json) : Except Failure (Option Moment) :=
  if value.isTruthy then
    match value with
    | .text text =>
        match Moment.ofStoredText text with
        | .ok moment => .ok (some moment)
        | .error fault => .error (.malformed (fault.message text))
    | _ => .error (.shape .noMomentText)
  else .ok none

/-- An optional text in a record; a value that counts as absent is null. -/
def optionalText (name : String) (value : Json) : Checked (Option String) :=
  if value.isTruthy then ((Scalar.text value).map some).within name else .valid none

/-- The record that an item stores for an alert and a destination. -/
def ofItem (alertId : Int) (destination : DestinationId) (item : Json) :
    Except Failure DeliveryRecord := do
  let recordedAt ← Attribute.textOr item "recorded_at" .null
  let messageId ← Attribute.textRequired item "message_id"
  let externalId ← Attribute.textOr item "external_id" .null
  let state ← (Attribute.textOr item "state" (.text SendState.sent.name)).bind stateOf
  let moment ← momentOf recordedAt
  let record : Checked DeliveryRecord :=
    (fun messageId externalId => ⟨messageId, alertId, destination, externalId, state, moment⟩)
      <$> (Scalar.text messageId).within "message_id"
      <*> optionalText "external_id" externalId
  record.orFail "DeliveryRecord"

end DeliveryRecord

/-- The ledger in a table. -/
structure Ledger where
  tables : TableClient
  table : String

namespace Ledger

def component : String := "tracker"

/-- The record of the first delivery for an alert and a destination, when there is one. -/
def firstDelivery (ledger : Ledger) (alertId : Int) (destination : DestinationId) :
    Program (Option DeliveryRecord) := do
  let key := Json.object [("delivery_key", Attribute.ofText (deliveryKey alertId destination))]
  let outcome ← ledger.tables.getItem ledger.table key [("ConsistentRead", .bool true)]
  if outcome.isSuccess then
    match ← Program.ofExcept (Attribute.itemOf outcome.data) with
    | none => pure none
    | some item => some <$> Program.ofExcept (DeliveryRecord.ofItem alertId destination item)
  else .fail (.tracking "lookup original status" outcome.message)

/-- A moment in universal time, which may lie outside of the calendar. -/
def universal (moment : Moment) : Except Failure Moment :=
  match moment.toUniversal? with
  | some moment => .ok moment
  | none => .error .momentOutOfRange

/-- The condition under which a first delivery is written. -/
def firstWrite : List (String × Json) :=
  [("ConditionExpression", .text "attribute_not_exists(delivery_key)")]

/-- Record a delivery unless one is recorded for the alert and the destination. -/
def record (ledger : Ledger) (destination : DestinationId) (alertId : Int) (messageId : String)
    (externalId : Option String) : Program Outcome := do
  let key := deliveryKey alertId destination
  let now ← (Program.request .now).bind Program.ofExcept
  let recordedAt ← Program.ofExcept (universal now)
  let item := DeliveryRecord.toItem alertId destination messageId externalId recordedAt
  let outcome ← ledger.tables.putItem ledger.table item firstWrite
  if outcome.isConflict then do
    Program.log .info component "delivery_already_recorded" [("delivery_key", .text key)]
    pure (.success (.object [("recorded", .bool false)]) "delivery already recorded")
  else if outcome.isSuccess then do
    Program.log .debug component "delivery_recorded"
      [("delivery_key", .text key), ("message_id", .text messageId)]
    pure (.success (.object [("recorded", .bool true)]) "ok")
  else pure outcome

end Ledger
end AlertRelay
