import AlertRelay.Destination

/-!
# Delivery records

The state of a delivery, and the record of the first delivery for an alert and a destination, to
which later status updates refer.
-/

namespace AlertRelay

/-- Where a delivery stands. -/
inductive SendState where
  | pending
  | sending
  | sent
  | delivered
  | failedTemporarily
  | failedPermanently
deriving DecidableEq

namespace SendState

def name : SendState → String
  | pending => "pending"
  | sending => "sending"
  | sent => "sent"
  | delivered => "delivered"
  | failedTemporarily => "failed_temp"
  | failedPermanently => "failed_perm"

def all : List SendState :=
  [pending, sending, sent, delivered, failedTemporarily, failedPermanently]

def ofName? (text : String) : Option SendState := all.find? (·.name == text)

def read : Json → Checked SendState := Scalar.choice all name

/-- Neither of the failures. -/
def isOk : SendState → Bool
  | failedTemporarily => false
  | failedPermanently => false
  | _ => true

end SendState

/-- The first recorded delivery for an alert and a destination. -/
structure DeliveryRecord where
  messageId : String
  alertId : Int
  destinationId : DestinationId
  externalId : Option String
  state : SendState
  recordedAt : Option Moment
deriving DecidableEq

namespace DeliveryRecord

def toJson (record : DeliveryRecord) : Json :=
  .object
    [("message_id", .text record.messageId),
      ("alert_id", .integer record.alertId),
      ("dest_id", record.destinationId.toJson),
      ("external_id", Json.ofText? record.externalId),
      ("state", .text record.state.name),
      ("recorded_at", Json.ofText? (record.recordedAt.map Moment.exchangeText))]

def read (data : Json) : Checked DeliveryRecord :=
  (Scalar.record "DeliveryRecord" data).andThen fun members =>
    DeliveryRecord.mk
      <$> members.required "message_id" Scalar.text
      <*> members.required "alert_id" Scalar.integer
      <*> members.required "dest_id" DestinationId.read
      <*> members.optional "external_id" Scalar.text
      <*> members.withDefault "state" .sent SendState.read
      <*> members.optional "recorded_at" Scalar.moment

end DeliveryRecord
end AlertRelay
