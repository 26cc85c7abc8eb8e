import AlertRelay.Alert

/-!
# Messages

A message is one piece of pending outgoing work, as the scheduler hands it over.
-/

namespace AlertRelay

/-- The kinds of message. -/
inductive MessageType where
  | alert
  | alertBundle
  | alertStatus
  | test
  | verification
  | onCallUsers
  | signal
deriving DecidableEq

namespace MessageType

def name : MessageType → String
  | alert => "alert_notification"
  | alertBundle => "alert_notification_bundle"
  | alertStatus => "alert_status_update"
  | test => "test_notification"
  | verification => "verification_message"
  | onCallUsers => "schedule_on_call_notification"
  | signal => "signal_message"

/-- The name by which the type is shown to operators. -/
def label : MessageType → String
  | alert => "MessageType.ALERT"
  | alertBundle => "MessageType.ALERT_BUNDLE"
  | alertStatus => "MessageType.ALERT_STATUS"
  | test => "MessageType.TEST"
  | verification => "MessageType.VERIFICATION"
  | onCallUsers => "MessageType.SCHEDULE_ON_CALL_USERS"
  | signal => "MessageType.SIGNAL_MESSAGE"

def all : List MessageType :=
  [alert, alertBundle, alertStatus, test, verification, onCallUsers, signal]

def ofName? (text : String) : Option MessageType := all.find? (·.name == text)

def read : Json → Checked MessageType := Scalar.choice all name

end MessageType

/-- A pending outgoing message. -/
structure Message where
  id : String
  type : MessageType
  destinationId : DestinationId
  destination : Destination
  userId : Option String
  serviceId : Option String
  alertId : Int
  alertStatus : Option AlertState
  alertLogId : Int
  scheduleId : Option String
  verificationId : Option String
  sentAt : Option Moment
deriving DecidableEq

namespace Message

def isSent (message : Message) : Bool := message.sentAt.isSome

def toJson (message : Message) : Json :=
  .object
    [("id", .text message.id),
      ("type", .text message.type.name),
      ("dest_id", message.destinationId.toJson),
      ("dest", message.destination.toJson),
      ("user_id", Json.ofText? message.userId),
      ("service_id", Json.ofText? message.serviceId),
      ("alert_id", .integer message.alertId),
      ("alert_status", Json.ofText? (message.alertStatus.map AlertState.name)),
      ("alert_log_id", .integer message.alertLogId),
      ("schedule_id", Json.ofText? message.scheduleId),
      ("verify_id", Json.ofText? message.verificationId),
      ("sent_at", Json.ofText? (message.sentAt.map Moment.exchangeText))]

def read (data : Json) : Checked Message :=
  (Scalar.record "Message" data).andThen fun members =>
    Message.mk
      <$> members.required "id" Scalar.text
      <*> members.required "type" MessageType.read
      <*> members.required "dest_id" DestinationId.read
      <*> members.required "dest" Destination.read
      <*> members.optional "user_id" Scalar.text
      <*> members.optional "service_id" Scalar.text
      <*> members.withDefault "alert_id" 0 Scalar.integer
      <*> members.optional "alert_status" AlertState.read
      <*> members.withDefault "alert_log_id" 0 Scalar.integer
      <*> members.optional "schedule_id" Scalar.text
      <*> members.optional "verify_id" Scalar.text
      <*> members.optional "sent_at" Scalar.moment

end Message
end AlertRelay
