import AlertRelay.Destination

/-!
# Alerts and the records around them

Read-only views of the alerts, log entries, contact methods, schedules and users that messages
refer to.
-/

namespace AlertRelay

/-- Where an alert stands in its life. -/
inductive AlertState where
  | unknown
  | unacknowledged
  | acknowledged
  | closed
deriving DecidableEq

namespace AlertState

def name : AlertState → String
  | unknown => "unknown"
  | unacknowledged => "unacknowledged"
  | acknowledged => "acknowledged"
  | closed => "closed"

def all : List AlertState := [unknown, unacknowledged, acknowledged, closed]

def toJson (state : AlertState) : Json := .text state.name

def read : Json → Checked AlertState := Scalar.choice all name

end AlertState

structure Alert where
  id : Int
  serviceId : String
  summary : String
  details : String
  status : AlertState

namespace Alert

def read (data : Json) : Checked Alert :=
  (Scalar.record "Alert" data).andThen fun members =>
    Alert.mk
      <$> members.required "id" Scalar.integer
      <*> members.required "service_id" Scalar.text
      <*> members.required "summary" Scalar.text
      <*> members.withDefault "details" "" Scalar.text
      <*> members.withDefault "status" .unacknowledged AlertState.read

end Alert

/-- What an entry of the alert log reports. -/
inductive LogEntryKind where
  | created
  | acknowledged
  | escalated
  | closed
  | notificationSent
  | escalationRequest
  | noNotificationSent
deriving DecidableEq

namespace LogEntryKind

def name : LogEntryKind → String
  | created => "created"
  | acknowledged => "acknowledged"
  | escalated => "escalated"
  | closed => "closed"
  | notificationSent => "notification_sent"
  | escalationRequest => "escalation_request"
  | noNotificationSent => "no_notification_sent"

def all : List LogEntryKind :=
  [created, acknowledged, escalated, closed, notificationSent, escalationRequest,
    noNotificationSent]

def read : Json → Checked LogEntryKind := Scalar.choice all name

/-- The state that an alert is in after the event of the entry. -/
def alertState : LogEntryKind → AlertState
  | acknowledged => .acknowledged
  | escalated => .unacknowledged
  | closed => .closed
  | _ => .unknown

end LogEntryKind

structure LogEntry where
  id : Int
  alertId : Int
  kind : LogEntryKind
  message : String

namespace LogEntry

def read (data : Json) : Checked LogEntry :=
  (Scalar.record "AlertLogEntry" data).andThen fun members =>
    LogEntry.mk
      <$> members.required "id" Scalar.integer
      <*> members.required "alert_id" Scalar.integer
      <*> members.required "kind" LogEntryKind.read
      <*> members.withDefault "message" "" Scalar.text

end LogEntry

/-- A way to reach a user. -/
structure ContactMethod where
  id : String
  userId : String
  destination : Destination

namespace ContactMethod

def read (data : Json) : Checked ContactMethod :=
  (Scalar.record "ContactMethod" data).andThen fun members =>
    ContactMethod.mk
      <$> members.required "id" Scalar.text
      <*> members.required "user_id" Scalar.text
      <*> members.required "dest" Destination.read

end ContactMethod

/-- A named record: a schedule or a user. -/
structure Named where
  id : String
  name : String

namespace Named

def read (model : String) (data : Json) : Checked Named :=
  (Scalar.record model data).andThen fun members =>
    Named.mk
      <$> members.required "id" Scalar.text
      <*> members.required "name" Scalar.text

end Named
end AlertRelay
