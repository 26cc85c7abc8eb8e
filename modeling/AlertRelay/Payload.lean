import AlertRelay.Delivery.Record
import AlertRelay.Message

/-!
# Payloads

A payload is what a message says, independent of the channel that carries it.  Payloads are
written as JSON for webhooks, and the reader takes the variant from the member that names it.
-/

namespace AlertRelay

/-- A user of a duty roster with a link to the user's page. -/
structure OnCallUser where
  name : String
  id : String
  url : String
deriving DecidableEq

namespace OnCallUser

def toJson (user : OnCallUser) : Json :=
  .object [("name", .text user.name), ("id", .text user.id), ("url", .text user.url)]

def read (data : Json) : Checked OnCallUser :=
  (Scalar.record "OnCallUser" data).andThen fun members =>
    OnCallUser.mk
      <$> members.required "name" Scalar.text
      <*> members.required "id" Scalar.text
      <*> members.required "url" Scalar.text

end OnCallUser

structure AlertContent where
  alertId : Int
  summary : String
  details : String
  serviceId : String
  serviceName : String
  metadata : List (String × String)
  /-- The first delivery, unless this one is it. -/
  firstDelivery : Option DeliveryRecord
deriving DecidableEq

structure BundleContent where
  serviceId : String
  serviceName : String
  count : Int
deriving DecidableEq

structure StatusContent where
  alertId : Int
  serviceId : String
  logEntry : String
  summary : String
  details : String
  newState : AlertState
  firstDelivery : DeliveryRecord
deriving DecidableEq

structure RosterContent where
  scheduleId : String
  scheduleName : String
  scheduleUrl : String
  users : List OnCallUser
deriving DecidableEq

/-- What a payload says; a bare payload says nothing. -/
inductive Content where
  | alert (content : AlertContent)
  | alertBundle (content : BundleContent)
  | alertStatus (content : StatusContent)
  | test
  | verification (code : String)
  | onCallUsers (content : RosterContent)
  | signal (parameters : List (String × String))
  | bare
deriving DecidableEq

namespace Content

/-- The message type whose payloads say this. -/
def messageType? : Content → Option MessageType
  | alert _ => some .alert
  | alertBundle _ => some .alertBundle
  | alertStatus _ => some .alertStatus
  | test => some .test
  | verification _ => some .verification
  | onCallUsers _ => some .onCallUsers
  | signal _ => some .signal
  | bare => none

/-- The members that a variant adds to those of every payload. -/
def members : Content → List (String × Json)
  | alert content =>
      [("alert_id", .integer content.alertId),
        ("summary", .text content.summary),
        ("details", .text content.details),
        ("service_id", .text content.serviceId),
        ("service_name", .text content.serviceName),
        ("meta", textMapJson content.metadata),
        ("original_status", (content.firstDelivery.map DeliveryRecord.toJson).getD .null)]
  | alertBundle content =>
      [("service_id", .text content.serviceId),
        ("service_name", .text content.serviceName),
        ("count", .integer content.count)]
  | alertStatus content =>
      [("alert_id", .integer content.alertId),
        ("service_id", .text content.serviceId),
        ("log_entry", .text content.logEntry),
        ("summary", .text content.summary),
        ("details", .text content.details),
        ("new_alert_state", content.newState.toJson),
        ("original_status", content.firstDelivery.toJson)]
  | test => []
  | verification code => [("code", .text code)]
  | onCallUsers content =>
      [("schedule_id", .text content.scheduleId),
        ("schedule_name", .text content.scheduleName),
        ("schedule_url", .text content.scheduleUrl),
        ("users", .list (content.users.map OnCallUser.toJson))]
  | signal parameters => [("params", textMapJson parameters)]
  | bare => []

end Content

/-- A message in the form that channels take. -/
structure Payload where
  id : String
  destination : Destination
  userId : Option String
  content : Content
deriving DecidableEq

namespace Payload

/-- The name of the variant in reports. -/
def variantName (payload : Payload) : String :=
  match payload.content with
  | .alert _ => "AlertPayload"
  | .alertBundle _ => "AlertBundlePayload"
  | .alertStatus _ => "AlertStatusPayload"
  | .test => "TestPayload"
  | .verification _ => "VerificationPayload"
  | .onCallUsers _ => "ScheduleOnCallUsersPayload"
  | .signal _ => "SignalPayload"
  | .bare => "PayloadBase"

/-- The member that names the variant. -/
def variantMember : String := "message_type"

def members (payload : Payload) : List (String × Json) :=
  [("id", .text payload.id),
    ("dest", payload.destination.toJson),
    ("user_id", Json.ofText? payload.userId)] ++
  (payload.content.messageType?.map fun type => (variantMember, Json.text type.name)).toList ++
  payload.content.members

def toJson (payload : Payload) : Json := .object payload.members

/-- Read a payload whose content is read by `content`. -/
def readWith (content : Members → Checked Content) (members : Members) : Checked Payload :=
  Payload.mk
    <$> members.required "id" Scalar.text
    <*> members.required "dest" Destination.read
    <*> members.optional "user_id" Scalar.text
    <*> content members

/-- Read the members that a variant adds. -/
def readContent (type : MessageType) (members : Members) : Checked Content :=
  match type with
  | .alert =>
      Content.alert <$> (AlertContent.mk
        <$> members.required "alert_id" Scalar.integer
        <*> members.required "summary" Scalar.text
        <*> members.withDefault "details" "" Scalar.text
        <*> members.required "service_id" Scalar.text
        <*> members.required "service_name" Scalar.text
        <*> members.withDefault "meta" [] Scalar.textMap
        <*> members.optional "original_status" DeliveryRecord.read)
  | .alertBundle =>
      Content.alertBundle <$> (BundleContent.mk
        <$> members.required "service_id" Scalar.text
        <*> members.required "service_name" Scalar.text
        <*> members.required "count" Scalar.integer)
  | .alertStatus =>
      Content.alertStatus <$> (StatusContent.mk
        <$> members.required "alert_id" Scalar.integer
        <*> members.required "service_id" Scalar.text
        <*> members.required "log_entry" Scalar.text
        <*> members.required "summary" Scalar.text
        <*> members.withDefault "details" "" Scalar.text
        <*> members.required "new_alert_state" AlertState.read
        <*> members.required "original_status" DeliveryRecord.read)
  | .test => .valid .test
  | .verification => Content.verification <$> members.required "code" Scalar.text
  | .onCallUsers =>
      Content.onCallUsers <$> (RosterContent.mk
        <$> members.required "schedule_id" Scalar.text
        <*> members.required "schedule_name" Scalar.text
        <*> members.required "schedule_url" Scalar.text
        <*> members.withDefault "users" [] (Scalar.list OnCallUser.read))
  | .signal =>
      Content.signal <$> members.withDefault "params" [] Scalar.textMap

/-- Read a payload without content. -/
def readBare (data : Json) : Checked Payload :=
  (Scalar.record "PayloadBase" data).andThen (readWith fun _ => .valid .bare)

/-- Read a payload of the variant that its data names. -/
def read (data : Json) : Checked Payload :=
  match data with
  | .object members =>
      match members.lookup variantMember with
      | none => Checked.issue .variantMissing data
      | some (.text name) =>
          match MessageType.ofName? name with
          | some type => (readWith (readContent type) members).within name
          | none => Checked.issue .variantUnknown data
      | some _ => Checked.issue .variantUnknown data
  | _ => Checked.issue .notVariantRecord data

end Payload
end AlertRelay
