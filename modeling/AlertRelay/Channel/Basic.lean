import AlertRelay.Configuration.Snapshot
import AlertRelay.Program.Basic

/-!
# Channels

A channel carries messages to destinations of one type.  Every channel describes its type; checking
a destination argument, showing a destination and sending are capabilities that it may lack.
-/

namespace AlertRelay

/-- A destination argument as users are asked for it. -/
structure FieldInfo where
  id : String
  label : String
  hint : String
  placeholder : String
  inputType : String
  isValidated : Bool

namespace FieldInfo

def toJson (field : FieldInfo) : Json :=
  .object
    [("field_id", .text field.id), ("label", .text field.label), ("hint", .text field.hint),
      ("placeholder_text", .text field.placeholder), ("input_type", .text field.inputType),
      ("supports_validation", .bool field.isValidated)]

end FieldInfo

/-- A destination type and whether it is enabled. -/
structure TypeInfo where
  type : String
  name : String
  iconUrl : String := ""
  iconText : String := ""
  enabled : Bool := false
  alerts : Bool := false
  statusUpdates : Bool := false
  userVerification : Bool := false
  verificationRequired : Bool := false
  onCallNotices : Bool := false
  signals : Bool := false
  fields : List FieldInfo := []
  disclaimer : String := ""

namespace TypeInfo

def toJson (info : TypeInfo) : Json :=
  .object
    [("type", .text info.type), ("name", .text info.name), ("icon_url", .text info.iconUrl),
      ("icon_alt_text", .text info.iconText), ("enabled", .bool info.enabled),
      ("supports_alert_notifications", .bool info.alerts),
      ("supports_status_updates", .bool info.statusUpdates),
      ("supports_user_verification", .bool info.userVerification),
      ("user_verification_required", .bool info.verificationRequired),
      ("supports_on_call_notify", .bool info.onCallNotices),
      ("supports_signals", .bool info.signals),
      ("required_fields", .list (info.fields.map FieldInfo.toJson)),
      ("user_disclaimer", .text info.disclaimer)]

end TypeInfo

/-- A destination as it is shown to users. -/
structure DisplayInfo where
  text : String
  iconUrl : String
  iconText : String
  linkUrl : String := ""

namespace DisplayInfo

def toJson (info : DisplayInfo) : Json :=
  .object
    [("text", .text info.text), ("icon_url", .text info.iconUrl),
      ("icon_alt_text", .text info.iconText), ("link_url", .text info.linkUrl)]

end DisplayInfo

/-- A channel with its capabilities. -/
structure Channel where
  id : String
  info : Config → TypeInfo
  /-- Check the value of a destination argument. -/
  validate : Option (String → Option String → Except Failure Unit) := none
  /-- Show a destination with the given arguments. -/
  display : Option (List (String × String) → Except Failure DisplayInfo) := none
  /-- Send a payload. -/
  send : Option (Payload → Config → Program SendResult) := none

/-- Whether the failure belongs to an HTTP exchange. -/
def Failure.isTransport : Failure → Bool
  | .transport _ => true
  | _ => false

namespace Channel

/-- The result of a message whose provider call had an outcome. -/
def resultOf (messageId : String) (outcome : Outcome) : Program SendResult :=
  Program.ofChecked "SendResult" (SendResult.ofOutcome messageId outcome)

end Channel
end AlertRelay
