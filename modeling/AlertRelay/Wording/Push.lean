import AlertRelay.Configuration.Snapshot
import AlertRelay.Failure.Basic
import AlertRelay.Json.Writer
import AlertRelay.Payload
import AlertRelay.Text.Blank
import AlertRelay.Wording.Sms

/-!
# The wording of push messages

A push message has a kind, a title, a body and a link.  Duty rosters and signals are not pushed.
-/

namespace AlertRelay

/-- What a browser shows. -/
structure PushMessage where
  kind : String
  title : String
  body : String
  url : String

namespace PushMessage

def toJson (message : PushMessage) : Json :=
  .object
    [("type", .text message.kind), ("title", .text message.title), ("body", .text message.body),
      ("url", .text message.url)]

end PushMessage

namespace Wording

/-- The push message of a content. -/
def pushMessage? (config : Config) : Content → Option PushMessage
  | .alert content =>
      some
        { kind := "alert"
          title := s!"Alert #{content.alertId} · {content.serviceName}"
          body := firstNonempty (trim content.summary) s!"Alert #{content.alertId} is active."
          url := config.callbackUrl s!"/alerts/{content.alertId}" }
  | .alertBundle content =>
      some
        { kind := "alert-bundle"
          title := s!"{content.serviceName} Alerts"
          body := s!"{content.count} unacknowledged alerts"
          url := config.callbackUrl s!"/services/{content.serviceId}/alerts" }
  | .alertStatus content =>
      some
        { kind := "alert-status"
          title := s!"Alert #{content.alertId} update"
          body :=
            firstNonempty (trim content.logEntry) s!"Alert #{content.alertId} status updated."
          url := config.callbackUrl s!"/alerts/{content.alertId}" }
  | .test =>
      some
        { kind := "test"
          title := s!"{config.applicationName} Test Message"
          body := s!"This is a test notification from {config.applicationName}."
          url := config.callbackUrl "/profile" }
  | .verification code =>
      some
        { kind := "verification"
          title := s!"{config.applicationName} Verification Code"
          body := s!"Enter code {code} to verify this device."
          url := config.callbackUrl "/profile" }
  | _ => none

/-- The push message for a payload. -/
def push (provider : String) (payload : Payload) (config : Config) : Except Failure PushMessage :=
  match pushMessage? config payload.content with
  | some message => .ok message
  | none => .error (.unsupportedPayload provider payload.variantName)

end Wording
end AlertRelay
