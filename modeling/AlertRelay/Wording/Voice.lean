import AlertRelay.Configuration.Snapshot
import AlertRelay.Failure.Basic
import AlertRelay.Payload
import AlertRelay.Text.Blank
import AlertRelay.Text.Markup

/-!
# The wording of telephone calls

A call speaks one or two sentences, and its script repeats them and hangs up.  Duty rosters and
signals are not spoken.
-/

namespace AlertRelay
namespace Wording

/-- A code with a pause after each character. -/
def spelled (code : String) : String :=
  String.intercalate ", " ((Surrogate.points code).map fun point => Surrogate.ofPoints [point])

/-- The sentences of a call. -/
def voiceText? (app : String) : Content → Option String
  | .alert content =>
      some (s!"This is {app} with an alert notification. " ++
        s!"Alert {content.alertId} for service {content.serviceName}. {trim content.summary}.")
  | .alertBundle content =>
      some (s!"This is {app} with an alert notification. " ++
        s!"Service {content.serviceName} has {content.count} unacknowledged alerts.")
  | .alertStatus content =>
      some (s!"This is {app} with a status update for alert {content.alertId}. " ++
        s!"{trim content.logEntry}.")
  | .test => some s!"This is a test message from {app}."
  | .verification code =>
      some (s!"This is {app} with your verification code. Your code is {spelled code}.")
  | _ => none

/-- The spoken text for a payload. -/
def voice (provider : String) (payload : Payload) (config : Config) : Except Failure String :=
  match voiceText? config.applicationName payload.content with
  | some text => .ok text
  | none => .error (.unsupportedPayload provider payload.variantName)

/-- One reading of a text, with a pause after it. -/
def reading (text : String) : String :=
  "<Say voice=\"alice\">" ++ Markup.escape text ++ "</Say><Pause length=\"1\"/>"

/-- The script of a call that speaks a text a number of times and hangs up. -/
def callScript (text : String) (times : Int) : String :=
  "<Response>" ++ String.join (List.replicate times.toNat (reading text)) ++ "<Hangup/></Response>"

end Wording
end AlertRelay
