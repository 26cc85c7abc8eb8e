import AlertRelay.Configuration.Snapshot
import AlertRelay.Failure.Basic
import AlertRelay.Payload
import AlertRelay.Text.Blank

/-!
# The wording of short messages

A short message starts with the name of the application and ends with a link where there is one.
Every payload has a wording except a bare one.
-/

namespace AlertRelay
namespace Wording

/-- The greatest length of a short message. -/
def smsLimit : Nat := 1600

/-- The text, cut to a limit with an ellipsis that counts. -/
def truncated (limit : Nat) (text : String) : String :=
  let points := Surrogate.points text
  if points.length ≤ limit then text else Surrogate.ofPoints (points.take (limit - 3)) ++ "..."

/-- The first of two texts that is not empty. -/
def firstNonempty (first second : String) : String := if first = "" then second else first

/-- The parameters of a signal as text, in the order of their names. -/
def parameterList (parameters : List (String × String)) : String :=
  let sorted := parameters.mergeSort fun first second => Surrogate.notAfter first.1 second.1
  String.intercalate ", " (sorted.map fun entry => entry.1 ++ "=" ++ entry.2)

/-- What a signal says: its message or its summary, or else all of its parameters. -/
def signalText (parameters : List (String × String)) : String :=
  let value (name : String) : String := (parameters.lookup name).getD ""
  firstNonempty (firstNonempty (value "message") (value "summary")) (parameterList parameters)

/-- The names of users, or that there is no one. -/
def userNames (users : List OnCallUser) : String :=
  firstNonempty (String.intercalate ", " (users.map (·.name))) "No one"

/-- The text and the link of a short message. -/
def smsParts (config : Config) : Content → Option (String × String)
  | .alert content =>
      some (s!"Alert #{content.alertId}: {trim content.summary}",
        config.callbackUrl s!"/alerts/{content.alertId}")
  | .alertBundle content =>
      let ending := if content.count = 1 then "" else "s"
      some (s!"Svc '{content.serviceName}': {content.count} unacked alert{ending}",
        config.callbackUrl s!"/services/{content.serviceId}/alerts")
  | .alertStatus content =>
      some (s!"Alert #{content.alertId}: {trim content.logEntry}", "")
  | .test => some ("Test message.", "")
  | .verification code => some (s!"Verification code: {code}", "")
  | .onCallUsers content =>
      some (s!"On-call for {content.scheduleName}: {userNames content.users}",
        content.scheduleUrl)
  | .signal parameters => some (signalText parameters, "")
  | .bare => none

/-- The short message for a payload. -/
def sms (provider : String) (payload : Payload) (config : Config) : Except Failure String :=
  match smsParts config payload.content with
  | none => .error (.unsupportedPayload provider payload.variantName)
  | some (text, link) =>
      let body := s!"{config.applicationName}: {text}"
      .ok (truncated smsLimit (if link = "" then body else s!"{body}\n\n{link}"))

end Wording
end AlertRelay
