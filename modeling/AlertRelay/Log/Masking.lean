import AlertRelay.Json.Writer
import AlertRelay.Log.Event
import AlertRelay.Text.Lowercase
import AlertRelay.Text.Split

/-!
# Masking and truncation

Credentials are hidden, phone numbers keep only their last digits, and long texts are cut.  Which
values are affected depends on the names of the members only.
-/

namespace AlertRelay
namespace LogRecord

/-- What stands for a hidden value. -/
def maskText : String := "***REDACTED***"

/-- Names of credentials. -/
def credentialNames : List String :=
  ["password", "secret", "token", "api_key", "apikey", "authorization", "private_key", "p256dh",
    "auth_key"]

/-- Names of phone numbers. -/
def phoneNames : List String := ["phone_number", "destination_number", "to_number"]

/-- Whether a text occurs in another one. -/
def occursIn (part : List Char) : List Char → Bool
  | [] => part.isEmpty
  | c :: rest => part.isPrefixOf (c :: rest) || occursIn part rest

/-- Whether a name in lower case holds one of the patterns. -/
def matchesAny (name : String) (patterns : List String) : Bool :=
  let lower := (lowercase name).toList
  patterns.any fun pattern => occursIn pattern.toList lower

/-- The points with all but the last ones replaced by asterisks; a few points are replaced
entirely. -/
def maskStart (visible : Nat) (points : List Surrogate.Point) : List Surrogate.Point :=
  if points.length ≤ visible then List.replicate points.length (.plain '*')
  else
    let hidden := points.length - visible
    List.replicate hidden (.plain '*') ++ points.drop hidden

/-- The count of characters of a phone number that stay visible. -/
def visibleDigits : Nat := 4

/-- The value under a name, masked when the name asks for it; null stays null. -/
def maskValue (mask : Json) (additional : List String) (name : String) (value : Json) : Json :=
  match value with
  | .null => .null
  | value =>
      if matchesAny name (credentialNames ++ additional) then mask
      else if matchesAny name phoneNames then
        .text (Surrogate.ofPoints (maskStart visibleDigits (Surrogate.points value.display)))
      else value

/-- Hide credentials and phone numbers. -/
def mask (mask : Json) (additional : List String) (record : LogRecord) : LogRecord :=
  record.map fun member => (member.1, maskValue mask additional member.1 member.2)

/-- The length up to which texts are kept. -/
def textLimit : Int := 500

/-- The value, cut when it is a text above the limit. -/
def truncateValue (limit : Int) : Json → Json
  | .text value =>
      let points := Surrogate.points value
      if limit < points.length then
        let start := Surrogate.ofPoints (startOf limit points)
        .text s!"{start}...[truncated, {points.length} chars total]"
      else .text value
  | value => value

/-- Cut long texts. -/
def truncate (limit : Int) (record : LogRecord) : LogRecord :=
  record.map fun member => (member.1, truncateValue limit member.2)

/-- Add the running revision, and the name of the deployment when it has one. -/
def stampDeployment (revision deployment : String) (record : LogRecord) : LogRecord :=
  let stamped := record.setDefault "git_sha" (.text revision)
  if deployment.isEmpty then stamped else stamped.setDefault "prefix" (.text deployment)

/-- The record as it is shown: masked and truncated. -/
def shown (record : LogRecord) : LogRecord := (record.mask (.text maskText) []).truncate textLimit

end LogRecord
end AlertRelay
