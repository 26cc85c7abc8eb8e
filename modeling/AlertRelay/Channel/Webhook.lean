import AlertRelay.Address.Url
import AlertRelay.Channel.Basic
import AlertRelay.Outcome.Classify

/-!
# Webhooks

Every payload is posted as JSON to the URL of the destination.
-/

namespace AlertRelay
namespace Webhook

/-- The destination type of webhooks. -/
def type : String := "builtin-webhook"

def component : String := "webhook"

def urlField : String := "webhook_url"

def iconUrl : String := "builtin://webhook"

def iconText : String := "Webhook"

def info (config : Config) : TypeInfo where
  type := type
  name := "Webhook"
  iconUrl := iconUrl
  iconText := iconText
  enabled := config.webhookEnabled
  alerts := true
  statusUpdates := true
  onCallNotices := true
  signals := true
  fields :=
    [{ id := urlField
       label := "Webhook URL"
       hint := "Alerts and updates are POSTed as JSON to this URL."
       placeholder := "https://example.com"
       inputType := "url"
       isValidated := true }]

/-- Check a destination argument. -/
def validate (field : String) (value : Option String) : Except Failure Unit :=
  if field ≠ urlField then .error (.invalidField field "unknown field" (Json.ofText? value))
  else
    match Url.parse (value.getD "") with
    | .error fault => .error (.malformed fault.message)
    | .ok url =>
        if ["http", "https"].contains url.scheme && url.authority != "" then .ok ()
        else .error (.invalidField field "must be an http(s) URL" (Json.ofText? value))

/-- Show the authority of the URL, or the argument when there is none. -/
def display (arguments : List (String × String)) : Except Failure DisplayInfo :=
  let value := (arguments.lookup urlField).getD ""
  match Url.parse value with
  | .error fault => .error (.malformed fault.message)
  | .ok url =>
      .ok
        { text := if url.authority = "" then value else url.authority
          iconUrl
          iconText }

/-- The body for a payload: the payload and the name of the application. -/
def body (payload : Payload) (config : Config) : Json :=
  .object (setEntry payload.members "app_name" (.text config.applicationName))

/-- The result of a request that was answered. -/
def answered (messageId : String) (response : HttpResponse) : Program SendResult :=
  if 200 ≤ response.status ∧ response.status < 300 then
    pure (SendResult.sent messageId none)
  else do
    Program.log .warning component "webhook_rejected" [("status_code", .integer response.status)]
    Channel.resultOf messageId (Outcome.ofHttpResponse response)

/-- Post a payload. -/
def send (payload : Payload) (config : Config) : Program SendResult :=
  .ask (.post
      { url := payload.destination.argument urlField
        content := .json (body payload config)
        headers := []
        timeout := .real config.requestTimeout }) fun
    | .ok response => answered payload.id response
    | .error failure =>
        if failure.isTransport then do
          Program.log .warning component "webhook_transport_error" [("error", .text failure.text)]
          Channel.resultOf payload.id (Outcome.ofHttpFailure failure)
        else .fail failure

/-- The channel of webhooks. -/
def channel : Channel where
  id := type
  info := info
  validate := some validate
  display := some display
  send := some send

end Webhook
end AlertRelay
