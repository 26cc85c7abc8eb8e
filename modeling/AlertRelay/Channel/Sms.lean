import AlertRelay.Channel.Telephony
import AlertRelay.Wording.Sms

/-!
# Short messages

Short messages go through the telephony provider, or through the SMS gateway whenever the gateway
is enabled.  The gateway accepts a message by its status alone, and the id that it gives to the
message may be missing from its answer.
-/

namespace AlertRelay

/-- Access to the SMS gateway, over a shared connection or over one for each message. -/
structure Gateway where
  baseUrl : String
  apiKey : String
  source : String
  timeout : Json
  isShared : Bool

namespace Gateway

def component : String := "client"

/-- Access to a gateway; a blank endpoint stands for the public one. -/
def ofParts (baseUrl apiKey source : String) (timeout : Json) (isShared : Bool) : Gateway :=
  let url := trim baseUrl
  ⟨if url = "" then defaultGatewayUrl else url, apiKey, source, timeout, isShared⟩

/-- The text under a name without the blanks around it, when there is such a text. -/
def textMember? (data : Json) (name : String) : Option String :=
  match data.member? name with
  | some (.text value) => some (trim value) |>.filter (· != "")
  | _ => none

/-- The message id in the answer of the gateway, at the top or under `response`. -/
def messageIdIn? (data : Json) : Option String :=
  (textMember? data "messageId").orElse fun _ =>
    (data.member? "response").bind fun response =>
      (textMember? response "msgId").orElse fun _ => textMember? response "messageId"

/-- The message id in the body of an answer, empty when there is none. -/
def messageId (body : String) : Except Failure String :=
  match Json.parse body with
  | .ok data => .ok ((messageIdIn? data).getD "")
  | .error (.tooDeep container) => .error (.malformedJson (.tooDeep container) body)
  | .error _ => .ok ""

/-- The request that carries a text to a phone number. -/
def request (gateway : Gateway) (toNumber text : String) : HttpPost where
  url := gateway.baseUrl
  content := .form
    [("channel", "SMS"), ("source", gateway.source), ("destination", toNumber),
      ("message", text)]
  headers := ("Content-Type", "application/x-www-form-urlencoded") ::
    (if gateway.apiKey = "" then [] else [("apikey", gateway.apiKey)])
  timeout := gateway.timeout

/-- Post a request, and close the connection that was opened for it. -/
def post (gateway : Gateway) (request : HttpPost) : Program HttpResponse :=
  .ask (.post request) fun response =>
    if gateway.isShared then Program.ofExcept response
    else .ask .closeConnection fun _ => Program.ofExcept response

/-- Send a text; the value is the id that the gateway gave to it. -/
def send (gateway : Gateway) (toNumber text : String) : Program String := do
  let response ← gateway.post (gateway.request toNumber text)
  if 200 ≤ response.status ∧ response.status < 300 then
    let id ← Program.ofExcept (messageId response.text)
    if id = "" then
      Program.log .debug component "gupshup_message_id_missing"
        [("status_code", .integer response.status)]
    pure id
  else
    let body := trim response.text
    Program.log .error component "gupshup_request_failed"
      [("status_code", .integer response.status), ("body", .text body)]
    .fail (.gateway response.status body)

end Gateway

namespace Sms

/-- The destination type of short messages. -/
def type : String := "builtin-twilio-sms"

def iconUrl : String := "builtin://phone-text"

def iconText : String := "Text Message"

def info (config : Config) : TypeInfo where
  type := type
  name := "Text Message (SMS)"
  iconUrl := iconUrl
  iconText := iconText
  enabled :=
    (config.telephony.enabled && !config.telephony.smsDisabled) || config.gateway.enabled
  alerts := true
  statusUpdates := true
  userVerification := true
  verificationRequired := true
  onCallNotices := true
  fields := [Telephony.phoneFieldInfo]
  disclaimer :=
    "By entering your phone number, you consent to receive text messages for alert " ++
      "notifications. Message and data rates may apply."

/-- The gateway of a configuration. -/
def configuredGateway (config : Config) : Gateway :=
  Gateway.ofParts config.gateway.baseUrl config.gateway.apiKey config.gateway.source
    (.real config.requestTimeout) false

/-- The result of a message that the gateway did not take. -/
def gatewayFailed (messageId : String) (failure : Failure) : Program SendResult :=
  match failure with
  | .gateway status _ => do
      Program.log .warning Telephony.component "gupshup_sms_failed"
        [("status_code", .integer status)]
      Channel.resultOf messageId (Outcome.ofHttpStatus status failure.text none)
  | .transport _ => do
      Program.log .warning Telephony.component "gupshup_sms_transport_error"
        [("error", .text failure.text)]
      Channel.resultOf messageId (Outcome.ofHttpFailure failure)
  | _ => .fail failure

/-- Send a text through the gateway. -/
def sendThroughGateway (gateway : Gateway) (messageId toNumber text : String) :
    Program SendResult := do
  match ← (gateway.send toNumber text).attempt with
  | .error failure => gatewayFailed messageId failure
  | .ok id => do
      if id = "" then
        Program.log .info Telephony.component "gupshup_sms_sent_without_message_id" []
      pure (SendResult.sent messageId (some id))

/-- Send a payload as a short message; `given` is a gateway to use in place of the configured
one. -/
def send (given : Option Gateway) (payload : Payload) (config : Config) : Program SendResult := do
  let text ← Program.ofExcept (Wording.sms type payload config)
  let toNumber := payload.destination.argument Telephony.phoneField
  if config.gateway.enabled then
    if config.gateway.source = "" then
      .fail (.configuration type "Gupshup source is required")
    else
      sendThroughGateway (given.getD (configuredGateway config)) payload.id toNumber text
  else
    Program.ofExcept (Telephony.checkConfigured type config)
    Telephony.deliver "sms" payload.id (Telephony.call config toNumber (.written text))

/-- The channel of short messages. -/
def channel (given : Option Gateway) : Channel where
  id := type
  info := info
  validate := some Telephony.validate
  display := some (Telephony.display iconUrl iconText)
  send := some (send given)

end Sms
end AlertRelay
