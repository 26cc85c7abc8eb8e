import AlertRelay.Channel.Basic
import AlertRelay.Number.Digits
import AlertRelay.Outcome.Classify
import AlertRelay.Wording.Voice

/-!
# The telephony provider

Telephone calls and short messages have one destination argument, the phone number.
-/

namespace AlertRelay
namespace Telephony

/-- The component that reports failed calls and messages. -/
def component : String := "twilio"

/-- The component that creates calls and messages. -/
def clientComponent : String := "client"

def phoneField : String := "phone_number"

/-- The phone number as users are asked for it. -/
def phoneFieldInfo : FieldInfo where
  id := phoneField
  label := "Phone Number"
  hint := "Include country code e.g. +1 (USA), +91 (India), +44 (UK)"
  placeholder := "11235550123"
  inputType := "tel"
  isValidated := true

/-- A plus sign, a digit from one to nine and up to fourteen more digits of any script; a line end
may follow. -/
def isPhoneNumber (value : String) : Bool :=
  match value.toList with
  | '+' :: first :: rest =>
      let digits := rest.takeWhile isDecimalDigit
      let after := rest.drop digits.length
      '1' ≤ first && first ≤ '9' && 1 ≤ digits.length && digits.length ≤ 14 &&
        (after == [] || after == ['\n'])
  | _ => false

/-- Check a destination argument. -/
def validate (field : String) (value : Option String) : Except Failure Unit :=
  if field ≠ phoneField then .error (.invalidField field "unknown field" (Json.ofText? value))
  else if isPhoneNumber (value.getD "") then .ok ()
  else
    .error
      (.invalidField field "must be a valid number in E.164 format" (Json.ofText? value))

/-- Show a phone number with an icon. -/
def display (iconUrl iconText : String) (arguments : List (String × String)) :
    Except Failure DisplayInfo :=
  .ok
    { text := (arguments.lookup phoneField).getD ""
      iconUrl
      iconText }

/-- The credentials and the number of the sender have to be configured, and the time to wait for
an answer has to be more than none. -/
def checkConfigured (channel : String) (config : Config) : Except Failure Unit :=
  let telephony := config.telephony
  if telephony.accountSid = "" ∨ telephony.authToken = "" ∨ telephony.fromNumber = "" then
    .error (.configuration channel "Twilio account SID, auth token and from number are required")
  else if config.requestTimeout.isAtMostZero then .error (.malformed config.requestTimeout.text)
  else .ok ()

/-- The call that carries a content to a phone number. -/
def call (config : Config) (toNumber : String) (content : TelephonyContent) : TelephonyCall where
  accountSid := config.telephony.accountSid
  authToken := config.telephony.authToken
  timeout := config.requestTimeout
  toNumber
  fromNumber := config.telephony.fromNumber
  content

/-- The event that reports what was created. -/
def createdEvent : TelephonyContent → String
  | .spoken _ => "twilio_call_created"
  | .written _ => "twilio_sms_created"

/-- Create a call or a message; the value is its id as the provider gave it. -/
def create (call : TelephonyCall) : Program Json := do
  let id ← (Program.request (.telephone call)).bind Program.ofExcept
  Program.log .debug clientComponent (createdEvent call.content)
    [("sid", id), ("to_number", .text call.toNumber)]
  pure id

/-- The result of a message that the provider accepted under an id. -/
def accepted (messageId : String) (id : Json) : Program SendResult :=
  Program.ofChecked "SendResult" (SendResult.sentWith messageId id "")

/-- The result of a message that the provider refused: throttling and failures of the provider are
worth another attempt. -/
def refused (messageId : String) (failure : TelephonyFailure) : SendResult :=
  let status := failure.status.getD 0
  let details := s!"twilio: {failure.message}"
  if status = 429 ∨ 500 ≤ status then SendResult.failedTemporarily messageId details
  else SendResult.failedPermanently messageId details

/-- The result of a failed call; `kind` names the kind of call in the log. -/
def failed (kind messageId : String) (failure : Failure) : Program SendResult :=
  match failure with
  | .telephony refusal => do
      Program.log .warning component s!"twilio_{kind}_failed"
        [("status", (refusal.status.map Json.integer).getD .null),
          ("code", (refusal.code.map Json.integer).getD .null),
          ("error", .text refusal.message)]
      pure (refused messageId refusal)
  | .transport _ => do
      Program.log .warning component s!"twilio_{kind}_transport_error"
        [("error", .text failure.text)]
      Channel.resultOf messageId (Outcome.ofHttpFailure failure)
  | _ => .fail failure

/-- Create a call or a message for a payload. -/
def deliver (kind messageId : String) (call : TelephonyCall) : Program SendResult :=
  Program.rescue ((create call).bind (accepted messageId)) (failed kind messageId)

end Telephony

namespace Voice

/-- The destination type of telephone calls. -/
def type : String := "builtin-twilio-voice"

def iconUrl : String := "builtin://phone-voice"

def iconText : String := "Voice Call"

def info (config : Config) : TypeInfo where
  type := type
  name := "Voice Call"
  iconUrl := iconUrl
  iconText := iconText
  enabled := config.telephony.enabled && !config.telephony.voiceDisabled
  alerts := true
  statusUpdates := true
  userVerification := true
  verificationRequired := true
  fields := [Telephony.phoneFieldInfo]
  disclaimer :=
    "By entering your phone number, you consent to receive voice calls for alert notifications."

/-- Speak a payload on the telephone. -/
def send (payload : Payload) (config : Config) : Program SendResult := do
  let text ← Program.ofExcept (Wording.voice type payload config)
  Program.ofExcept (Telephony.checkConfigured type config)
  let toNumber := payload.destination.argument Telephony.phoneField
  Telephony.deliver "voice" payload.id
    (Telephony.call config toNumber (.spoken (Wording.callScript text 2)))

/-- The channel of telephone calls. -/
def channel : Channel where
  id := type
  info := info
  validate := some Telephony.validate
  display := some (Telephony.display iconUrl iconText)
  send := some send

end Voice
end AlertRelay
