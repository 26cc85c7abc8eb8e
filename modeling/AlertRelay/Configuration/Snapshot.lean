import AlertRelay.Schema.Scalar

/-!
# The configuration of a dispatch

Every dispatch works with one snapshot of the configuration, so a change of the settings cannot
affect a message halfway through its sending.
-/

namespace AlertRelay

/-- Voice calls and SMS through the telephony provider. -/
structure TelephonyConfig where
  enabled : Bool
  accountSid : String
  authToken : String
  fromNumber : String
  smsDisabled : Bool
  voiceDisabled : Bool

/-- The alternate SMS gateway. -/
structure GatewayConfig where
  enabled : Bool
  baseUrl : String
  apiKey : String
  source : String

/-- Browser push. -/
structure PushConfig where
  enabled : Bool
  publicKey : String
  privateKey : String
  subscriberEmail : String
  timeToLive : Int

/-- A snapshot of every setting that a dispatch reads. -/
structure Config where
  applicationName : String
  publicUrl : String
  priorityKey : String
  priorityValue : String
  requestTimeout : Double
  webhookEnabled : Bool
  telephony : TelephonyConfig
  gateway : GatewayConfig
  push : PushConfig

/-- The public endpoint of the SMS gateway. -/
def defaultGatewayUrl : String := "https://api.gupshup.io/sm/api/v1/msg"

namespace TelephonyConfig

def default : TelephonyConfig := ⟨false, "", "", "", false, false⟩

def toJson (config : TelephonyConfig) : Json :=
  .object
    [("enable", .bool config.enabled),
      ("account_sid", .text config.accountSid),
      ("auth_token", .text config.authToken),
      ("from_number", .text config.fromNumber),
      ("disable_sms_contact_method", .bool config.smsDisabled),
      ("disable_voice_contact_method", .bool config.voiceDisabled)]

def read (data : Json) : Checked TelephonyConfig :=
  (Scalar.record "TwilioConfig" data).andThen fun members =>
    TelephonyConfig.mk
      <$> members.withDefault "enable" false Scalar.truth
      <*> members.withDefault "account_sid" "" Scalar.text
      <*> members.withDefault "auth_token" "" Scalar.text
      <*> members.withDefault "from_number" "" Scalar.text
      <*> members.withDefault "disable_sms_contact_method" false Scalar.truth
      <*> members.withDefault "disable_voice_contact_method" false Scalar.truth

end TelephonyConfig

namespace GatewayConfig

def default : GatewayConfig := ⟨false, defaultGatewayUrl, "", ""⟩

def toJson (config : GatewayConfig) : Json :=
  .object
    [("enable", .bool config.enabled),
      ("base_url", .text config.baseUrl),
      ("api_key", .text config.apiKey),
      ("source", .text config.source)]

def read (data : Json) : Checked GatewayConfig :=
  (Scalar.record "GupshupConfig" data).andThen fun members =>
    GatewayConfig.mk
      <$> members.withDefault "enable" false Scalar.truth
      <*> members.withDefault "base_url" defaultGatewayUrl Scalar.text
      <*> members.withDefault "api_key" "" Scalar.text
      <*> members.withDefault "source" "" Scalar.text

end GatewayConfig

namespace PushConfig

def default : PushConfig := ⟨false, "", "", "", 60⟩

def toJson (config : PushConfig) : Json :=
  .object
    [("enable", .bool config.enabled),
      ("vapid_public_key", .text config.publicKey),
      ("vapid_private_key", .text config.privateKey),
      ("subscriber_email", .text config.subscriberEmail),
      ("ttl", .integer config.timeToLive)]

def read (data : Json) : Checked PushConfig :=
  (Scalar.record "WebPushConfig" data).andThen fun members =>
    PushConfig.mk
      <$> members.withDefault "enable" false Scalar.truth
      <*> members.withDefault "vapid_public_key" "" Scalar.text
      <*> members.withDefault "vapid_private_key" "" Scalar.text
      <*> members.withDefault "subscriber_email" "" Scalar.text
      <*> members.withDefault "ttl" 60 Scalar.integer

end PushConfig

namespace Config

/-- The name under which the application presents itself unless it is given another one. -/
def defaultApplicationName : String := "GoAlert"

def toJson (config : Config) : Json :=
  .object
    [("application_name", .text config.applicationName),
      ("public_url", .text config.publicUrl),
      ("high_priority_label_key", .text config.priorityKey),
      ("high_priority_label_value", .text config.priorityValue),
      ("request_timeout", .real config.requestTimeout),
      ("webhook_enable", .bool config.webhookEnabled),
      ("twilio", config.telephony.toJson),
      ("gupshup", config.gateway.toJson),
      ("webpush", config.push.toJson)]

def read (data : Json) : Checked Config :=
  (Scalar.record "DispatchConfig" data).andThen fun members =>
    Config.mk
      <$> members.withDefault "application_name" defaultApplicationName Scalar.text
      <*> members.withDefault "public_url" "" Scalar.text
      <*> members.withDefault "high_priority_label_key" "" Scalar.text
      <*> members.withDefault "high_priority_label_value" "" Scalar.text
      <*> members.withDefault "request_timeout" (Double.ofInt 10) Scalar.real
      <*> members.withDefault "webhook_enable" true Scalar.truth
      <*> members.withDefault "twilio" .default TelephonyConfig.read
      <*> members.withDefault "gupshup" .default GatewayConfig.read
      <*> members.withDefault "webpush" .default PushConfig.read

/-- A link to a path below the public URL; without a public URL, the path itself. -/
def callbackUrl (config : Config) (path : String) : String :=
  let base := (config.publicUrl.toList.reverse.dropWhile (· == '/')).reverse
  let path := if path.toList.head? = some '/' then path.toList else '/' :: path.toList
  String.ofList (base ++ path)

end Config
end AlertRelay
