import AlertRelay.Configuration.Snapshot
import AlertRelay.Failure.Basic
import AlertRelay.Json.Reader

/-!
# Settings

The settings of the process in sections.  Each value is taken from the values given by the caller,
or else from the environment, or else from the defaults.
-/

namespace AlertRelay

/-- The environment variables. -/
abbrev Environment := List (String × String)

/-- Where the tables are and which errors mean throttling. -/
structure CloudSettings where
  region : String
  endpointUrl : Option String
  throttlingErrors : List String

structure TelephonySettings where
  enabled : Bool
  accountSid : String
  authToken : String
  fromNumber : String
  smsDisabled : Bool
  voiceDisabled : Bool

structure GatewaySettings where
  enabled : Bool
  baseUrl : String
  apiKey : String
  source : String

structure PushSettings where
  enabled : Bool
  publicKey : String
  privateKey : String
  subscriberEmail : String
  timeToLive : Int

/-- The label that marks an alert as high priority. -/
structure PrioritySettings where
  key : String
  value : String

/-- How the application presents itself. -/
structure IdentitySettings where
  applicationName : String
  publicUrl : String

/-- The names of the tables. -/
structure TableNames where
  deliveries : String
  subscriptions : String
  signals : String

/-- All settings of the process. -/
structure Settings where
  deployment : String
  logLevel : String
  revision : String
  cloud : CloudSettings
  telephony : TelephonySettings
  gateway : GatewaySettings
  push : PushSettings
  webhookEnabled : Bool
  priority : PrioritySettings
  identity : IdentitySettings
  requestTimeout : Double
  tables : TableNames

namespace Settings

/-- The name of the one variable that holds JSON. -/
def throttlingVariable : String := "THROTTLING_ERRS"

/-- The codes that mean throttling by default. -/
def defaultThrottlingErrors : List String :=
  ["Throttling", "ThrottlingException", "RequestLimitExceeded",
    "ProvisionedThroughputExceededException"]

def readCloud (members : Members) : Checked CloudSettings :=
  CloudSettings.mk
    <$> members.withDefault "AWS_REGION" "ca-central-1" Scalar.text
    <*> members.optional "AWS_ENDPOINT_URL" Scalar.text
    <*> members.withDefault throttlingVariable defaultThrottlingErrors (Scalar.list Scalar.text)

def readTelephony (members : Members) : Checked TelephonySettings :=
  TelephonySettings.mk
    <$> members.withDefault "TWILIO_ENABLE" false Scalar.truth
    <*> members.withDefault "TWILIO_ACCOUNT_SID" "" Scalar.text
    <*> members.withDefault "TWILIO_AUTH_TOKEN" "" Scalar.text
    <*> members.withDefault "TWILIO_FROM_NUMBER" "" Scalar.text
    <*> members.withDefault "TWILIO_DISABLE_SMS_CONTACT_METHOD" false Scalar.truth
    <*> members.withDefault "TWILIO_DISABLE_VOICE_CONTACT_METHOD" false Scalar.truth

def readGateway (members : Members) : Checked GatewaySettings :=
  GatewaySettings.mk
    <$> members.withDefault "GUPSHUP_ENABLE" false Scalar.truth
    <*> members.withDefault "GUPSHUP_BASE_URL" defaultGatewayUrl Scalar.text
    <*> members.withDefault "GUPSHUP_API_KEY" "" Scalar.text
    <*> members.withDefault "GUPSHUP_SOURCE" "" Scalar.text

def readPush (members : Members) : Checked PushSettings :=
  PushSettings.mk
    <$> members.withDefault "WEBPUSH_ENABLE" false Scalar.truth
    <*> members.withDefault "WEBPUSH_VAPID_PUBLIC_KEY" "" Scalar.text
    <*> members.withDefault "WEBPUSH_VAPID_PRIVATE_KEY" "" Scalar.text
    <*> members.withDefault "WEBPUSH_SUBSCRIBER_EMAIL" "" Scalar.text
    <*> members.withDefault "WEBPUSH_TTL" 60 Scalar.integer

def readWebhook (members : Members) : Checked Bool :=
  members.withDefault "WEBHOOK_ENABLE" true Scalar.truth

def readPriority (members : Members) : Checked PrioritySettings :=
  PrioritySettings.mk
    <$> members.withDefault "HIGH_PRIORITY_LABEL_KEY" "" Scalar.text
    <*> members.withDefault "HIGH_PRIORITY_LABEL_VALUE" "" Scalar.text

def readIdentity (members : Members) : Checked IdentitySettings :=
  IdentitySettings.mk
    <$> members.withDefault "APPLICATION_NAME" Config.defaultApplicationName Scalar.text
    <*> members.withDefault "PUBLIC_URL" "" Scalar.text

def readTimeout (members : Members) : Checked Double :=
  members.withDefault "DISPATCH_REQUEST_TIMEOUT_SECONDS" (Double.ofInt 10) Scalar.real

def readTables (members : Members) : Checked TableNames :=
  TableNames.mk
    <$> members.withDefault "DELIVERY_RECORDS_TABLE" "dispatch_delivery_records" Scalar.text
    <*> members.withDefault "PUSH_SUBSCRIPTIONS_TABLE" "user_web_push_subscriptions" Scalar.text
    <*> members.withDefault "SIGNAL_MESSAGES_TABLE" "dispatch_signal_messages" Scalar.text

/-- The JSON value of a variable; null counts as absent. -/
def decodeVariable (name value : String) : Except Failure Members :=
  match Json.parse value with
  | .ok .null => .ok []
  | .ok data => .ok [(name, data)]
  | .error (.tooDeep container) => .error (.malformedJson (.tooDeep container) value)
  | .error _ => .error (.settings name)

/-- The environment as members; the variables in `encoded` hold JSON, and of several that cannot
be decoded the first one in `encoded` is reported. -/
def environmentMembers (encoded : List String) (environment : Environment) :
    Except Failure Members := do
  let decoded ← encoded.mapM fun name =>
    match environment.lookup name with
    | some value => decodeVariable name value
    | none => .ok []
  let plain := environment.filter fun entry => !encoded.contains entry.1
  pure (decoded.flatten ++ plain.map fun entry => (entry.1, .text entry.2))

mutual

/-- A value over another one: objects are united, and of any other values the upper one counts. -/
def overlay (under : Json) : Json → Json
  | .object upper =>
      match under with
      | .object lower => .object (overlayMembers lower upper)
      | _ => .object upper
  | value => value

/-- Members over others of the same names. -/
def overlayMembers (lower : Members) : Members → Members
  | [] => lower
  | (name, value) :: rest =>
      let under := (lower.lookup name).getD .null
      overlayMembers (setEntry lower name (overlay under value)) rest

end

/-- A section that is given by the caller, completed from the environment. -/
def givenSection {α : Type} (environment : Environment) (encoded : List String) (model : String)
    (read : Members → Checked α) (data : Json) : Except Failure (Checked α) :=
  match data with
  | .object given =>
      match environmentMembers encoded environment with
      | .ok members => .ok (read (given ++ members))
      | .error (.settings name) =>
          .ok (Checked.issue (.ruleBroken (Failure.settings name).text) data)
      | .error failure => .error failure
  | _ => .ok (Checked.issue (.notRecord model) data)

/-- A section from the environment alone, whose issues are reported before those of all given
values, or from the given values over the variable that is named like the section. -/
def loadSection {α : Type} (environment : Environment) (given : Members) (encoded : List String)
    (name model : String) (read : Members → Checked α) :
    Except Failure (Members → Except Failure (Checked α)) :=
  match given.lookup name with
  | some data => .ok fun ambient =>
      let data := overlay ((ambient.lookup name).getD .null) data
      (givenSection environment encoded model read data).map fun value => value.within name
  | none =>
      match environmentMembers encoded environment with
      | .error failure => .error failure
      | .ok members => ((read members).orFail model).map fun value _ => .ok (.valid value)

/-- The names of the sections. -/
def sectionNames : List String :=
  ["aws", "twilio", "gupshup", "webpush", "webhook", "alerts", "general", "dispatch",
    "persistence"]

/-- Load the settings from the environment, with values given by the caller. -/
def load (environment : Environment) (given : Members) : Except Failure Settings := do
  let loadFrom {α : Type} (encoded : List String) (name model : String)
      (read : Members → Checked α) : Except Failure (Members → Except Failure (Checked α)) :=
    loadSection environment given encoded name model read
  let cloud ← loadFrom [throttlingVariable] "aws" "AwsSettings" readCloud
  let telephony ← loadFrom [] "twilio" "TwilioSettings" readTelephony
  let gateway ← loadFrom [] "gupshup" "GupshupSettings" readGateway
  let push ← loadFrom [] "webpush" "WebPushSettings" readPush
  let webhook ← loadFrom [] "webhook" "WebhookSettings" readWebhook
  let priority ← loadFrom [] "alerts" "AlertsSettings" readPriority
  let identity ← loadFrom [] "general" "GeneralSettings" readIdentity
  let timeout ← loadFrom [] "dispatch" "DispatchSettings" readTimeout
  let tables ← loadFrom [] "persistence" "PersistenceSettings" readTables
  let ambient ← environmentMembers sectionNames environment
  let members := given ++ ambient
  let settings : Checked Settings :=
    Settings.mk
      <$> members.withDefault "PREFIX" "" Scalar.text
      <*> members.withDefault "LOG_LEVEL" "INFO" Scalar.text
      <*> members.withDefault "GIT_SHA" "Unknown" Scalar.text
      <*> (← cloud ambient) <*> (← telephony ambient) <*> (← gateway ambient)
      <*> (← push ambient) <*> (← webhook ambient) <*> (← priority ambient)
      <*> (← identity ambient) <*> (← timeout ambient) <*> (← tables ambient)
  settings.orFail "Settings"

/-- A deployment without a name is the productive one. -/
def isProduction (settings : Settings) : Bool := settings.deployment.isEmpty

/-- The snapshot for a dispatch. -/
def config (settings : Settings) : Config where
  applicationName := settings.identity.applicationName
  publicUrl := settings.identity.publicUrl
  priorityKey := settings.priority.key
  priorityValue := settings.priority.value
  requestTimeout := settings.requestTimeout
  webhookEnabled := settings.webhookEnabled
  telephony :=
    { enabled := settings.telephony.enabled
      accountSid := settings.telephony.accountSid
      authToken := settings.telephony.authToken
      fromNumber := settings.telephony.fromNumber
      smsDisabled := settings.telephony.smsDisabled
      voiceDisabled := settings.telephony.voiceDisabled }
  gateway :=
    { enabled := settings.gateway.enabled
      baseUrl := settings.gateway.baseUrl
      apiKey := settings.gateway.apiKey
      source := settings.gateway.source }
  push :=
    { enabled := settings.push.enabled
      publicKey := settings.push.publicKey
      privateKey := settings.push.privateKey
      subscriberEmail := settings.push.subscriberEmail
      timeToLive := settings.push.timeToLive }

/-- The settings under the names of their variables. -/
def toJson (settings : Settings) : Json :=
  let { cloud, telephony, gateway, push, priority, identity, tables, .. } := settings
  .object
    [("PREFIX", .text settings.deployment),
      ("LOG_LEVEL", .text settings.logLevel),
      ("GIT_SHA", .text settings.revision),
      ("aws", .object
        [("AWS_REGION", .text cloud.region),
          ("AWS_ENDPOINT_URL", Json.ofText? cloud.endpointUrl),
          (throttlingVariable, .list (cloud.throttlingErrors.map Json.text))]),
      ("twilio", .object
        [("TWILIO_ENABLE", .bool telephony.enabled),
          ("TWILIO_ACCOUNT_SID", .text telephony.accountSid),
          ("TWILIO_AUTH_TOKEN", .text telephony.authToken),
          ("TWILIO_FROM_NUMBER", .text telephony.fromNumber),
          ("TWILIO_DISABLE_SMS_CONTACT_METHOD", .bool telephony.smsDisabled),
          ("TWILIO_DISABLE_VOICE_CONTACT_METHOD", .bool telephony.voiceDisabled)]),
      ("gupshup", .object
        [("GUPSHUP_ENABLE", .bool gateway.enabled),
          ("GUPSHUP_BASE_URL", .text gateway.baseUrl),
          ("GUPSHUP_API_KEY", .text gateway.apiKey),
          ("GUPSHUP_SOURCE", .text gateway.source)]),
      ("webpush", .object
        [("WEBPUSH_ENABLE", .bool push.enabled),
          ("WEBPUSH_VAPID_PUBLIC_KEY", .text push.publicKey),
          ("WEBPUSH_VAPID_PRIVATE_KEY", .text push.privateKey),
          ("WEBPUSH_SUBSCRIBER_EMAIL", .text push.subscriberEmail),
          ("WEBPUSH_TTL", .integer push.timeToLive)]),
      ("webhook", .object [("WEBHOOK_ENABLE", .bool settings.webhookEnabled)]),
      ("alerts", .object
        [("HIGH_PRIORITY_LABEL_KEY", .text priority.key),
          ("HIGH_PRIORITY_LABEL_VALUE", .text priority.value)]),
      ("general", .object
        [("APPLICATION_NAME", .text identity.applicationName),
          ("PUBLIC_URL", .text identity.publicUrl)]),
      ("dispatch", .object
        [("DISPATCH_REQUEST_TIMEOUT_SECONDS", .real settings.requestTimeout)]),
      ("persistence", .object
        [("DELIVERY_RECORDS_TABLE", .text tables.deliveries),
          ("PUSH_SUBSCRIPTIONS_TABLE", .text tables.subscriptions),
          ("SIGNAL_MESSAGES_TABLE", .text tables.signals)])]

end Settings
end AlertRelay
