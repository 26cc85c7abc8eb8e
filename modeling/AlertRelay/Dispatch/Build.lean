import AlertRelay.Delivery.Ledger
import AlertRelay.Dispatch.Priority
import AlertRelay.Json.Equality
import AlertRelay.Signal.Store

/-!
# Building payloads

Each type of message has its own way from the message to a payload.  A message may also end here
with a result, without any channel being involved: when its alerts are resolved, when the priority
policy suppresses it, or when its type has no way to a payload.
-/

namespace AlertRelay

/-- What a dispatch works with. -/
structure Site where
  ledger : Ledger
  signals : SignalSource
  /-- The message types that have a way to a payload. -/
  types : List MessageType

/-- A payload to send, or the result of a message that is not sent. -/
inductive Build where
  | payload (payload : Payload) (isFirstDelivery : Bool)
  | result (result : SendResult)

/-- A built message: the message as it will be sent, and what was built for it. -/
structure BuildOutcome where
  message : Message
  build : Build

namespace BuildOutcome

def component : String := "builder"

/-- The detail of a message whose alerts are all acknowledged or closed. -/
def resolvedDetail : String := "alerts acked/closed before message sent"

/-- The detail of a telephone call that the priority policy suppresses. -/
def suppressedDetail : String := "voice notification suppressed for non-priority alert"

/-- A program whose failures are failures of a lookup. -/
def lookup {α : Type} (operation : String) (program : Program α) : Program α :=
  program.rescue fun failure => .fail (.lookup operation failure.text)

/-- Make a request whose failures are failures of a lookup. -/
def ask {α : Type} (operation : String) (program : Program (Except Failure α)) : Program α :=
  lookup operation (program.bind Program.ofExcept)

/-- A message that ends with a permanent failure. -/
def refuse (message : Message) (detail : String) : BuildOutcome :=
  ⟨message, .result (SendResult.failedPermanently message.id detail)⟩

/-- A message with the payload for it. -/
def carry (message : Message) (content : Content) (isFirstDelivery : Bool) : BuildOutcome :=
  ⟨message,
    .payload ⟨message.id, message.destination, message.userId, content⟩ isFirstDelivery⟩

/-- The name and the count of open alerts in the record of a service, which has no other parts. -/
def serviceParts (parts : List Json) : Except Failure (Json × Json) :=
  match parts with
  | [name, count] => .ok (name, count)
  | _ =>
      .error (.malformed
        (if parts.length < 2 then
          s!"not enough values to unpack (expected 2, got {parts.length})"
        else "too many values to unpack (expected 2)"))

def serviceInfo (message : Message) : Program (Json × Json) := do
  let parts ← ask "lookup service info" (Program.request (.serviceInfo message.serviceId))
  Program.ofExcept (serviceParts parts)

def alert (message : Message) : Program Alert :=
  ask "lookup alert" (Program.request (.alert message.alertId))

def ofBundle (message : Message) : Program BuildOutcome := do
  let (name, count) ← serviceInfo message
  if count.same (.integer 0) then
    Program.log .info component "alert_bundle_no_open_alerts"
      [("service_id", Json.ofText? message.serviceId)]
    pure (refuse message resolvedDetail)
  else
    let content ← Program.ofChecked "AlertBundlePayload"
      (BundleContent.mk
        <$> (Scalar.text (Json.ofText? message.serviceId)).within "service_id"
        <*> (Scalar.text name).within "service_name"
        <*> (Scalar.integer count).within "count")
    pure (carry message (.alertBundle content) false)

/-- What a payload about an alert says, with the name of its service and its metadata as they were
found. -/
def alertContent (alert : Alert) (serviceName metadata : Json)
    (firstDelivery : Option DeliveryRecord) : Checked AlertContent :=
  (fun serviceName metadata =>
      { alertId := alert.id
        summary := alert.summary
        details := alert.details
        serviceId := alert.serviceId
        serviceName
        metadata
        firstDelivery })
    <$> (Scalar.text serviceName).within "service_name"
    <*> (Scalar.textMap metadata).within "meta"

def ofAlert (site : Site) (message : Message) (config : Config) : Program BuildOutcome := do
  let (name, _) ← serviceInfo message
  let alert ← alert message
  let metadata ← ask "lookup alert metadata" (Program.request (.alertMetadata message.alertId))
  let decision ← Priority.apply config.priorityKey config.priorityValue metadata message
  let message := decision.message
  if decision.isSuppressed then
    Program.log .info component "voice_notification_suppressed"
      [("alert_id", .integer message.alertId), ("user_id", Json.ofText? message.userId)]
    pure (refuse message suppressedDetail)
  else
    let recorded ← site.ledger.firstDelivery message.alertId message.destinationId
    let firstDelivery := recorded.filter fun record => record.messageId != message.id
    let content ← Program.ofChecked "AlertPayload"
      (alertContent alert name metadata firstDelivery)
    pure (carry message (.alert content) firstDelivery.isNone)

def ofStatus (site : Site) (message : Message) : Program BuildOutcome := do
  let entry ← ask "lookup alert log entry" (Program.request (.logEntry message.alertLogId))
  let alert ← alert message
  match ← site.ledger.firstDelivery message.alertId message.destinationId with
  | none => .fail (.firstDeliveryMissing message.alertId message.destination.text)
  | some firstDelivery =>
      pure (carry message
        (.alertStatus
          { alertId := message.alertId
            serviceId := alert.serviceId
            logEntry := entry.message
            summary := alert.summary
            details := alert.details
            newState := entry.kind.alertState
            firstDelivery })
        false)

/-- A number in at least six digits, in which a minus sign counts as one. -/
def codeDigits (code : Int) : String :=
  let digits := Nat.toDigits 10 code.natAbs
  let sign := if code < 0 then ['-'] else []
  let zeros := List.replicate (6 - sign.length - digits.length) '0'
  String.ofList (sign ++ zeros ++ digits)

/-- The text of a verification code, which has to be an integer. -/
def codeText (code : Json) : Except Failure String :=
  match code with
  | .integer value => .ok (codeDigits value)
  | .bool value => .ok (codeDigits (if value then 1 else 0))
  | .real _ => .error (.malformed "Unknown format code 'd' for object of type 'float'")
  | .text _ => .error (.malformed "Unknown format code 'd' for object of type 'str'")
  | _ =>
      .error (.wrongKind s!"unsupported format string passed to {code.typeName}.__format__")

def ofVerification (message : Message) : Program BuildOutcome := do
  let code ← ask "lookup verification code"
    (Program.request (.verificationCode message.verificationId))
  let text ← Program.ofExcept (codeText code)
  pure (carry message (.verification text) false)

def ofRoster (message : Message) (config : Config) : Program BuildOutcome := do
  let users ← ask "lookup on call users" (Program.request (.onCallUsers message.scheduleId))
  let schedule ← ask "lookup schedule" (Program.request (.schedule message.scheduleId))
  let rosterUser (user : Named) : OnCallUser :=
    ⟨user.name, user.id, config.callbackUrl s!"/users/{user.id}"⟩
  pure (carry message
    (.onCallUsers
      { scheduleId := schedule.id
        scheduleName := schedule.name
        scheduleUrl := config.callbackUrl s!"/schedules/{schedule.id}"
        users := users.map rosterUser })
    false)

/-- The operation that reads the parameters of a signal. -/
def parametersOperation : String := "parse signal params"

/-- Whether a value is a text. -/
def isText : Json → Bool
  | .text _ => true
  | _ => false

/-- The data in a text of JSON. -/
def parseText (raw : Json) : Except Failure Json :=
  match raw with
  | .text value => (Json.parse value).mapError fun fault => .malformedJson fault value
  | other => .error (.shape (.noJsonText other.typeName))

/-- The parameters of a signal, which have to be an object of texts. -/
def signalParameters : Json → Program (List (String × String))
  | .object members =>
      let others := (members.filter fun member => !isText member.2).map Prod.fst
      if others.isEmpty then
        Program.ofChecked "SignalPayload" ((Scalar.textMap (.object members)).within "params")
      else
        let names := others.mergeSort Surrogate.notAfter
        let list := String.intercalate ", " names
        .fail (.lookup parametersOperation s!"params must be string values: {list}")
  | _ => .fail (.lookup parametersOperation "params must be a JSON object")

def ofSignal (site : Site) (message : Message) : Program BuildOutcome := do
  let id ← lookup "parse signal message id"
    (Program.ofExcept ((Identifier.parse message.id).mapError fun fault =>
      Failure.malformed fault.message))
  let raw ← lookup "lookup signal params" (site.signals.parameters id)
  let data ← lookup parametersOperation (Program.ofExcept (parseText raw))
  let parameters ← signalParameters data
  pure (carry message (.signal parameters) false)

/-- Build the payload for a message. -/
def ofMessage (site : Site) (message : Message) (config : Config) : Program BuildOutcome :=
  if site.types.contains message.type then
    match message.type with
    | .alert => ofAlert site message config
    | .alertBundle => ofBundle message
    | .alertStatus => ofStatus site message
    | .test => .done (carry message .test false)
    | .verification => ofVerification message
    | .onCallUsers => ofRoster message config
    | .signal => ofSignal site message
  else do
    Program.log .error component "message_type_not_implemented"
      [("message_type", .text message.type.label)]
    pure (refuse message s!"message type {message.type.label} not implemented")

end BuildOutcome
end AlertRelay
