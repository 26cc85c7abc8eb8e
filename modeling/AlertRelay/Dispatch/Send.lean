import AlertRelay.Channel.Registry
import AlertRelay.Dispatch.Backlog
import AlertRelay.Dispatch.Build

/-!
# Sending messages

A message is built, sent, noted in the log of its alert and, when it is the first one for its
alert and destination, recorded.  What happens after the channel has taken the message neither
changes its result nor raises a failure.
-/

namespace AlertRelay

/-- What became of a backlog: a result or a failure for every attempted message, and the messages
that were held. -/
structure Batch where
  results : List (String × SendResult)
  failures : List (String × Failure)
  held : List Message

namespace Dispatch

def component : String := "engine"

/-- The variables of the message context. -/
def contextOf (message : Message) : Context :=
  Context.ofMessage (.text message.id) (.text message.type.name) (.text message.destination.kind)
    (Json.ofText? message.userId) []

/-- Note in the logs of the alerts that a notification was sent. -/
def noteSent (message : Message) : Program Unit :=
  let note : Program Unit :=
    match message.type with
    | .alert =>
        (Program.request (.appendAlertSent message.alertId message.id)).bind Program.ofExcept
    | .alertBundle =>
        (Program.request (.appendServiceSent message.serviceId message.id)).bind Program.ofExcept
    | _ => .done ()
  note.rescue fun failure =>
    Program.log .error component "append_alert_log_failed"
      [("alert_id", .integer message.alertId), ("service_id", Json.ofText? message.serviceId),
        ("error", .text failure.text)]

/-- Report that a delivery could not be recorded. -/
def reportUnrecorded (message : Message) (reason : String) : Program Unit :=
  Program.log .error component "track_status_failed"
    [("alert_id", .integer message.alertId), ("dest", .text message.destination.text),
      ("error", .text reason)]

/-- Record the first delivery. -/
def track (ledger : Ledger) (message : Message) (result : SendResult) : Program Unit :=
  let record :=
    ledger.record message.destinationId message.alertId message.id result.externalId
  record.attempt.bind fun
    | .error failure => reportUnrecorded message failure.text
    | .ok outcome =>
        if outcome.isSuccess then .done () else reportUnrecorded message outcome.message

/-- The steps of sending a message. -/
def sendSteps (site : Site) (registry : Registry) (config : Config) (message : Message) :
    Program SendResult := do
  Program.log .info component "send_message_started"
    [("dest_id", .text message.destinationId.text)]
  let outcome ← BuildOutcome.ofMessage site message config
  match outcome.build with
  | .result result => do
      Program.log .info component "send_message_short_circuited"
        [("state", .text result.state.name), ("details", .text result.details)]
      pure result
  | .payload payload isFirstDelivery => do
      let result ← registry.send payload config
      Program.log .info component "send_message_provider_result"
        [("state", .text result.state.name), ("details", .text result.details)]
      noteSent outcome.message
      if isFirstDelivery && result.isOk then track site.ledger outcome.message result
      pure result

/-- Send a message within its context. -/
def send (site : Site) (registry : Registry) (config : Config) (message : Message) :
    Program SendResult :=
  Program.withContext (contextOf message) (sendSteps site registry config message)

/-- Send messages one after the other; a failure of one does not stop the others. -/
def sendAll (site : Site) (registry : Registry) (config : Config) (batch : Batch) :
    List Message → Program Batch
  | [] => .done batch
  | message :: rest =>
      (send site registry config message).attempt.bind fun
        | .ok result =>
            sendAll site registry config
              { batch with results := setEntry batch.results message.id result } rest
        | .error failure => do
            Program.log .error component "send_message_failed"
              [("message_id", .text message.id), ("message_type", .text message.type.name),
                ("error", .text failure.text)]
            sendAll site registry config
              { batch with failures := setEntry batch.failures message.id failure } rest

/-- Send every message of a backlog that is ready. -/
def sendPending (site : Site) (registry : Registry) (config : Config) (types : List MessageType)
    (messages : List Message) : Program Batch := do
  let (ready, held) := Backlog.split types messages
  let batch ← sendAll site registry config ⟨[], [], held⟩ ready
  Program.log .info component "send_pending_completed"
    [("ready", .integer ready.length), ("held", .integer held.length),
      ("sent", .integer (batch.results.filter fun entry => entry.2.isOk).length),
      ("errors", .integer batch.failures.length)]
  pure batch

end Dispatch
end AlertRelay
