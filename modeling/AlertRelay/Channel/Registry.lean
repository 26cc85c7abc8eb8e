import AlertRelay.Channel.Basic

/-!
# The registry of channels

Every payload leaves through the channel that is registered for the type of its destination.
-/

namespace AlertRelay

/-- The channels that a site sends through.  Where two have the same id, the first one is found;
`ofChannels` refuses them. -/
structure Registry where
  channels : List Channel

namespace Registry

def component : String := "manager"

/-- Register channels; two channels for one destination type are refused. -/
def ofChannels (channels : List Channel) : Except Failure Registry :=
  go [] channels
where
  go (ids : List String) : List Channel → Except Failure Registry
    | [] => .ok ⟨channels⟩
    | channel :: rest =>
        if ids.contains channel.id then
          .error (.duplicateChannel channel.id)
        else go (channel.id :: ids) rest

/-- The channel for a destination type. -/
def find? (registry : Registry) (type : String) : Option Channel :=
  registry.channels.find? (·.id == type)

/-- The channels in the order of their ids. -/
def sorted (registry : Registry) : List Channel :=
  registry.channels.mergeSort fun first second => Surrogate.notAfter first.id second.id

/-- The ids of all channels. -/
def ids (registry : Registry) : List String := registry.sorted.map (·.id)

/-- The ids of the channels that can send. -/
def senderIds (registry : Registry) : List String :=
  (registry.sorted.filter (·.send.isSome)).map (·.id)

/-- Report the registered channels. -/
def announce (registry : Registry) : Program Unit :=
  Program.log .info component "initialized_notification_manager"
    [("destination_types", .list (registry.ids.map Json.text)),
      ("senders", .list (registry.senderIds.map Json.text))]

/-- Describe all destination types. -/
def typeInfo (registry : Registry) (config : Config) : List TypeInfo :=
  registry.sorted.map fun channel => channel.info config

/-- Check a destination argument with the channel for its type. -/
def validate (registry : Registry) (type field : String) (value : Option String) :
    Except Failure Unit :=
  match (registry.find? type).bind (·.validate) with
  | some check => check field value
  | none => .error (.unknownDestination type)

/-- What becomes of a failure of a channel: a lack of configuration is passed on, and any other
failure ends in a result. -/
def failed (payload : Payload) (failure : Failure) : Program SendResult :=
  let type := ("dest_type", Json.text payload.destination.kind)
  match failure with
  | .configuration .. => .fail failure
  | .unsupportedPayload _ variant => do
      Program.log .warning component "unsupported_message_type"
        [type, ("message_type", variant)]
      pure (SendResult.failedPermanently payload.id failure.text)
  | .transport _ => do
      Program.log .warning component "provider_transport_error"
        [type, ("error", .text failure.text)]
      pure (SendResult.failedTemporarily payload.id s!"transport error: {failure.text}")
  | _ => do
      Program.log .error component "provider_send_failed"
        [type, ("error", .text failure.text), ("exc_info", .bool true)]
      pure (SendResult.failedTemporarily payload.id s!"provider error: {failure.text}")

/-- Report the result of a channel. -/
def report (payload : Payload) (result : SendResult) : Program SendResult := do
  Program.log .info component "notification_dispatched"
    [("dest_type", .text payload.destination.kind), ("state", .text result.state.name),
      ("external_id", Json.ofText? result.externalId)]
  pure result

/-- Send a payload through the channel for its destination, unless the channel is disabled or the
sender has asked to stop. -/
def send (registry : Registry) (payload : Payload) (config : Config) : Program SendResult :=
  let type := payload.destination.kind
  match registry.find? type with
  | none => .fail (.unknownDestination type)
  | some channel =>
      match channel.send with
      | none => .fail (.unknownDestination type)
      | some sendPayload =>
          if !(channel.info config).enabled then do
            Program.log .warning component "destination_type_disabled" [("dest_type", .text type)]
            pure (SendResult.failedPermanently payload.id "destination type is disabled")
          else
            .ask .cancelled fun stop =>
              if stop then do
                Program.log .info component "send_cancelled" [("dest_type", .text type)]
                pure (SendResult.failedTemporarily payload.id "send cancelled")
              else
                (sendPayload payload config).attempt.bind fun
                  | .ok result => report payload result
                  | .error failure => failed payload failure

end Registry
end AlertRelay
