import AlertRelay.Address.Email
import AlertRelay.Address.Url
import AlertRelay.Channel.Basic
import AlertRelay.Push.Store
import AlertRelay.Wording.Push

/-!
# Browser push

A message goes to every browser that the user has subscribed, and counts as sent when at least one
of them accepted it.  Subscriptions that the push service reports as gone are deleted.
-/

namespace AlertRelay
namespace BrowserPush

/-- The destination type of browser push. -/
def type : String := "builtin-webpush"

def component : String := "webpush"

def iconUrl : String := "builtin://webpush"

def iconText : String := "Browser Push"

def info (config : Config) : TypeInfo where
  type := type
  name := "Browser Push"
  iconUrl := iconUrl
  iconText := iconText
  enabled := config.push.enabled
  alerts := true
  statusUpdates := true
  userVerification := true
  disclaimer := "Notifications are delivered to every browser you have enabled."

/-- All destinations look the same. -/
def display (_ : List (String × String)) : Except Failure DisplayInfo :=
  .ok
    { text := "Browser notifications"
      iconUrl
      iconText }

/-- Hosts that are not reachable from outside. -/
def localHosts : List String := ["", "localhost", "127.0.0.1", "::1"]

/-- The host of a public URL for an address; local hosts go by one name. -/
def publicHost (publicUrl : String) : Except Failure String :=
  if publicUrl = "" then .ok "localhost"
  else
    match Url.parse publicUrl with
    | .error fault => .error (.malformed fault.message)
    | .ok url =>
        let host := lowercase url.hostname
        if localHosts.contains host || ".local".toList.isSuffixOf host.toList then .ok "localhost"
        else .ok host

/-- The address at which the push service can reach the sender: the configured one when it is
valid, or else one at the public host. -/
def subscriberAddress (email publicUrl : String) : Program String := do
  let email := trim email
  let fallback : Program String := do
    let host ← Program.ofExcept (publicHost publicUrl)
    pure s!"mailto:no-reply@{host}"
  if email = "" then fallback
  else
    match Email.normalize? email with
    | some address => pure s!"mailto:{lowercase address}"
    | none => do
        Program.log .warning component "webpush_subscriber_email_invalid" []
        fallback

/-- The statuses of subscriptions that are gone. -/
def goneStatuses : List Int := [404, 410]

/-- What follows a refusal by the push service: a subscription that is gone is deleted. -/
def refused (store : SubscriptionStore) (endpoint : String) (status : Option Int)
    (failure : Failure) : Program Bool := do
  let suffix := Json.text (PushSubscription.endpointSuffix endpoint)
  Program.log .warning component "webpush_delivery_failed"
    [("endpoint", suffix), ("status_code", (status.map Json.integer).getD .null),
      ("error", .text failure.text)]
  if status.any goneStatuses.contains then
    let outcome ← store.deleteByEndpoint endpoint
    if !outcome.isSuccess then
      Program.log .error component "webpush_subscription_delete_failed"
        [("endpoint", suffix), ("error", .text outcome.message)]
  pure false

/-- Push to one subscription; the value says whether it accepted the message. -/
def deliver (store : SubscriptionStore) (request : PushRequest) : Program Bool :=
  .ask (.push request) fun
    | .ok () => pure true
    | .error (.push text status) =>
        refused store request.subscription.endpoint status (.push text status)
    | .error (.transport exchange) => do
        Program.log .warning component "webpush_transport_error"
          [("endpoint", .text (PushSubscription.endpointSuffix request.subscription.endpoint)),
            ("error", .text exchange.text)]
        pure false
    | .error failure => .fail failure

/-- Push to subscriptions in order until the sender asks to stop.  The value is the count of those
that accepted the message, or none when the stop came before any of them did. -/
def deliverAll (store : SubscriptionStore) (requestFor : PushSubscription → PushRequest)
    (delivered : Nat) : List PushSubscription → Program (Option Nat)
  | [] => .done (some delivered)
  | subscription :: rest =>
      .ask .cancelled fun stop =>
        if stop then .done (if delivered = 0 then none else some delivered)
        else
          (deliver store (requestFor subscription)).bind fun accepted =>
            deliverAll store requestFor (if accepted then delivered + 1 else delivered) rest

/-- The key pair has to be configured, and the payload has to belong to a user. -/
def checkedUser (payload : Payload) (config : Config) : Except Failure String :=
  if config.push.publicKey = "" ∨ config.push.privateKey = "" then
    .error (.configuration type "VAPID key pair is not configured")
  else if payload.userId.getD "" = "" then
    .error (.configuration type "push destination has no user")
  else .ok (payload.userId.getD "")

/-- The push of a message to one subscription. -/
def pushRequest (config : Config) (message : PushMessage) (subscriber : String)
    (subscription : PushSubscription) : PushRequest where
  subscription
  data := message.toJson.encode
  privateKey := config.push.privateKey
  subscriber
  timeToLive := config.push.timeToLive
  timeout := config.requestTimeout

/-- Push a payload to all browsers of its user. -/
def send (store : SubscriptionStore) (payload : Payload) (config : Config) :
    Program SendResult := do
  let userId ← Program.ofExcept (checkedUser payload config)
  let message ← Program.ofExcept (Wording.push type payload config)
  let subscriptions ← store.findByUser userId
  if subscriptions.isEmpty then
    Program.log .info component "webpush_no_subscriptions" [("user_id", .text userId)]
    pure (SendResult.failedPermanently payload.id "no registered browsers for web push")
  else
    let subscriber ← subscriberAddress config.push.subscriberEmail config.publicUrl
    match ← deliverAll store (pushRequest config message subscriber) 0 subscriptions with
    | none => pure (SendResult.failedTemporarily payload.id "send cancelled")
    | some delivered => do
        Program.log .info component "webpush_delivery_complete"
          [("user_id", .text userId), ("delivered", .integer delivered),
            ("subscriptions", .integer subscriptions.length)]
        if delivered = 0 then
          pure (SendResult.failedPermanently payload.id
            "web push delivery failed for all subscriptions")
        else pure (SendResult.sent payload.id none)

/-- The channel of browser push over stored subscriptions. -/
def channel (store : SubscriptionStore) : Channel where
  id := type
  info := info
  display := some display
  send := some (send store)

end BrowserPush
end AlertRelay
