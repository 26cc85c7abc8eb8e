import AlertRelay.Channel.BrowserPush
import AlertRelay.Channel.Sms
import AlertRelay.Channel.Webhook
import AlertRelay.Configuration.Settings
import AlertRelay.Dispatch.Send

/-!
# Deployments

A deployment puts together the channels that carry its messages and the tables that it works with.
-/

namespace AlertRelay

/-- Who carries messages of one destination type. -/
inductive Provider where
  | voice
  | sms (gateway : Option Gateway)
  | browserPush (store : SubscriptionStore)
  | webhook
  /-- A channel outside of this library, which payloads are handed to if it can send at all. -/
  | outside (id : String) (info : Config → TypeInfo)
      (validate : Option (String → Option String → Except Failure Unit)) (sends : Bool)

namespace Provider

/-- The channel of a provider. -/
def channel : Provider → Channel
  | voice => Voice.channel
  | sms gateway => Sms.channel gateway
  | browserPush store => BrowserPush.channel store
  | webhook => Webhook.channel
  | outside id info validate sends =>
      { id
        info
        validate
        send :=
          if sends then
            some fun payload _ =>
              (Program.request (.deliver id payload)).bind Program.ofExcept
          else none }

/-- The providers of a deployment that names no others. -/
def standard (store : SubscriptionStore) : List Provider :=
  [voice, sms none, browserPush store, webhook]

end Provider

namespace Registry

/-- The channels of providers. -/
def ofProviders (providers : List Provider) : Registry := ⟨providers.map Provider.channel⟩

/-- The channels of a deployment that names no others. -/
def standard (store : SubscriptionStore) : Registry := ofProviders (Provider.standard store)

end Registry

namespace Site

/-- A site with a way to a payload for every type of message. -/
def complete (ledger : Ledger) (signals : SignalSource) : Site :=
  ⟨ledger, signals, MessageType.all⟩

end Site
end AlertRelay
