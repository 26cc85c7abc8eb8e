import AlertRelay.Dispatch.Deployment
import AlertRelay.Proofs.ServiceCalls

/-!
# Requests of channels

What each channel asks of its surroundings.  No channel stores an item: at most, browser push looks
up and deletes the subscriptions of a user.  Only the channel of telephone calls rings a telephone.
-/

namespace AlertRelay

open Program

theorem makes_resultOf {allowed : Request → Prop} (messageId : String) (outcome : Outcome) :
    (Channel.resultOf messageId outcome).Makes allowed :=
  makes_ofExcept

section Requests

variable {allowed : Request → Prop} (routine : ∀ request, request.Routine → allowed request)

include routine

namespace Telephony

theorem makes_failed (kind messageId : String) (failure : Failure) :
    (failed kind messageId failure).Makes allowed := by
  cases failure with
  | telephony refusal => exact makes_reported routine _ _ _ _ _
  | transport exchange =>
      exact makes_bind (makes_log_of_routine routine _ _ _ _) fun _ => makes_resultOf _ _
  | _ => exact .fail _

theorem makes_deliver {kind messageId : String} {call : TelephonyCall}
    (placed : allowed (.telephone call)) : (deliver kind messageId call).Makes allowed := by
  refine makes_rescue (makes_bind ?_ fun id => makes_ofExcept) fun failure =>
    makes_failed routine kind messageId failure
  refine makes_bind (makes_bind (makes_request.mpr placed) fun _ => makes_ofExcept) fun id => ?_
  exact makes_reported routine _ _ _ _ _

end Telephony

namespace Voice

theorem makes_send (placed : ∀ call, allowed (.telephone call)) (payload : Payload)
    (config : Config) : (send payload config).Makes allowed := by
  refine makes_bind makes_ofExcept fun text => makes_bind makes_ofExcept fun _ => ?_
  exact Telephony.makes_deliver routine (placed _)

end Voice

namespace Gateway

theorem makes_post (posted : ∀ post, allowed (.post post)) (gateway : Gateway)
    (request : HttpPost) : (gateway.post request).Makes allowed := by
  refine .ask (posted request) fun response => ?_
  split
  · exact makes_ofExcept
  · exact .ask (routine _ trivial) fun _ => makes_ofExcept

theorem makes_send (posted : ∀ post, allowed (.post post)) (gateway : Gateway)
    (toNumber text : String) : (gateway.send toNumber text).Makes allowed := by
  refine makes_bind (makes_post routine posted gateway _) fun response => ?_
  split
  · refine makes_bind makes_ofExcept fun id => ?_
    split
    · exact makes_reported routine _ _ _ _ _
    · exact .done _
  · exact makes_bind (makes_log_of_routine routine _ _ _ _) fun _ => .fail _

end Gateway

namespace Sms

theorem makes_gatewayFailed (messageId : String) (failure : Failure) :
    (gatewayFailed messageId failure).Makes allowed := by
  cases failure with
  | gateway status body =>
      exact makes_bind (makes_log_of_routine routine _ _ _ _) fun _ => makes_resultOf _ _
  | transport exchange =>
      exact makes_bind (makes_log_of_routine routine _ _ _ _) fun _ => makes_resultOf _ _
  | _ => exact .fail _

/-- What follows when the gateway has come to something. -/
def concluded (messageId : String) : Except Failure String → Program SendResult
  | .error failure => gatewayFailed messageId failure
  | .ok given => do
      if given = "" then
        Program.log .info Telephony.component "gupshup_sms_sent_without_message_id" []
      pure (SendResult.sent messageId (some given))

omit routine in
theorem sendThroughGateway_eq (gateway : Gateway) (messageId toNumber text : String) :
    sendThroughGateway gateway messageId toNumber text =
      (gateway.send toNumber text).attempt.bind (concluded messageId) :=
  rfl

theorem makes_concluded (messageId : String) (result : Except Failure String) :
    (concluded messageId result).Makes allowed := by
  cases result with
  | error failure => exact makes_gatewayFailed routine messageId failure
  | ok given =>
      dsimp only [concluded]
      split
      · exact makes_reported routine _ _ _ _ _
      · exact .done _

theorem makes_sendThroughGateway (posted : ∀ post, allowed (.post post)) (gateway : Gateway)
    (messageId toNumber text : String) :
    (sendThroughGateway gateway messageId toNumber text).Makes allowed := by
  rw [sendThroughGateway_eq]
  refine makes_bind (makes_attempt.mpr (Gateway.makes_send routine posted gateway _ _)) ?_
  exact makes_concluded routine messageId

theorem makes_send (posted : ∀ post, allowed (.post post))
    (written : ∀ call text, call.content = .written text → allowed (.telephone call))
    (given : Option Gateway) (payload : Payload) (config : Config) :
    (send given payload config).Makes allowed := by
  refine makes_bind makes_ofExcept fun text => ?_
  dsimp only
  split
  · split
    · exact .fail _
    · exact makes_sendThroughGateway routine posted _ _ _ _
  · refine makes_bind makes_ofExcept fun _ => ?_
    exact Telephony.makes_deliver routine (written _ text rfl)

end Sms

namespace Webhook

theorem makes_send (posted : ∀ post, allowed (.post post)) (payload : Payload)
    (config : Config) : (send payload config).Makes allowed := by
  refine .ask (posted _) fun answer => ?_
  cases answer with
  | ok response =>
      dsimp only [answered]
      split
      · exact .done _
      · exact makes_bind (makes_log_of_routine routine _ _ _ _) fun _ => makes_resultOf _ _
  | error failure =>
      dsimp only
      split
      · exact makes_bind (makes_log_of_routine routine _ _ _ _) fun _ => makes_resultOf _ _
      · exact .fail _

end Webhook

namespace SubscriptionStore

/-- The key of the subscription with an endpoint. -/
def endpointKey (endpoint : Json) : Json := .object [("endpoint", .object [("S", endpoint)])]

theorem makes_read (data : Json) : (read data).Makes allowed := by
  rw [read]
  split
  · exact .done _
  · exact makes_reported routine _ _ _ _ _
  · exact makes_reported routine _ _ _ _ _
  · exact .fail _

theorem makes_readItems (items : List Json) : (readItems items).Makes allowed := by
  induction items with
  | nil => exact .done _
  | cons item rest ih =>
      refine makes_bind makes_ofExcept fun data => ?_
      refine makes_bind (makes_read routine data) fun subscription => ?_
      exact makes_bind ih fun _ => .done _

variable {store : SubscriptionStore}

theorem makes_findByUser {userId : String}
    (queried : ∀ options, Store.queriedUser options = Attribute.ofText userId →
      allowed (.service (store.tables.sent (.query store.table options)))) :
    (store.findByUser userId).Makes allowed := by
  refine makes_bind (TableClient.makes_query routine queried rfl) fun outcome => ?_
  split
  · exact makes_readItems routine _
  · exact .fail _

theorem makes_deleteByEndpoint {endpoint : String}
    (deleted : allowed
      (.service (store.tables.sent (.deleteItem store.table (endpointKey (.text endpoint)) [])))) :
    (store.deleteByEndpoint endpoint).Makes allowed := by
  refine makes_bind (TableClient.makes_deleteItem routine deleted) fun outcome => ?_
  split
  · refine makes_bind makes_ofExcept fun suffix => ?_
    exact makes_reported routine _ _ _ _ _
  · exact .done _

end SubscriptionStore

namespace BrowserPush

variable {store : SubscriptionStore}

theorem makes_subscriberAddress (email publicUrl : String) :
    (subscriberAddress email publicUrl).Makes allowed := by
  have fallback : ((do
      let host ← Program.ofExcept (publicHost publicUrl)
      pure s!"mailto:no-reply@{host}" : Program String)).Makes allowed :=
    makes_bind makes_ofExcept fun _ => .done _
  dsimp only [subscriberAddress]
  split
  · exact fallback
  · split
    · exact .done _
    · exact makes_bind (makes_log_of_routine routine _ _ _ _) fun _ => fallback

theorem makes_refused {endpoint : String}
    (deleted : allowed (.service (store.tables.sent
      (.deleteItem store.table (SubscriptionStore.endpointKey (.text endpoint)) []))))
    (status : Option Int) (failure : Failure) :
    (refused store endpoint status failure).Makes allowed := by
  refine makes_bind (makes_log_of_routine routine _ _ _ _) fun _ => ?_
  split
  · refine makes_bind (SubscriptionStore.makes_deleteByEndpoint routine deleted) fun outcome => ?_
    split
    · exact makes_reported routine _ _ _ _ _
    · exact .done _
  · exact .done _

theorem makes_deliver (pushed : ∀ request, allowed (.push request)) {request : PushRequest}
    (deleted : allowed (.service (store.tables.sent (.deleteItem store.table
      (SubscriptionStore.endpointKey (.text request.subscription.endpoint)) [])))) :
    (deliver store request).Makes allowed := by
  refine .ask (pushed request) fun answer => ?_
  cases answer with
  | ok _ => exact .done _
  | error failure =>
      cases failure with
      | push text status => exact makes_refused routine deleted _ _
      | transport exchange =>
          exact makes_reported routine _ _ _ _ _
      | _ => exact .fail _

theorem makes_deliverAll (pushed : ∀ request, allowed (.push request))
    {requestFor : PushSubscription → PushRequest} {subscriptions : List PushSubscription}
    (deleted : ∀ subscription ∈ subscriptions, allowed
      (.service (store.tables.sent (.deleteItem store.table
        (SubscriptionStore.endpointKey (.text (requestFor subscription).subscription.endpoint))
        []))))
    (delivered : Nat) : (deliverAll store requestFor delivered subscriptions).Makes allowed := by
  induction subscriptions generalizing delivered with
  | nil => exact .done _
  | cons subscription rest ih =>
      obtain ⟨deletedFirst, deletedRest⟩ := List.forall_mem_cons.mp deleted
      refine .ask (routine _ trivial) fun stop => ?_
      cases stop with
      | true => exact .done _
      | false =>
          exact makes_bind (makes_deliver routine pushed deletedFirst) fun accepted =>
            ih deletedRest _

/-- What pushing a message does with the subscriptions that were found. -/
def pushAll (store : SubscriptionStore) (payload : Payload) (config : Config) (userId : String)
    (message : PushMessage) (subscriptions : List PushSubscription) : Program SendResult :=
  if subscriptions.isEmpty then do
    Program.log .info component "webpush_no_subscriptions" [("user_id", .text userId)]
    pure (SendResult.failedPermanently payload.id "no registered browsers for web push")
  else do
    let subscriber ← subscriberAddress config.push.subscriberEmail config.publicUrl
    let requestFor (subscription : PushSubscription) : PushRequest :=
      { subscription
        data := message.toJson.encode
        privateKey := config.push.privateKey
        subscriber
        timeToLive := config.push.timeToLive
        timeout := config.requestTimeout }
    match ← deliverAll store requestFor 0 subscriptions with
    | none => pure (SendResult.failedTemporarily payload.id "send cancelled")
    | some delivered => do
        Program.log .info component "webpush_delivery_complete"
          [("user_id", .text userId), ("delivered", .integer delivered),
            ("subscriptions", .integer subscriptions.length)]
        if delivered = 0 then
          pure (SendResult.failedPermanently payload.id
            "web push delivery failed for all subscriptions")
        else pure (SendResult.sent payload.id none)

omit routine in
/-- Pushing checks the user, words the message and finds the subscriptions. -/
theorem send_eq (store : SubscriptionStore) (payload : Payload) (config : Config) :
    send store payload config =
      (ofExcept (checkedUser payload config)).bind fun userId =>
      (ofExcept (Wording.push type payload config)).bind fun message =>
      (store.findByUser userId).bind (pushAll store payload config userId message) :=
  rfl

theorem makes_pushAll (pushed : ∀ request, allowed (.push request))
    {subscriptions : List PushSubscription}
    (deleted : ∀ subscription ∈ subscriptions, allowed (.service (store.tables.sent
      (.deleteItem store.table (SubscriptionStore.endpointKey (.text subscription.endpoint)) []))))
    (payload : Payload) (config : Config) (userId : String) (message : PushMessage) :
    (pushAll store payload config userId message subscriptions).Makes allowed := by
  rw [pushAll]
  split
  · exact makes_reported routine _ _ _ _ _
  · refine makes_bind (makes_subscriberAddress routine _ _) fun subscriber => ?_
    refine makes_bind (makes_deliverAll routine pushed deleted _) fun delivered => ?_
    cases delivered with
    | none => exact .done _
    | some delivered =>
        refine makes_bind (makes_log_of_routine routine _ _ _ _) fun _ => ?_
        split
        · exact .done _
        · exact .done _

theorem makes_send (pushed : ∀ request, allowed (.push request))
    (queried : ∀ options, allowed (.service (store.tables.sent (.query store.table options))))
    (deleted : ∀ endpoint, allowed (.service
      (store.tables.sent (.deleteItem store.table (SubscriptionStore.endpointKey endpoint) []))))
    (payload : Payload) (config : Config) : (send store payload config).Makes allowed := by
  rw [send_eq]
  refine makes_bind makes_ofExcept fun userId => makes_bind makes_ofExcept fun message => ?_
  refine makes_bind (SubscriptionStore.makes_findByUser routine fun options _ => queried options)
    fun subscriptions => ?_
  exact makes_pushAll routine pushed (fun _ _ => deleted _) payload config userId message

end BrowserPush
end Requests

/-- A payload with a checked user belongs to that user. -/
theorem BrowserPush.userId_eq_of_checkedUser {payload : Payload} {config : Config} {userId : String}
    (checked : checkedUser payload config = .ok userId) : payload.userId = some userId := by
  rw [checkedUser] at checked
  split at checked
  · cases checked
  · split at checked
    · cases checked
    · rename_i known
      cases given : payload.userId with
      | none => simp [given] at known
      | some id =>
          rw [given] at checked
          cases checked
          rfl

namespace Provider

/-- A channel sends without storing items, and rings a telephone only when it is the channel of
telephone calls. -/
theorem makes_send {provider : Provider} {sendPayload : Payload → Config → Program SendResult}
    (sends : provider.channel.send = some sendPayload) (payload : Payload) (config : Config) :
    (sendPayload payload config).Makes fun request =>
      request.Carrying ∧ (request.Rings → provider.channel.id = Voice.type) := by
  have routine (request : Request) (isRoutine : request.Routine) :
      request.Carrying ∧ (request.Rings → provider.channel.id = Voice.type) :=
    ⟨.inl isRoutine, fun rings => (isRoutine.quiet.not_outbound rings.outbound).elim⟩
  cases provider with
  | voice =>
      cases sends
      exact Voice.makes_send routine (fun call => ⟨.inr (.inl trivial), fun _ => rfl⟩) payload
        config
  | sms gateway =>
      cases sends
      refine Sms.makes_send routine (fun post => ⟨.inr (.inl trivial), False.elim⟩) ?_
        gateway payload config
      intro call text content
      refine ⟨.inr (.inl trivial), ?_⟩
      rintro ⟨script, spoken⟩
      rw [content] at spoken
      cases spoken
  | browserPush store =>
      cases sends
      exact BrowserPush.makes_send routine (fun request => ⟨.inr (.inl trivial), False.elim⟩)
        (fun options => ⟨.inr (.inr trivial), False.elim⟩)
        (fun endpoint => ⟨.inr (.inr ⟨endpoint, rfl⟩), False.elim⟩) payload config
  | webhook =>
      cases sends
      exact Webhook.makes_send routine (fun post => ⟨.inr (.inl trivial), False.elim⟩) payload
        config
  | outside id info validate canSend =>
      cases canSend with
      | false => cases sends
      | true =>
          cases sends
          exact makes_bind (makes_request.mpr ⟨.inr (.inl trivial), False.elim⟩)
            fun _ => makes_ofExcept

end Provider

namespace Registry

theorem makes_failed {allowed : Request → Prop}
    (routine : ∀ request, request.Routine → allowed request) (payload : Payload)
    (failure : Failure) : (failed payload failure).Makes allowed := by
  cases failure with
  | configuration channel reason => exact .fail _
  | _ => exact makes_reported routine _ _ _ _ _

/-- A registered channel for a destination type has the type as its id. -/
theorem id_of_find? {registry : Registry} {type : String} {channel : Channel}
    (found : registry.find? type = some channel) : channel.id = type := by
  simpa using List.find?_some found

/-- The channels of a deployment that names no others send in four ways. -/
theorem send_of_find?_standard {subscriptions : SubscriptionStore} {type : String}
    {channel : Channel} {sendPayload : Payload → Config → Program SendResult}
    (found : (standard subscriptions).find? type = some channel)
    (sends : channel.send = some sendPayload) :
    sendPayload = Voice.send ∨ sendPayload = Sms.send none ∨
      sendPayload = BrowserPush.send subscriptions ∨ sendPayload = Webhook.send := by
  obtain ⟨provider, isStandard, rfl⟩ := List.mem_map.mp (List.mem_of_find?_eq_some found)
  simp only [Provider.standard, List.mem_cons, List.not_mem_nil, or_false] at isStandard
  rcases isStandard with rfl | rfl | rfl | rfl
  · cases sends
    exact .inl rfl
  · cases sends
    exact .inr (.inl rfl)
  · cases sends
    exact .inr (.inr (.inl rfl))
  · cases sends
    exact .inr (.inr (.inr rfl))

/-- Sending a payload stores no items, and rings a telephone only for a payload that goes to a
telephone. -/
theorem makes_send (providers : List Provider) (payload : Payload) (config : Config) :
    ((ofProviders providers).send payload config).Makes fun request =>
      request.Carrying ∧ (request.Rings → payload.destination.kind = Voice.type) := by
  have routine (request : Request) (isRoutine : request.Routine) :
      request.Carrying ∧ (request.Rings → payload.destination.kind = Voice.type) :=
    ⟨.inl isRoutine, fun rings => (isRoutine.quiet.not_outbound rings.outbound).elim⟩
  dsimp only [send]
  split
  · exact .fail _
  · rename_i channel found
    split
    · exact .fail _
    · rename_i sendPayload sends
      split
      · exact makes_reported routine _ _ _ _ _
      · refine .ask (routine _ trivial) fun stop => ?_
        cases stop with
        | true => exact makes_reported routine _ _ _ _ _
        | false =>
            obtain ⟨provider, _, rfl⟩ := List.mem_map.mp (List.mem_of_find?_eq_some found)
            have carried : (sendPayload payload config).Makes fun request =>
                request.Carrying ∧ (request.Rings → payload.destination.kind = Voice.type) := by
              rw [← id_of_find? found]
              exact Provider.makes_send sends payload config
            refine makes_bind (makes_attempt.mpr carried) fun result => ?_
            cases result with
            | ok result => exact makes_reported routine _ _ _ _ _
            | error failure => exact makes_failed routine payload failure

end Registry
end AlertRelay
