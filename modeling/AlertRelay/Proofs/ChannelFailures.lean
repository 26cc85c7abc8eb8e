import AlertRelay.Proofs.ChannelRequests
import AlertRelay.Proofs.ServiceFailures

/-!
# Failures of channels

Once a channel has begun to deliver, it fails raw or with what one of its calls raised.  Every
statement names the calls whose failures it has to assume something about.
-/

namespace AlertRelay

open Program Failure

theorem Gateway.onlyRaw_messageId (body : String) : Only IsRaw (Gateway.messageId body) := by
  dsimp only [Gateway.messageId]
  split
  · exact only_ok _
  · exact only_error rfl
  · exact only_ok _

section Failures

variable {expected : Exchange → Prop} {holds : Failure → Prop}

/-- What a program fails with is a failure within the value of its attempt. -/
theorem Program.Fails.attempt {α : Type} {program : Program α}
    (fails : program.Fails expected holds) :
    program.attempt.Yields expected fun result =>
      ∃ inner, result = .ok inner ∧ Only holds inner := by
  refine Yields.attempt fails fun inner held => ⟨inner, rfl, ?_⟩
  rintro failure rfl
  exact held

/-! ## Browser push -/

section Subscriptions

variable {store : SubscriptionStore}
  (deleted : ∀ endpoint, (store.tables.deleteItem store.table
    (SubscriptionStore.endpointKey (.text endpoint)) []).Fails expected holds)

include deleted

/-- Deleting a subscription fails only as the table service does. -/
theorem SubscriptionStore.fails_deleteByEndpoint (endpoint : String) :
    (store.deleteByEndpoint endpoint).Fails expected holds := by
  refine (deleted endpoint).bind fun outcome => ?_
  split
  · have shown : Only holds (PushSubscription.anySuffix (.text endpoint)) := only_ok _
    exact shown.fails.bind fun suffix => fails_log.bind fun _ => .done _
  · exact .done _

namespace BrowserPush

theorem fails_refused (endpoint : String) (status : Option Int) (failure : Failure) :
    (refused store endpoint status failure).Fails expected holds := by
  refine fails_log.bind fun _ => ?_
  split
  · refine (SubscriptionStore.fails_deleteByEndpoint deleted endpoint).bind fun outcome => ?_
    split
    · exact fails_log.bind fun _ => .done _
    · exact .done _
  · exact .done _

variable (raised : ∀ request failure, expected ⟨.push request, .error failure⟩ → holds failure)

include raised

theorem fails_deliver (request : PushRequest) :
    (deliver store request).Fails expected holds := by
  refine Yields.ask fun answer given => ?_
  cases answer with
  | ok _ => exact Fails.done _
  | error failure =>
      cases failure with
      | push text status => exact fails_refused deleted _ _ _
      | transport exchange => exact fails_log.bind fun _ => .done _
      | _ => exact Fails.fail (raised _ _ given)

/-- Deliveries fail only as the push service or the table service does. -/
theorem fails_deliverAll (requestFor : PushSubscription → PushRequest) (delivered : Nat)
    (subscriptions : List PushSubscription) :
    (deliverAll store requestFor delivered subscriptions).Fails expected holds := by
  induction subscriptions generalizing delivered with
  | nil => exact .done _
  | cons subscription rest ih =>
      refine Yields.ask fun stop _ => ?_
      cases stop with
      | true => exact Fails.done _
      | false => exact (fails_deliver deleted raised _).bind fun accepted => ih _

end BrowserPush
end Subscriptions

/-! ## Telephone calls, short messages and webhooks -/

theorem Telephony.fails_create {call : TelephonyCall}
    (raised : ∀ failure, expected ⟨.telephone call, .error failure⟩ → holds failure) :
    (create call).Fails expected holds := by
  refine Fails.bind (Yields.ask fun answer given => ?_) fun id => fails_log.bind fun _ => .done _
  refine fails_ofExcept ?_
  rintro failure rfl
  exact raised failure given

section Raw

variable (raw : ∀ failure, failure.IsRaw → holds failure)

include raw

theorem Channel.fails_resultOf (messageId : String) (outcome : Outcome) :
    (Channel.resultOf messageId outcome).Fails expected holds :=
  (Checked.onlyRaw_orFail _ _).fails_of_raw raw

theorem Telephony.fails_deliver {kind messageId : String} {call : TelephonyCall}
    (raised : ∀ failure, expected ⟨.telephone call, .error failure⟩ → holds failure) :
    (deliver kind messageId call).Fails expected holds := by
  have accepts : ((create call).bind (accepted messageId)).Fails expected holds :=
    (fails_create raised).bind fun id => (Checked.onlyRaw_orFail _ _).fails_of_raw raw
  refine Yields.rescue accepts (fun _ _ => trivial) fun failure held => ?_
  cases failure with
  | telephony refusal => exact fails_log.bind fun _ => .done _
  | transport exchange => exact fails_log.bind fun _ => Channel.fails_resultOf raw _ _
  | _ => exact Fails.fail held

theorem Gateway.fails_send {gateway : Gateway} {toNumber text : String}
    (raised : ∀ post failure, expected ⟨.post post, .error failure⟩ → holds failure) :
    (gateway.send toNumber text).Fails expected holds := by
  have posted : (gateway.post (gateway.request toNumber text)).Fails expected holds := by
    refine Yields.ask fun answer given => ?_
    have unraised : (ofExcept answer).Fails expected holds := by
      refine fails_ofExcept ?_
      rintro failure rfl
      exact raised _ failure given
    split
    · exact unraised
    · exact Yields.ask fun _ _ => unraised
  refine posted.bind fun response => ?_
  split
  · refine ((Gateway.onlyRaw_messageId _).fails_of_raw raw).bind fun id => ?_
    split
    · exact fails_log.bind fun _ => .done _
    · exact .done _
  · exact fails_log.bind fun _ => Fails.fail (raw _ rfl)

theorem Sms.fails_sendThroughGateway {gateway : Gateway} {messageId toNumber text : String}
    (raised : ∀ post failure, expected ⟨.post post, .error failure⟩ → holds failure) :
    (sendThroughGateway gateway messageId toNumber text).Fails expected holds := by
  refine Yields.bind (Gateway.fails_send raw raised).attempt (fun result attempted => ?_) ?_
  · obtain ⟨_, same, held⟩ := attempted
    cases same
    cases result with
    | ok id =>
        dsimp only
        split
        · exact fails_log.bind fun _ => .done _
        · exact Fails.done _
    | error failure =>
        cases failure with
        | gateway status body => exact fails_log.bind fun _ => Channel.fails_resultOf raw _ _
        | transport exchange => exact fails_log.bind fun _ => Channel.fails_resultOf raw _ _
        | _ => exact Fails.fail (held _ rfl)
  · rintro _ ⟨_, ⟨⟩, _⟩

theorem Webhook.fails_send {payload : Payload} {config : Config}
    (raised : ∀ post failure, expected ⟨.post post, .error failure⟩ → holds failure) :
    (Webhook.send payload config).Fails expected holds := by
  refine Yields.ask fun answer given => ?_
  cases answer with
  | ok response =>
      dsimp only [answered]
      split
      · exact Fails.done _
      · exact fails_log.bind fun _ => Channel.fails_resultOf raw _ _
  | error failure =>
      dsimp only
      split
      · exact fails_log.bind fun _ => Channel.fails_resultOf raw _ _
      · exact Fails.fail (raised _ failure given)

end Raw
end Failures
end AlertRelay
