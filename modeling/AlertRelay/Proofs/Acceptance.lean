import AlertRelay.Proofs.DispatchStages
import AlertRelay.Proofs.Surroundings

/-!
# Accepted messages

A result that counts as a success stands for a message that a provider accepted while it was being
sent: a telephone call or a short message was created, a post was answered with a status of success,
or a push was taken.  There is one exception.  A failure that holds an answer is classified by the
status of that answer alone, so a failure that holds an answer of success passes for an acceptance.
-/

namespace AlertRelay

open Program

/-- Whether a status tells that a request succeeded. -/
def isSuccessStatus (status : Int) : Bool := decide (200 ≤ status ∧ status < 300)

theorem not_success_of_rejected {status : Int} (rejected : isSuccessStatus status = false) :
    ¬ (200 ≤ status ∧ status < 300) :=
  of_decide_eq_false rejected

/-- Whether the failure holds an answer whose status tells of a success. -/
def Failure.holdsSuccess : Failure → Bool
  | .transport exchange => exchange.rejection?.any fun response => isSuccessStatus response.status
  | .gateway status _ => isSuccessStatus status
  | _ => false

namespace Exchange

/-- Whether a provider accepted something in the exchange. -/
def isAcceptance : Exchange → Bool
  | ⟨.telephone _, .ok _⟩ => true
  | ⟨.post _, .ok response⟩ => isSuccessStatus response.status
  | ⟨.push _, .ok _⟩ => true
  | _ => false

/-- Whether a provider failed in the exchange with an answer of success. -/
def isFalseAcceptance : Exchange → Bool
  | ⟨.telephone _, .error failure⟩ => failure.holdsSuccess
  | ⟨.post _, .error failure⟩ => failure.holdsSuccess
  | _ => false

/-- The exchange is neither an acceptance nor a failure that passes for one. -/
def IsNoAcceptance (exchange : Exchange) : Prop :=
  exchange.isAcceptance = false ∧ exchange.isFalseAcceptance = false

theorem accepted_of_not_isNoAcceptance {exchange : Exchange}
    (accepted : ¬ exchange.IsNoAcceptance) :
    exchange.isAcceptance ∨ exchange.isFalseAcceptance := by
  by_cases acceptance : exchange.isAcceptance = true
  · exact .inl acceptance
  · rw [Bool.not_eq_true] at acceptance
    by_cases falseAcceptance : exchange.isFalseAcceptance = true
    · exact .inr falseAcceptance
    · rw [Bool.not_eq_true] at falseAcceptance
      exact (accepted ⟨acceptance, falseAcceptance⟩).elim

end Exchange

/-- The outcome of a dispatch is no success. -/
def Unsent : Except Failure SendResult → Prop
  | .ok result => result.isOk = false
  | .error _ => True

theorem Unsent.fail (failure : Failure) : Unsent (.error failure) :=
  trivial

/-! ## Outcomes of requests over HTTP -/

namespace Outcome

/-- The statuses of success are the only ones with an outcome of success. -/
theorem isSuccess_ofHttpStatus (status : Int) (detail : String) (retryAfter : Option String) :
    (ofHttpStatus status detail retryAfter).isSuccess = isSuccessStatus status := by
  by_cases success : 200 ≤ status ∧ status < 300
  · have taken : isSuccessStatus status = true := decide_eq_true success
    rw [taken, ofHttpStatus, if_pos success]
    rfl
  · have rejected : isSuccessStatus status = false := decide_eq_false success
    rw [rejected, ofHttpStatus, if_neg success]
    repeat' split
    all_goals rfl

/-- A failed exchange is classified as a success only when it holds an answer of success. -/
theorem isSuccess_ofHttpFailure {failure : Failure} (holdsNone : failure.holdsSuccess = false) :
    (ofHttpFailure failure).isSuccess = false := by
  cases failure with
  | transport exchange =>
      dsimp only [ofHttpFailure]
      split
      · rfl
      · split
        · rfl
        · cases rejected : exchange.rejection? with
          | none => rfl
          | some response =>
              have status : isSuccessStatus response.status = false := by
                simpa [Failure.holdsSuccess, rejected] using holdsNone
              dsimp only [ofHttpResponse]
              rw [isSuccess_ofHttpStatus, status]
  | _ => rfl

end Outcome

section Channels

variable {expected : Exchange → Prop}

theorem unsent_resultOf (messageId : String) {outcome : Outcome}
    (failed : outcome.isSuccess = false) :
    (Channel.resultOf messageId outcome).Yields expected Unsent := by
  have notSuccess : outcome.status ≠ .success := by
    intro same
    rw [Outcome.isSuccess, same] at failed
    cases failed
  refine yields_ofExcept ?_
  dsimp only [SendResult.ofOutcome]
  split
  · rename_i same
    exact (notSuccess same).elim
  · exact rfl
  · exact rfl

theorem unsent_log {level : LogLevel} {component name : String} {details : List (String × Json)}
    {next : Unit → Program SendResult} (later : (next ()).Yields expected Unsent) :
    ((log level component name details).bind next).Yields expected Unsent :=
  yields_bind (fun _ => later) Unsent.fail

end Channels

/-! ## Telephone calls and short messages -/

namespace Telephony

theorem isOk_refused (messageId : String) (failure : TelephonyFailure) :
    (refused messageId failure).isOk = false := by
  dsimp only [refused]
  split
  · rfl
  · rfl

/-- A telephone call or a short message that nobody accepted is not sent. -/
theorem unsent_deliver (kind messageId : String) (call : TelephonyCall) :
    (deliver kind messageId call).Yields Exchange.IsNoAcceptance Unsent := by
  -- Without an acceptance nothing is created, so only the handling of the failure remains.
  have created : (create call).Gives Exchange.IsNoAcceptance (fun _ => False) fun failure =>
      failure.holdsSuccess = false := by
    refine Yields.ask fun answer noAcceptance => ?_
    cases answer with
    | ok id => cases noAcceptance.1
    | error failure => exact .fail noAcceptance.2
  have acceptedNone : ((create call).bind (accepted messageId)).Gives Exchange.IsNoAcceptance
      (fun _ => False) fun failure => failure.holdsSuccess = false :=
    Yields.bind created (fun _ => False.elim) fun _ holdsNone => holdsNone
  refine Yields.rescue acceptedNone (fun _ => False.elim) fun failure holdsNone => ?_
  cases failure with
  | telephony refusal => exact unsent_log (.done (isOk_refused messageId refusal))
  | transport exchange =>
      exact unsent_log (unsent_resultOf messageId (Outcome.isSuccess_ofHttpFailure holdsNone))
  | _ => exact .fail trivial

end Telephony

theorem Voice.unsent_send (payload : Payload) (config : Config) :
    (Voice.send payload config).Yields Exchange.IsNoAcceptance Unsent := by
  refine yields_bind (fun text => ?_) Unsent.fail
  refine yields_bind (fun _ => ?_) Unsent.fail
  exact Telephony.unsent_deliver _ _ _

namespace Gateway

/-- A text that the gateway did not take fails, and the failure holds no answer of success. -/
theorem yields_send (gateway : Gateway) (toNumber text : String) :
    (gateway.send toNumber text).Yields Exchange.IsNoAcceptance fun
      | .ok _ => False
      | .error failure => failure.holdsSuccess = false := by
  have posted : (gateway.post (gateway.request toNumber text)).Yields Exchange.IsNoAcceptance fun
      | .ok response => isSuccessStatus response.status = false
      | .error failure => failure.holdsSuccess = false := by
    refine .ask fun answer noAcceptance => ?_
    have unaccepted : (ofExcept answer).Yields Exchange.IsNoAcceptance fun
        | .ok response => isSuccessStatus response.status = false
        | .error failure => failure.holdsSuccess = false := by
      refine yields_ofExcept ?_
      cases answer with
      | ok response => exact noAcceptance.1
      | error failure => exact noAcceptance.2
    split
    · exact unaccepted
    · exact .ask fun _ _ => unaccepted
  refine posted.bind (fun response rejected => ?_) fun _ holdsNone => holdsNone
  split
  · rename_i success
    exact (not_success_of_rejected rejected success).elim
  · exact .ask fun _ _ => .fail rejected

end Gateway

namespace Sms

theorem unsent_gatewayFailed (messageId : String) {failure : Failure}
    (holdsNone : failure.holdsSuccess = false) :
    (gatewayFailed messageId failure).Yields Exchange.IsNoAcceptance Unsent := by
  cases failure with
  | gateway status body =>
      refine unsent_log (unsent_resultOf messageId ?_)
      rw [Outcome.isSuccess_ofHttpStatus]
      exact holdsNone
  | transport exchange =>
      exact unsent_log (unsent_resultOf messageId (Outcome.isSuccess_ofHttpFailure holdsNone))
  | _ => exact .fail trivial

theorem unsent_sendThroughGateway (gateway : Gateway) (messageId toNumber text : String) :
    (sendThroughGateway gateway messageId toNumber text).Yields Exchange.IsNoAcceptance Unsent := by
  have attempted : (gateway.send toNumber text).attempt.Yields Exchange.IsNoAcceptance fun result =>
      ∃ failure, result = .ok (.error failure) ∧ failure.holdsSuccess = false := by
    refine (Gateway.yields_send gateway toNumber text).attempt fun result satisfied => ?_
    cases result with
    | ok id => exact satisfied.elim
    | error failure => exact ⟨failure, rfl, satisfied⟩
  refine attempted.bind (fun result => ?_) fun _ _ => trivial
  rintro ⟨failure, same, holdsNone⟩
  cases same
  exact unsent_gatewayFailed messageId holdsNone

theorem unsent_send (given : Option Gateway) (payload : Payload) (config : Config) :
    (send given payload config).Yields Exchange.IsNoAcceptance Unsent := by
  refine yields_bind (fun text => ?_) Unsent.fail
  dsimp only
  split
  · split
    · exact .fail trivial
    · exact unsent_sendThroughGateway _ _ _ _
  · refine yields_bind (fun _ => ?_) Unsent.fail
    exact Telephony.unsent_deliver _ _ _

end Sms

/-! ## Webhooks and browser push -/

theorem Webhook.unsent_send (payload : Payload) (config : Config) :
    (Webhook.send payload config).Yields Exchange.IsNoAcceptance Unsent := by
  refine .ask fun answer noAcceptance => ?_
  cases answer with
  | ok response =>
      have rejected : isSuccessStatus response.status = false := noAcceptance.1
      dsimp only [answered]
      split
      · rename_i success
        exact (not_success_of_rejected rejected success).elim
      · refine unsent_log (unsent_resultOf _ ?_)
        dsimp only [Outcome.ofHttpResponse]
        rw [Outcome.isSuccess_ofHttpStatus, rejected]
  | error failure =>
      have holdsNone : failure.holdsSuccess = false := noAcceptance.2
      dsimp only
      split
      · exact unsent_log (unsent_resultOf _ (Outcome.isSuccess_ofHttpFailure holdsNone))
      · exact .fail trivial

namespace BrowserPush

variable {store : SubscriptionStore}

theorem yields_deliver (request : PushRequest) :
    (deliver store request).Yields Exchange.IsNoAcceptance fun
      | .ok accepted => accepted = false
      | .error _ => True := by
  refine .ask fun answer noAcceptance => ?_
  cases answer with
  | ok _ => cases noAcceptance.1
  | error failure =>
      cases failure with
      | push text status =>
          refine yields_bind (fun _ => ?_) fun _ => trivial
          split
          · refine yields_bind (fun outcome => ?_) fun _ => trivial
            split
            · exact yields_bind (fun _ => .done rfl) fun _ => trivial
            · exact .done rfl
          · exact .done rfl
      | transport exchange => exact yields_bind (fun _ => .done rfl) fun _ => trivial
      | _ => exact .fail trivial

/-- As long as nobody takes a push, the count of accepted ones stays zero. -/
theorem yields_deliverAll (requestFor : PushSubscription → PushRequest)
    (subscriptions : List PushSubscription) :
    (deliverAll store requestFor 0 subscriptions).Yields Exchange.IsNoAcceptance fun
      | .ok delivered => ∀ count, delivered = some count → count = 0
      | .error _ => True := by
  induction subscriptions with
  | nil =>
      refine .done ?_
      rintro count ⟨⟩
      rfl
  | cons subscription rest ih =>
      refine .ask fun stop _ => ?_
      cases stop with
      | true =>
          refine .done ?_
          rintro count ⟨⟩
      | false =>
          refine (yields_deliver _).bind (fun accepted taken => ?_) fun _ _ => trivial
          have notTaken : accepted = false := taken
          rw [notTaken]
          exact ih

theorem unsent_send (payload : Payload) (config : Config) :
    (send store payload config).Yields Exchange.IsNoAcceptance Unsent := by
  refine yields_bind (fun userId => ?_) Unsent.fail
  refine yields_bind (fun message => ?_) Unsent.fail
  refine yields_bind (fun subscriptions => ?_) Unsent.fail
  split
  · exact unsent_log (.done rfl)
  · refine yields_bind (fun subscriber => ?_) Unsent.fail
    refine (yields_deliverAll _ _).bind (fun delivered none => ?_) fun failure _ => .fail failure
    cases delivered with
    | none => exact .done rfl
    | some count =>
        have noneDelivered : count = 0 := none count rfl
        refine unsent_log ?_
        rw [if_pos noneDelivered]
        exact .done rfl

end BrowserPush

/-! ## Dispatches -/

theorem Registry.unsent_failed {expected : Exchange → Prop} (payload : Payload)
    (failure : Failure) : (Registry.failed payload failure).Yields expected Unsent := by
  cases failure with
  | configuration channel reason => exact .fail trivial
  | _ => exact unsent_log (.done rfl)

/-- What the registry concludes from no success is no success. -/
theorem Registry.unsent_of_ends_conclude {payload : Payload} {given : Except Failure SendResult}
    {exchanges : List Exchange} {outcome : Except Failure SendResult} (unsent : Unsent given)
    (concluded : (conclude payload given).Ends exchanges outcome) : Unsent outcome := by
  cases given with
  | ok result =>
      obtain ⟨rfl, _⟩ := ends_reported concluded
      exact unsent
  | error failure =>
      have failed : (Registry.failed payload failure).Yields (fun _ => True) Unsent :=
        Registry.unsent_failed payload failure
      exact failed.of_ends concluded fun _ _ => trivial

/-- Through the channels of the standard deployment, nothing that nobody accepted is sent. -/
theorem Registry.unsent_of_ends_send {subscriptions : SubscriptionStore} {payload : Payload}
    {config : Config} {exchanges : List Exchange} {outcome : Except Failure SendResult}
    (ended : ((Registry.standard subscriptions).send payload config).Ends exchanges outcome)
    (unaccepted : ∀ exchange ∈ exchanges, exchange.IsNoAcceptance) : Unsent outcome := by
  cases course_of_ends_send ended with
  | senderless => exact Unsent.fail _
  | disabled => exact rfl
  | stopped => exact rfl
  | @carried channel sendPayload provided reporting given outcome found sends on endedSend
      concluded =>
      have unsent : (sendPayload payload config).Yields Exchange.IsNoAcceptance Unsent := by
        rcases send_of_find?_standard found sends with rfl | rfl | rfl | rfl
        · exact Voice.unsent_send payload config
        · exact Sms.unsent_send none payload config
        · exact BrowserPush.unsent_send payload config
        · exact Webhook.unsent_send payload config
      have unsentGiven : Unsent given :=
        unsent.of_ends endedSend fun exchange made => unaccepted exchange (by simp [made])
      exact unsent_of_ends_conclude unsentGiven concluded

namespace BuildOutcome

/-- A message that ends while it is built is a permanent failure. -/
theorem settled_of_ends {site : Site} {message sent : Message} {config : Config}
    {exchanges : List Exchange} {result : SendResult}
    (ended : (ofMessage site message config).Ends exchanges (.ok ⟨sent, .result result⟩)) :
    ∃ detail, result = SendResult.failedPermanently sent.id detail := by
  by_cases isAlert : message.type = .alert
  · dsimp only [ofMessage] at ended
    split at ended
    · rw [isAlert] at ended
      cases ofAlert_of_ends ended with
      | suppressed => exact ⟨suppressedDetail, rfl⟩
    · obtain ⟨_, _, _, _, _, last⟩ := ends_bind_ok.mp ended
      obtain ⟨_, same⟩ := ends_done.mp last
      cases same
      exact ⟨_, rfl⟩
  · have plain := (returns_ofMessage site config isAlert).of_ends ended
    cases plain with
    | refused detail => exact ⟨detail, rfl⟩

end BuildOutcome

namespace Dispatch

variable {site : Site} {config : Config} {message : Message} {exchanges : List Exchange}

/-- A result of the standard deployment that counts as a success stands for an acceptance during
the dispatch, or for a failure that holds an answer of success. -/
theorem accepted_of_isOk {subscriptions : SubscriptionStore} {result : SendResult}
    (ended : (send site (.standard subscriptions) config message).Ends exchanges (.ok result))
    (success : result.isOk) :
    ∃ exchange ∈ exchanges, exchange.isAcceptance ∨ exchange.isFalseAcceptance := by
  rcases outcome_of_ends_send ended with
    ⟨_, _, _, failure, _, _, _, impossible⟩ |
    ⟨_, built, _, sent, settled, _, _, endedBuild, same⟩ |
    ⟨sent, payload, isFirst, given, later, built, endedCarry⟩
  · cases impossible
  · -- Building a message settles it as a permanent failure only.
    cases same
    obtain ⟨detail, rfl⟩ := BuildOutcome.settled_of_ends endedBuild
    cases success
  · obtain ⟨opening, building, rfl, _, _⟩ := built
    by_cases unaccepted : ∀ exchange ∈ given, exchange.IsNoAcceptance
    · have unsent : result.isOk = false :=
        Registry.unsent_of_ends_send endedCarry unaccepted
      rw [unsent] at success
      cases success
    · obtain ⟨exchange, made, accepted⟩ :
          ∃ exchange ∈ given, ¬ exchange.IsNoAcceptance := by simpa using unaccepted
      exact ⟨exchange, by simp [made], Exchange.accepted_of_not_isNoAcceptance accepted⟩

end Dispatch

/-! ## A message that nobody accepted -/

namespace Sample

def hookId : DestinationId := .contactMethod "cm-hook" (by decide)

/-- The message about the alert that is meant for a webhook of the user. -/
def hooked : Message :=
  { alert "hooked" with
    destinationId := hookId
    destination := ⟨Webhook.type, [(Webhook.urlField, "https://hook.example.com/in")]⟩ }

/-- The dispatch of that message without the priority policy. -/
def hookedDispatch : Program SendResult :=
  Dispatch.send (.complete ⟨⟨[], [], 10⟩, deliveries⟩ .supplied)
    (.standard ⟨⟨[], [], 10⟩, "subscriptions"⟩) { config with priorityKey := "" } hooked

/-- Answers in which a post fails although the server answered with success. -/
def brokenAnswer : (request : Request) → request.Answer
  | .post _ => .error (.transport ⟨"HTTPError", "stream reset", some ⟨200, "", []⟩⟩)
  | request => answer request

end Sample

/-- A message is reported as sent, and recorded as the first delivery, although nobody accepted
it. -/
theorem sent_although_unaccepted :
    ∃ exchanges result after, Sample.tables.Through exchanges after ∧
      Sample.hookedDispatch.Ends exchanges (.ok result) ∧ result.isOk = true ∧
      (∀ exchange ∈ exchanges, exchange.isAcceptance = false) ∧
      (after.row? Sample.deliveries (deliveryKey 7 Sample.hookId)).isSome = true := by
  have passed : passes SendResult.isOk
      (Sample.hookedDispatch.run (answerWith Sample.brokenAnswer) Sample.tables).1 = true := by
    decide +kernel
  have unaccepted : (Sample.hookedDispatch.exchanges (answerWith Sample.brokenAnswer)
      Sample.tables).all (fun exchange => !exchange.isAcceptance) = true := by
    decide +kernel
  have recorded : ((Sample.hookedDispatch.run (answerWith Sample.brokenAnswer)
      Sample.tables).2.row? Sample.deliveries (deliveryKey 7 Sample.hookId)).isSome = true := by
    decide +kernel
  obtain ⟨result, ended, success⟩ := ends_of_passes passed
  refine ⟨_, result, _, through_run _ _ _, ended, success, fun exchange made => ?_, recorded⟩
  simpa using List.all_eq_true.mp unaccepted exchange made

/-- When nothing is broken, the message stands for the post that the server accepted. -/
theorem accepted_of_hooked :
    ∃ exchanges result, Sample.hookedDispatch.Ends exchanges (.ok result) ∧
      result.isOk = true ∧
      ∃ exchange ∈ exchanges, exchange.isAcceptance ∨ exchange.isFalseAcceptance := by
  have passed : passes SendResult.isOk
      (Sample.hookedDispatch.run (answerWith Sample.answer) Sample.tables).1 = true := by
    decide +kernel
  obtain ⟨result, ended, success⟩ := ends_of_passes passed
  exact ⟨_, result, ended, success, Dispatch.accepted_of_isOk ended success⟩

end AlertRelay
