import AlertRelay.Proofs.Acceptance
import AlertRelay.Proofs.EgressRouting

/-!
# Rejected sends

A message that a provider rejects with a status ends in a failure that the status decides.  There
are two ways of deciding: the telephony provider has one for calls and short messages, and the SMS
gateway and webhooks share the other.  They agree except about requests that timed out on the side
of the provider and about statuses beyond those of HTTP.
-/

namespace AlertRelay

open Program

/-- Who can reject a message with a status. -/
inductive Backend where
  | voice
  | telephonySms
  | gatewaySms
  | webhook
deriving DecidableEq

namespace Backend

/-- The backend belongs to the telephony provider. -/
def isTelephony : Backend → Bool
  | voice => true
  | telephonySms => true
  | gatewaySms => false
  | webhook => false

/-- The state in which a message ends that the backend rejected with the status. -/
def verdict (backend : Backend) (status : Int) : SendState :=
  if backend.isTelephony then
    if status = 429 ∨ 500 ≤ status then .failedTemporarily else .failedPermanently
  else if status = 429 ∨ status = 408 ∨ (500 ≤ status ∧ status < 600) then .failedTemporarily
  else .failedPermanently

theorem verdict_mem (backend : Backend) (status : Int) :
    backend.verdict status ∈ [.failedTemporarily, .failedPermanently] := by
  rw [verdict]
  repeat' split
  all_goals decide

/-- Two backends agree about a status when they decide in the same way, or when the status is one
that both ways treat alike. -/
theorem verdict_eq_iff (first second : Backend) (status : Int) :
    first.verdict status = second.verdict status ↔
      first.isTelephony = second.isTelephony ∨ (status ≠ 408 ∧ status < 600) := by
  cases kindFirst : first.isTelephony <;> cases kindSecond : second.isTelephony <;>
    simp only [verdict, kindFirst, kindSecond] <;> grind

end Backend

/-- The backend and the status of a rejection: the telephony provider fails a call, and the other
backends answer with a status other than of success. -/
def Exchange.rejection? : Exchange → Option (Backend × Int)
  | ⟨.telephone call, .error (.telephony refusal)⟩ =>
      let backend := match call.content with
        | .spoken _ => Backend.voice
        | .written _ => Backend.telephonySms
      refusal.status.map fun status => (backend, status)
  | ⟨.post post, .ok response⟩ =>
      let backend := match post.content with
        | .form _ => Backend.gatewaySms
        | .json _ => Backend.webhook
      if isSuccessStatus response.status then none else some (backend, response.status)
  | _ => none

/-! ## The only outbound exchange -/

section Single

variable {α β : Type} {exchanges : List Exchange} {exchange : Exchange}

theorem outbound_of_rejection {rejection : Backend × Int}
    (rejected : exchange.rejection? = some rejection) : exchange.request.Outbound := by
  obtain ⟨request, answer⟩ := exchange
  cases request <;> trivial

/-- A program that has made an exchange has passed the check at its start. -/
theorem ends_check_of_mem {given : Except Failure α} {next : α → Program β}
    {outcome : Except Failure β} (ended : ((ofExcept given).bind next).Ends exchanges outcome)
    (made : exchange ∈ exchanges) :
    ∃ value, given = .ok value ∧ (next value).Ends exchanges outcome := by
  cases given with
  | ok value => exact ⟨value, rfl, ended⟩
  | error failure =>
      obtain ⟨rfl, _⟩ := ends_fail.mp ended
      cases made

/-- When a program starts with its only outbound request, that request has every outbound
exchange. -/
theorem ends_ask_of_single {request : Request} {next : request.Answer → Program α}
    {outcome : Except Failure α} (ended : (ask request next).Ends exchanges outcome)
    (leaves : request.Outbound) (single : (outbound exchanges).length ≤ 1)
    (made : exchange ∈ exchanges) (outside : exchange.request.Outbound) :
    ∃ answer later, exchange = ⟨request, answer⟩ ∧ (next answer).Ends later outcome := by
  obtain ⟨answer, later, rfl, endedLater⟩ := ends_ask.mp ended
  refine ⟨answer, later, ?_, endedLater⟩
  rcases List.mem_cons.mp made with rfl | after
  · rfl
  · rw [outbound_cons_of_outbound leaves, List.length_cons] at single
    have none : outbound later = [] := List.eq_nil_of_length_eq_zero (by omega)
    have left : exchange.request ∈ outbound later := by
      simpa [outbound, outside] using ⟨exchange, after, rfl⟩
    rw [none] at left
    cases left

end Single

/-! ## Channels -/

/-- The outcome is a result in the state that the backend and the status decide. -/
def Decided (backend : Backend) (status : Int) (outcome : Except Failure SendResult) : Prop :=
  ∃ result, outcome = .ok result ∧ result.state = backend.verdict status

section Channels

variable {exchanges : List Exchange} {exchange : Exchange} {backend : Backend} {status : Int}
  {outcome : Except Failure SendResult}

theorem Telephony.state_refused (messageId : String) {refusal : TelephonyFailure}
    (given : refusal.status = some status) (telephony : backend.isTelephony = true) :
    (refused messageId refusal).state = backend.verdict status := by
  simp only [refused, Backend.verdict, given, telephony, Option.getD_some, if_true]
  split <;> rfl

/-- A status other than of success is worth another attempt when it is one of throttling, of a
timeout or of a fault of the server. -/
theorem Outcome.status_ofHttpStatus (detail : String) (retryAfter : Option String)
    (rejected : isSuccessStatus status = false) :
    (ofHttpStatus status detail retryAfter).status =
      if status = 429 ∨ status = 408 ∨ (500 ≤ status ∧ status < 600) then .transientError
      else .permanentError := by
  have unaccepted := not_success_of_rejected rejected
  dsimp only [ofHttpStatus]
  rw [if_neg unaccepted]
  repeat' split
  all_goals first | rfl | omega

theorem yields_resultOf {messageId detail : String} {retryAfter : Option String}
    (rejected : isSuccessStatus status = false) (http : backend.isTelephony = false) :
    (Channel.resultOf messageId (Outcome.ofHttpStatus status detail retryAfter)).Yields
      (fun _ => True) (Decided backend status) := by
  have conclusion := Outcome.status_ofHttpStatus detail retryAfter rejected
  refine yields_ofExcept ?_
  dsimp only [Decided, SendResult.ofOutcome]
  rw [conclusion]
  simp only [Backend.verdict, http, Bool.false_eq_true, if_false]
  by_cases transient : status = 429 ∨ status = 408 ∨ (500 ≤ status ∧ status < 600)
  · rw [if_pos transient, if_pos transient]
    exact ⟨_, rfl, rfl⟩
  · rw [if_neg transient, if_neg transient]
    exact ⟨_, rfl, rfl⟩

theorem http_of_rejection {post : HttpPost} {response : HttpResponse}
    (rejected : Exchange.rejection? ⟨.post post, .ok response⟩ = some (backend, status)) :
    response.status = status ∧ isSuccessStatus status = false ∧ backend.isTelephony = false := by
  dsimp only [Exchange.rejection?] at rejected
  split at rejected
  · cases rejected
  · rename_i unaccepted
    cases rejected
    refine ⟨rfl, by simpa using unaccepted, ?_⟩
    split <;> rfl

theorem Telephony.decided_of_ends_deliver {kind messageId : String} {call : TelephonyCall}
    (ended : (deliver kind messageId call).Ends exchanges outcome) (made : exchange ∈ exchanges)
    (rejected : exchange.rejection? = some (backend, status)) : Decided backend status outcome := by
  have sends : (deliver kind messageId call).Sends fun requests => requests.length ≤ 1 :=
    sends_deliver (by simp)
  obtain ⟨answer, later, rfl, endedLater⟩ :=
    ends_ask_of_single ended trivial (sends _ _ ended) made (outbound_of_rejection rejected)
  cases answer with
  | ok id => cases rejected
  | error failure =>
      cases failure with
      | telephony refusal =>
          obtain ⟨rfl, _⟩ := Registry.ends_reported endedLater
          obtain ⟨_, given, same⟩ := Option.map_eq_some_iff.mp rejected
          cases same
          refine ⟨_, rfl, state_refused messageId given ?_⟩
          split <;> rfl
      | _ => cases rejected

theorem Voice.decided_of_ends_send {payload : Payload} {config : Config}
    (ended : (send payload config).Ends exchanges outcome) (made : exchange ∈ exchanges)
    (rejected : exchange.rejection? = some (backend, status)) : Decided backend status outcome := by
  obtain ⟨_, _, endedCheck⟩ := ends_check_of_mem ended made
  obtain ⟨_, _, endedCall⟩ := ends_check_of_mem endedCheck made
  exact Telephony.decided_of_ends_deliver endedCall made rejected

theorem Sms.decided_of_ends_sendThroughGateway {gateway : Gateway}
    {messageId toNumber text : String}
    (ended : (sendThroughGateway gateway messageId toNumber text).Ends exchanges outcome)
    (made : exchange ∈ exchanges) (rejected : exchange.rejection? = some (backend, status)) :
    Decided backend status outcome := by
  have sends : (sendThroughGateway gateway messageId toNumber text).Sends
      fun requests => requests.length ≤ 1 :=
    sends_sendThroughGateway (by simp)
  obtain ⟨answer, later, rfl, endedLater⟩ :=
    ends_ask_of_single ended trivial (sends _ _ ended) made (outbound_of_rejection rejected)
  cases answer with
  | error failure => cases rejected
  | ok response =>
      obtain ⟨rfl, unaccepted, http⟩ := http_of_rejection rejected
      refine Yields.of_ends ?_ endedLater fun _ _ => trivial
      have refused := not_success_of_rejected unaccepted
      -- The connection may be closed before the answer is looked at.
      split
      · simp only [ofExcept_ok_bind, if_neg refused]
        exact .ask fun _ _ => .ask fun _ _ => yields_resultOf unaccepted http
      · refine .ask fun _ _ => ?_
        simp only [ofExcept_ok_bind, if_neg refused]
        exact .ask fun _ _ => .ask fun _ _ => yields_resultOf unaccepted http

theorem Sms.decided_of_ends_send {given : Option Gateway} {payload : Payload} {config : Config}
    (ended : (send given payload config).Ends exchanges outcome) (made : exchange ∈ exchanges)
    (rejected : exchange.rejection? = some (backend, status)) : Decided backend status outcome := by
  obtain ⟨text, _, endedText⟩ := ends_check_of_mem ended made
  dsimp only at endedText
  split at endedText
  · split at endedText
    · obtain ⟨rfl, _⟩ := ends_fail.mp endedText
      cases made
    · exact decided_of_ends_sendThroughGateway endedText made rejected
  · obtain ⟨_, _, endedCall⟩ := ends_check_of_mem endedText made
    exact Telephony.decided_of_ends_deliver endedCall made rejected

theorem Webhook.decided_of_ends_send {payload : Payload} {config : Config}
    (ended : (send payload config).Ends exchanges outcome) (made : exchange ∈ exchanges)
    (rejected : exchange.rejection? = some (backend, status)) : Decided backend status outcome := by
  have sends : (send payload config).Sends fun requests => requests.length ≤ 1 :=
    sends_send fun _ _ _ => by simp
  obtain ⟨answer, later, rfl, endedLater⟩ :=
    ends_ask_of_single ended trivial (sends _ _ ended) made (outbound_of_rejection rejected)
  cases answer with
  | error failure => cases rejected
  | ok response =>
      obtain ⟨rfl, unaccepted, http⟩ := http_of_rejection rejected
      dsimp only [answered] at endedLater
      rw [if_neg (not_success_of_rejected unaccepted)] at endedLater
      refine Yields.of_ends ?_ endedLater fun _ _ => trivial
      exact .ask fun _ _ => yields_resultOf unaccepted http

/-- Nobody rejects a push with a status: the push service fails in ways of its own. -/
theorem BrowserPush.rejection?_eq_none {store : SubscriptionStore} {payload : Payload}
    {config : Config} (ended : (send store payload config).Ends exchanges outcome)
    (made : exchange ∈ exchanges) : exchange.rejection? = none := by
  have unrejected : (send store payload config).Makes
      fun request => ∀ answer, Exchange.rejection? ⟨request, answer⟩ = none := by
    refine makes_send (fun request routine answer => ?_) (fun _ _ => rfl) (fun _ _ => rfl)
      (fun _ _ => rfl) payload config
    cases request <;> first | rfl | exact routine.elim
  exact unrejected.of_mem ended made exchange.answer

end Channels

/-! ## The registry -/

namespace Registry

section Standard

variable {subscriptions : SubscriptionStore} {payload : Payload} {config : Config}
  {exchanges : List Exchange} {exchange : Exchange} {backend : Backend} {status : Int}
  {outcome : Except Failure SendResult}

theorem decided_of_find?_standard {channel : Channel}
    {sendPayload : Payload → Config → Program SendResult}
    (found : (standard subscriptions).find? payload.destination.kind = some channel)
    (sends : channel.send = some sendPayload)
    (ended : (sendPayload payload config).Ends exchanges outcome) (made : exchange ∈ exchanges)
    (rejected : exchange.rejection? = some (backend, status)) : Decided backend status outcome := by
  rcases send_of_find?_standard found sends with rfl | rfl | rfl | rfl
  · exact Voice.decided_of_ends_send ended made rejected
  · exact Sms.decided_of_ends_send ended made rejected
  · rw [BrowserPush.rejection?_eq_none ended made] at rejected
    cases rejected
  · exact Webhook.decided_of_ends_send ended made rejected

/-- A payload that a backend rejected ends in the state that the backend and the status decide. -/
theorem decided_of_ends_send
    (ended : ((standard subscriptions).send payload config).Ends exchanges outcome)
    (made : exchange ∈ exchanges) (rejected : exchange.rejection? = some (backend, status)) :
    Decided backend status outcome := by
  have outside : exchange.request.Outbound := outbound_of_rejection rejected
  cases course_of_ends_send ended with
  | senderless => cases made
  | disabled _ _ _ logged => exact ((logged exchange made).quiet.not_outbound outside).elim
  | stopped logged =>
      rcases List.mem_cons.mp made with rfl | reported
      · exact outside.elim
      · exact ((logged exchange reported).quiet.not_outbound outside).elim
  | carried found sends _ endedSend concluded =>
      rcases List.mem_cons.mp made with rfl | later
      · exact outside.elim
      rcases List.mem_append.mp later with provided | reported
      · obtain ⟨result, rfl, state⟩ :=
          decided_of_find?_standard found sends endedSend provided rejected
        obtain ⟨rfl, _⟩ := ends_reported concluded
        exact ⟨result, rfl, state⟩
      · exact ((staysInside_conclude _ _).of_mem concluded reported outside).elim

end Standard

/-- Two payloads that were rejected with the same status, whoever rejected them, both fail.  They
end in the same state exactly when the same way of deciding applies to them or when the status is
neither the one of a timed out request nor beyond those of HTTP. -/
theorem sameState_iff {subscriptions : SubscriptionStore} {first second : Payload}
    {firstConfig secondConfig : Config} {firstExchanges secondExchanges : List Exchange}
    {firstOutcome secondOutcome : Except Failure SendResult} {one other : Exchange}
    {firstBackend secondBackend : Backend} {status : Int}
    (firstEnded : ((standard subscriptions).send first firstConfig).Ends firstExchanges
      firstOutcome)
    (firstMade : one ∈ firstExchanges)
    (firstRejected : one.rejection? = some (firstBackend, status))
    (secondEnded : ((standard subscriptions).send second secondConfig).Ends secondExchanges
      secondOutcome)
    (secondMade : other ∈ secondExchanges)
    (secondRejected : other.rejection? = some (secondBackend, status)) :
    ∃ firstResult secondResult,
      firstOutcome = .ok firstResult ∧ secondOutcome = .ok secondResult ∧
      firstResult.state ∈ [.failedTemporarily, .failedPermanently] ∧
      secondResult.state ∈ [.failedTemporarily, .failedPermanently] ∧
      (firstResult.state = secondResult.state ↔
        firstBackend.isTelephony = secondBackend.isTelephony ∨ (status ≠ 408 ∧ status < 600)) := by
  obtain ⟨firstResult, rfl, firstState⟩ := decided_of_ends_send firstEnded firstMade firstRejected
  obtain ⟨secondResult, rfl, secondState⟩ :=
    decided_of_ends_send secondEnded secondMade secondRejected
  refine ⟨firstResult, secondResult, rfl, rfl, ?_, ?_, ?_⟩
  · rw [firstState]
    exact firstBackend.verdict_mem status
  · rw [secondState]
    exact secondBackend.verdict_mem status
  · rw [firstState, secondState]
    exact Backend.verdict_eq_iff firstBackend secondBackend status

end Registry

/-! ## A short message by either way -/

namespace Sample

/-- A test that is meant for the user's short messages. -/
def shortTest : Payload := ⟨"test", inbox, some "u", .test⟩

/-- Answers in which every call and every post is rejected with the status. -/
def rejectAll (status : Int) : (request : Request) → request.Answer
  | .telephone _ => .error (.telephony ⟨some status, none, "rejected"⟩)
  | .post _ => .ok ⟨status, "rejected", []⟩
  | request => answer request

/-- The test on its way when everything is rejected with the status. -/
def rejectedTest (config : Config) (status : Int) : List Exchange :=
  ((Registry.ofProviders providers).send shortTest config).exchanges
    (answerWith (rejectAll status)) tables

/-- Whether the backend rejects the test. -/
def isRejectedBy (backend : Backend) (config : Config) (status : Int) : Bool :=
  (rejectedTest config status).any fun exchange => exchange.rejection? == some (backend, status)

theorem exists_rejection {backend : Backend} {config : Config} {status : Int}
    (rejected : isRejectedBy backend config status = true) :
    ∃ outcome, ((Registry.ofProviders providers).send shortTest config).Ends
        (rejectedTest config status) outcome ∧
      ∃ exchange ∈ rejectedTest config status, exchange.rejection? = some (backend, status) := by
  refine ⟨_, ends_run _ _ _, ?_⟩
  simpa [isRejectedBy] using rejected

end Sample

/-- The telephony provider ends a short message for good for the very status with which the gateway
would have it sent again. -/
theorem lost_without_gateway :
    ∃ direct relayed one other directResult relayedResult,
      ((Registry.ofProviders Sample.providers).send Sample.shortTest Sample.config).Ends direct
        (.ok directResult) ∧
      one ∈ direct ∧ one.rejection? = some (.telephonySms, 408) ∧
      ((Registry.ofProviders Sample.providers).send Sample.shortTest Sample.gatewayConfig).Ends
        relayed (.ok relayedResult) ∧
      other ∈ relayed ∧ other.rejection? = some (.gatewaySms, 408) ∧
      directResult.state = .failedPermanently ∧ relayedResult.state = .failedTemporarily := by
  have direct : Sample.isRejectedBy .telephonySms Sample.config 408 = true := by decide +kernel
  have relayed : Sample.isRejectedBy .gatewaySms Sample.gatewayConfig 408 = true := by
    decide +kernel
  obtain ⟨_, directEnded, one, oneMade, oneRejected⟩ := Sample.exists_rejection direct
  obtain ⟨_, relayedEnded, other, otherMade, otherRejected⟩ := Sample.exists_rejection relayed
  obtain ⟨directResult, rfl, directState⟩ :=
    Registry.decided_of_ends_send directEnded oneMade oneRejected
  obtain ⟨relayedResult, rfl, relayedState⟩ :=
    Registry.decided_of_ends_send relayedEnded otherMade otherRejected
  exact ⟨_, _, one, other, directResult, relayedResult, directEnded, oneMade, oneRejected,
    relayedEnded, otherMade, otherRejected, directState, relayedState⟩

/-- A status of an overloaded server leads to another attempt by either way. -/
theorem sent_again_by_either_way :
    ∃ direct relayed directResult relayedResult,
      ((Registry.ofProviders Sample.providers).send Sample.shortTest Sample.config).Ends direct
        (.ok directResult) ∧
      ((Registry.ofProviders Sample.providers).send Sample.shortTest Sample.gatewayConfig).Ends
        relayed (.ok relayedResult) ∧
      directResult.state = relayedResult.state := by
  have direct : Sample.isRejectedBy .telephonySms Sample.config 503 = true := by decide +kernel
  have relayed : Sample.isRejectedBy .gatewaySms Sample.gatewayConfig 503 = true := by
    decide +kernel
  obtain ⟨_, directEnded, one, oneMade, oneRejected⟩ := Sample.exists_rejection direct
  obtain ⟨_, relayedEnded, other, otherMade, otherRejected⟩ := Sample.exists_rejection relayed
  obtain ⟨directResult, relayedResult, rfl, rfl, _, _, same⟩ :=
    Registry.sameState_iff directEnded oneMade oneRejected relayedEnded otherMade otherRejected
  exact ⟨_, _, directResult, relayedResult, directEnded, relayedEnded, same.mpr (.inr (by decide))⟩

end AlertRelay
