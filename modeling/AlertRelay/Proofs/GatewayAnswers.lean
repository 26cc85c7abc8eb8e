import AlertRelay.Proofs.Acceptance
import AlertRelay.Proofs.ChannelRequests
import AlertRelay.Proofs.RejectedSends

/-!
# Answers of the SMS gateway

The status of the gateway's answer alone decides whether a short message counts as sent.  The body
matters for the id of a sent message only: it is the first text that is not blank among the places
where the gateway puts ids, and any body without such a text gives none.
-/

namespace AlertRelay

open Program

/-! ## Ids in bodies -/

/-- The value at the end of a path of member names. -/
def Json.at? : List String → Json → Option Json
  | [], data => some data
  | name :: rest, data => (data.member? name).bind (Json.at? rest)

/-- The text of a value without the blanks around it, unless nothing else is there. -/
def Json.stripped? : Json → Option String
  | .text value => if trim value = "" then none else some (trim value)
  | _ => none

namespace Gateway

/-- The places of ids, in the order in which they count. -/
def idPlaces : List (List String) :=
  [["messageId"], ["response", "msgId"], ["response", "messageId"]]

/-- The id in a body: the first text that is not blank among the places of ids. -/
def idOf? (body : String) : Option String :=
  match Json.parse body with
  | .ok data => idPlaces.findSome? fun place => (data.at? place).bind Json.stripped?
  | .error _ => none

theorem textMember?_eq (data : Json) (name : String) :
    textMember? data name = (data.member? name).bind Json.stripped? := by
  rw [textMember?]
  cases data.member? name with
  | none => rfl
  | some value =>
      cases value with
      | text text =>
          by_cases blank : trim text = "" <;> simp [Json.stripped?, blank]
      | _ => rfl

theorem messageIdIn?_eq (data : Json) :
    messageIdIn? data =
      idPlaces.findSome? fun place => (data.at? place).bind Json.stripped? := by
  have top : (data.at? ["messageId"]).bind Json.stripped? = textMember? data "messageId" := by
    rw [textMember?_eq, Json.at?]
    cases data.member? "messageId" <;> rfl
  have inner (name : String) : (data.at? ["response", name]).bind Json.stripped? =
      (data.member? "response").bind fun response => textMember? response name := by
    rw [Json.at?]
    cases data.member? "response" with
    | none => rfl
    | some response =>
        rw [Option.bind_some, Option.bind_some, textMember?_eq, Json.at?]
        cases response.member? name <;> rfl
  rw [messageIdIn?, idPlaces, List.findSome?_cons, List.findSome?_cons, List.findSome?_cons,
    List.findSome?_nil, top, inner, inner]
  cases textMember? data "messageId" with
  | some id => rfl
  | none =>
      cases data.member? "response" with
      | none => rfl
      | some response =>
          simp only [Option.bind_some]
          cases textMember? response "msgId" with
          | some id => rfl
          | none => cases textMember? response "messageId" <;> rfl

theorem messageId_eq {body : String}
    (shallow : ∀ container, Json.parse body ≠ .error (.tooDeep container)) :
    messageId body = .ok ((idOf? body).getD "") := by
  rw [messageId, idOf?]
  cases parsed : Json.parse body with
  | ok data => simp only [messageIdIn?_eq]
  | error fault =>
      cases fault with
      | tooDeep container => exact (shallow container parsed).elim
      | _ => rfl

theorem idOf?_ne_empty {body : String} : idOf? body ≠ some "" := by
  rw [idOf?]
  cases Json.parse body with
  | error => simp
  | ok data =>
      intro found
      obtain ⟨place, _, stripped⟩ := List.exists_of_findSome?_eq_some found
      obtain ⟨value, _, empty⟩ := Option.bind_eq_some_iff.mp stripped
      cases value with
      | text text =>
          by_cases blank : trim text = "" <;> simp [Json.stripped?, blank] at empty
      | _ => cases empty

/-! ## Sending -/

section Sends

variable {gateway : Gateway} {toNumber text : String} {exchanges : List Exchange}

theorem answer_of_ends_post {request : HttpPost} {result : Except Failure HttpResponse}
    (ended : (gateway.post request).Ends exchanges result) :
    ∃ later, exchanges = ⟨.post request, result⟩ :: later ∧
      ∀ exchange ∈ later, exchange.request.Routine := by
  obtain ⟨answer, later, rfl, rest⟩ := ends_ask.mp ended
  split at rest
  · obtain ⟨rfl, rfl⟩ := ends_ofExcept.mp rest
    exact ⟨[], rfl, by simp⟩
  · obtain ⟨_, last, rfl, closed⟩ := ends_ask.mp rest
    obtain ⟨rfl, rfl⟩ := ends_ofExcept.mp closed
    exact ⟨_, rfl, by simp [Request.Routine]⟩

/-- What the gateway comes to: the failure of the post, or what its answer stands for. -/
inductive SendCourse (gateway : Gateway) (toNumber text : String) :
    List Exchange → Except Failure String → Prop
  | unanswered {later : List Exchange} (failure : Failure)
      (routine : ∀ exchange ∈ later, exchange.request.Routine) :
      SendCourse gateway toNumber text
        (⟨.post (gateway.request toNumber text), .error failure⟩ :: later) (.error failure)
  | taken {later : List Exchange} {response : HttpResponse}
      (routine : ∀ exchange ∈ later, exchange.request.Routine)
      (success : 200 ≤ response.status ∧ response.status < 300) :
      SendCourse gateway toNumber text
        (⟨.post (gateway.request toNumber text), .ok response⟩ :: later)
        (messageId response.text)
  | refused {later : List Exchange} {response : HttpResponse}
      (routine : ∀ exchange ∈ later, exchange.request.Routine)
      (failing : ¬ (200 ≤ response.status ∧ response.status < 300)) (body : String) :
      SendCourse gateway toNumber text
        (⟨.post (gateway.request toNumber text), .ok response⟩ :: later)
        (.error (.gateway response.status body))

theorem course_of_ends_send {result : Except Failure String}
    (ended : (gateway.send toNumber text).Ends exchanges result) :
    SendCourse gateway toNumber text exchanges result := by
  rcases ends_bind.mp ended with
    ⟨failure, failed, rfl⟩ | ⟨first, second, response, rfl, posted, rest⟩
  · obtain ⟨later, rfl, routine⟩ := answer_of_ends_post failed
    exact .unanswered failure routine
  obtain ⟨closing, rfl, routine⟩ := answer_of_ends_post posted
  have inOrder {later : List Exchange} (logged : ∀ exchange ∈ later, exchange.request.Routine) :
      ∀ exchange ∈ closing ++ later, exchange.request.Routine :=
    List.forall_mem_append.mpr ⟨routine, logged⟩
  split at rest
  · rename_i success
    rcases ends_bind.mp rest with ⟨failure, unread, rfl⟩ | ⟨_, logs, id, rfl, read, reported⟩
    · obtain ⟨rfl, same⟩ := ends_ofExcept.mp unread
      rw [same]
      exact .taken (inOrder (by simp)) success
    · obtain ⟨rfl, same⟩ := ends_ofExcept.mp read
      have passed : result = .ok id ∧ ∀ exchange ∈ logs, exchange.request.Routine := by
        split at reported
        · obtain ⟨last, rfl, passed⟩ := ends_log_bind.mp reported
          obtain ⟨rfl, rfl⟩ := ends_done.mp passed
          exact ⟨rfl, by simp [Request.Routine]⟩
        · obtain ⟨rfl, rfl⟩ := ends_done.mp reported
          exact ⟨rfl, by simp⟩
      rw [passed.1, same]
      exact .taken (inOrder passed.2) success
  · rename_i failing
    obtain ⟨last, rfl, failed⟩ := ends_log_bind.mp rest
    obtain ⟨rfl, rfl⟩ := ends_fail.mp failed
    exact .refused (inOrder (by simp [Request.Routine])) failing _

end Sends

end Gateway

/-! ## Short messages -/

theorem SendResult.exists_ofOutcome (messageId : String) {outcome : Outcome}
    (failed : outcome.isSuccess = false) :
    ∃ result, ofOutcome messageId outcome = .valid result ∧ result.state ≠ .sent := by
  obtain ⟨status, message, data, code, pause⟩ := outcome
  cases status with
  | success => cases failed
  | transientError => exact ⟨_, rfl, by simp [failedTemporarily]⟩
  | _ => exact ⟨_, rfl, by simp [failedPermanently]⟩

theorem answer_of_mem_posted {request other : HttpPost} {answer : Except Failure HttpResponse}
    {later : List Exchange} {response : HttpResponse}
    (routine : ∀ exchange ∈ later, exchange.request.Routine)
    (made : ⟨.post other, .ok response⟩ ∈ (⟨.post request, answer⟩ : Exchange) :: later) :
    answer = .ok response := by
  rcases List.mem_cons.mp made with same | inLater
  · cases same
    rfl
  · exact (routine _ inLater).elim

namespace Sms

variable {gateway : Gateway} {id toNumber text : String} {exchanges : List Exchange}
  {response : HttpResponse} {outcome : Except Failure SendResult}

/-- What is reported about a short message for which the gateway gave the answer. -/
structure Reported (response : HttpResponse) (result : SendResult) : Prop where
  state : result.state = .sent ↔ 200 ≤ response.status ∧ response.status < 300
  externalId : result.state = .sent → result.externalId = Gateway.idOf? response.text

theorem reported_taken (messageId : String)
    (success : 200 ≤ response.status ∧ response.status < 300) :
    Reported response (.sent messageId (some ((Gateway.idOf? response.text).getD ""))) where
  state := iff_of_true rfl success
  externalId _ := by
    cases found : Gateway.idOf? response.text with
    | none => rfl
    | some id =>
        have nonempty : id ≠ "" := by
          rintro rfl
          exact Gateway.idOf?_ne_empty found
        simp [SendResult.sent, nonempty]

theorem outcome_of_concluded_ok {given : String}
    (ended : (concluded id (.ok given)).Ends exchanges outcome) :
    outcome = .ok (.sent id (some given)) := by
  dsimp only [concluded] at ended
  split at ended
  · obtain ⟨_, _, reported⟩ := ends_log_bind.mp ended
    exact (ends_done.mp reported).2
  · exact (ends_done.mp ended).2

theorem outcome_of_concluded_refused {status : Int} {body : String}
    (failing : ¬ (200 ≤ status ∧ status < 300))
    (ended : (concluded id (.error (.gateway status body))).Ends exchanges outcome) :
    ∃ result, outcome = .ok result ∧ result.state ≠ .sent := by
  obtain ⟨_, _, reported⟩ := ends_log_bind.mp ended
  have failed : (Outcome.ofHttpStatus status (Failure.gateway status body).text none).isSuccess =
      false := by
    rw [Outcome.isSuccess_ofHttpStatus]
    exact decide_eq_false failing
  obtain ⟨result, valid, unsent⟩ := SendResult.exists_ofOutcome id failed
  have same := (ends_ofExcept.mp reported).2
  rw [valid] at same
  exact ⟨result, same, unsent⟩

theorem reported_of_ends_sendThroughGateway {request : HttpPost}
    (answered : ⟨.post request, .ok response⟩ ∈ exchanges)
    (shallow : ∀ container, Json.parse response.text ≠ .error (.tooDeep container))
    (ended : (sendThroughGateway gateway id toNumber text).Ends exchanges outcome) :
    ∃ result, outcome = .ok result ∧ Reported response result := by
  rw [sendThroughGateway_eq] at ended
  rcases ends_bind.mp ended with ⟨_, noEnd, _⟩ | ⟨first, second, sent, rfl, attempted, rest⟩
  · simp at noEnd
  obtain ⟨_, endedSend, same⟩ := ends_attempt.mp attempted
  obtain rfl := Except.ok.inj same
  have after (exchange : Exchange) (made : exchange ∈ second) : exchange.request.Routine :=
    (makes_concluded (fun _ routine => routine) id sent).of_mem rest made
  have inOrder {later : List Exchange} (routine : ∀ exchange ∈ later, exchange.request.Routine) :
      ∀ exchange ∈ later ++ second, exchange.request.Routine :=
    List.forall_mem_append.mpr ⟨routine, after⟩
  -- There is one post only, so its answer is the one that is given.
  cases Gateway.course_of_ends_send endedSend with
  | unanswered failure routine =>
      cases answer_of_mem_posted (inOrder routine) answered
  | taken routine success =>
      cases answer_of_mem_posted (inOrder routine) answered
      rw [Gateway.messageId_eq shallow] at rest
      exact ⟨_, outcome_of_concluded_ok rest, reported_taken id success⟩
  | refused routine failing body =>
      cases answer_of_mem_posted (inOrder routine) answered
      obtain ⟨result, same, unsent⟩ := outcome_of_concluded_refused failing rest
      exact ⟨result, same, iff_of_false unsent failing, fun sent => (unsent sent).elim⟩

/-- A short message that the gateway answers is reported by the status of the answer alone, and its
id is the one in the body of the answer. -/
theorem reported_of_ends_send {given : Option Gateway} {payload : Payload} {config : Config}
    {request : HttpPost} (enabled : config.gateway.enabled = true)
    (configured : config.gateway.source ≠ "")
    (answered : ⟨.post request, .ok response⟩ ∈ exchanges)
    (shallow : ∀ container, Json.parse response.text ≠ .error (.tooDeep container))
    (ended : (send given payload config).Ends exchanges outcome) :
    ∃ result, outcome = .ok result ∧ Reported response result := by
  rcases ends_bind.mp ended with ⟨_, wordless, _⟩ | ⟨_, second, text, rfl, worded, rest⟩
  · obtain ⟨rfl, _⟩ := ends_ofExcept.mp wordless
    cases answered
  · obtain ⟨rfl, _⟩ := ends_ofExcept.mp worded
    dsimp only at rest
    rw [if_pos enabled, if_neg configured] at rest
    exact reported_of_ends_sendThroughGateway answered shallow rest

end Sms

/-- The gateway's answer to a short message that it took, with a blank id before another one. -/
def Sample.takenAnswer : HttpResponse :=
  ⟨202, "\x7b\"response\": \x7b\"msgId\": \" \", \"messageId\": \" g-1 \"\x7d\x7d", []⟩

def Sample.answerTaken (request : Request) (state : Unit) : request.Answer × Unit :=
  match request with
  | .post _ => (.ok takenAnswer, state)
  | request => (answer request, state)

/-- A short message that the gateway took is sent, with the first id that is not blank. -/
theorem Sms.reported_of_taken :
    ∃ request exchanges result, Sample.gatewayConfig.gateway.enabled = true ∧
      Sample.gatewayConfig.gateway.source ≠ "" ∧
      ⟨.post request, .ok Sample.takenAnswer⟩ ∈ exchanges ∧
      (∀ container, Json.parse Sample.takenAnswer.text ≠ .error (.tooDeep container)) ∧
      (send none Sample.shortTest Sample.gatewayConfig).Ends exchanges (.ok result) ∧
      Reported Sample.takenAnswer result ∧
      result.state = .sent ∧ result.externalId = some "g-1" := by
  let program := send none Sample.shortTest Sample.gatewayConfig
  have shallow (container : String) :
      Json.parse Sample.takenAnswer.text ≠ .error (.tooDeep container) := by
    have read : (Json.parse Sample.takenAnswer.text).isOk = true := by
      decide +kernel
    intro tooDeep
    rw [tooDeep] at read
    cases read
  have given : Gateway.idOf? Sample.takenAnswer.text = some "g-1" := by
    decide +kernel
  have ended := ends_run Sample.answerTaken program ()
  obtain ⟨request, answered⟩ : ∃ request, ⟨.post request, .ok Sample.takenAnswer⟩ ∈
      program.exchanges Sample.answerTaken () :=
    ⟨_, .head _⟩
  obtain ⟨result, same, reported⟩ := reported_of_ends_send rfl (by decide) answered shallow ended
  have sent : result.state = .sent := reported.state.mpr (by decide)
  rw [same] at ended
  exact ⟨request, _, result, rfl, by decide, answered, shallow, ended, reported, sent,
    (reported.externalId sent).trans given⟩

end AlertRelay
