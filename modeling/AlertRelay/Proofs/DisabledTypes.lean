import AlertRelay.Proofs.DispatchStages

/-!
# Disabled destination types

The registry answers for every type of destination whether it can be used.  The channels of this
library never give the failure by which the registry refuses a disabled type, so that failure tells
that the type was disabled.
-/

namespace AlertRelay

open Program

/-- A character of a text is one of every longer text. -/
theorem mem_toList_append {character : Char} {first : String} (held : character ∈ first.toList)
    (rest : String) : character ∈ (first ++ rest).toList := by
  rw [String.toList_append]
  exact List.mem_append_left _ held

namespace SendResult

/-- The text of the failure of a message to a disabled type. -/
def disabledText : String := "destination type is disabled"

/-- The permanent failure of a message to a disabled type. -/
def IsDisabled (result : SendResult) : Prop :=
  result.state = .failedPermanently ∧ result.details = disabledText

instance (result : SendResult) : Decidable result.IsDisabled :=
  inferInstanceAs (Decidable (_ ∧ _))

theorem ne_disabledText {text : String} (character : Char) (held : character ∈ text.toList)
    (foreign : character ∉ disabledText.toList) : text ≠ disabledText := by
  rintro rfl
  exact foreign held

/-- A text with a colon is not that text. -/
theorem append_ne_disabledText {first : String} (held : ':' ∈ first.toList) (rest : String) :
    first ++ rest ≠ disabledText :=
  ne_disabledText ':' (mem_toList_append held rest) (by decide)

theorem not_isDisabled_sent (messageId : String) (externalId : Option String) :
    ¬ (sent messageId externalId).IsDisabled := by
  rintro ⟨state, _⟩
  cases state

theorem not_isDisabled_failedTemporarily (messageId details : String) :
    ¬ (failedTemporarily messageId details).IsDisabled := by
  rintro ⟨state, _⟩
  cases state

theorem not_isDisabled_failedPermanently (messageId : String) {details : String}
    (worded : details ≠ disabledText) : ¬ (failedPermanently messageId details).IsDisabled :=
  fun disabled => worded disabled.2

theorem not_isDisabled_of_sentWith {messageId details : String} {externalId : Json}
    {result : SendResult} (valid : sentWith messageId externalId details = .valid result) :
    ¬ result.IsDisabled := by
  rintro ⟨state, _⟩
  rw [sentWith] at valid
  split at valid
  · obtain ⟨id, _, rfl⟩ := Checked.map_eq_valid.mp valid
    cases state
  · cases valid
    cases state

end SendResult

namespace Outcome

/-- The outcome of a request over HTTP is worded differently from a disabled type. -/
theorem message_ofHttpStatus (status : Int) (detail : String) (retryAfter : Option String) :
    (ofHttpStatus status detail retryAfter).message ≠ SendResult.disabledText := by
  have held : 'H' ∈ (ofHttpStatus status detail retryAfter).message.toList := by
    dsimp only [ofHttpStatus]
    generalize (if detail = "" then "" else s!": {detail}") = suffix
    have framed (opening closing : String) (opened : 'H' ∈ opening.toList) :
        'H' ∈ (opening ++ toString status ++ closing ++ toString suffix).toList :=
      mem_toList_append (mem_toList_append (mem_toList_append opened _) _) _
    repeat' split
    · exact mem_toList_append (by decide) _
    · exact mem_toList_append (by decide) _
    · exact mem_toList_append (by decide) _
    · exact framed _ _ (by decide)
    · exact framed _ _ (by decide)
    · exact framed _ _ (by decide)
    · exact framed _ _ (by decide)
  exact SendResult.ne_disabledText 'H' held (by decide)

theorem message_ofHttpFailure (failure : Failure) :
    (ofHttpFailure failure).message ≠ SendResult.disabledText := by
  have unclassified (name text : String) :
      s!"transport error: {name}: {text}" ≠ SendResult.disabledText :=
    SendResult.append_ne_disabledText
      (mem_toList_append (mem_toList_append (by decide) _) _) _
  dsimp only [ofHttpFailure]
  split
  · repeat' split
    · exact SendResult.append_ne_disabledText (by decide) _
    · exact SendResult.append_ne_disabledText (by decide) _
    · exact message_ofHttpStatus _ _ _
    · exact unclassified _ _
  · exact unclassified _ _

end Outcome

theorem returns_resultOf {messageId : String} {outcome : Outcome}
    (worded : outcome.message ≠ SendResult.disabledText) :
    (Channel.resultOf messageId outcome).Returns fun result => ¬ result.IsDisabled := by
  refine returns_ofExcept fun result valid => ?_
  have checked := Checked.orFail_eq_ok.mp valid
  rw [SendResult.ofOutcome] at checked
  split at checked
  · exact SendResult.not_isDisabled_of_sentWith checked
  · cases checked
    exact SendResult.not_isDisabled_failedTemporarily _ _
  · cases checked
    exact SendResult.not_isDisabled_failedPermanently _ worded

namespace Telephony

theorem not_isDisabled_refused (messageId : String) (failure : TelephonyFailure) :
    ¬ (refused messageId failure).IsDisabled := by
  have worded : s!"twilio: {failure.message}" ≠ SendResult.disabledText :=
    SendResult.append_ne_disabledText (by decide) _
  rw [refused]
  split
  · exact SendResult.not_isDisabled_failedTemporarily _ _
  · exact SendResult.not_isDisabled_failedPermanently _ worded

theorem returns_deliver (kind messageId : String) (call : TelephonyCall) :
    (deliver kind messageId call).Returns fun result => ¬ result.IsDisabled := by
  refine Returns.rescue (returns_bind fun id => ?_) fun failure => ?_
  · exact returns_ofExcept fun result valid =>
      SendResult.not_isDisabled_of_sentWith (Checked.orFail_eq_ok.mp valid)
  · cases failure with
    | telephony refusal => exact returns_bind fun _ => .done (not_isDisabled_refused _ _)
    | transport exchange =>
        exact returns_bind fun _ => returns_resultOf (Outcome.message_ofHttpFailure _)
    | _ => exact .fail _

end Telephony

theorem Voice.returns_send (payload : Payload) (config : Config) :
    (Voice.send payload config).Returns fun result => ¬ result.IsDisabled :=
  returns_bind fun _ => returns_bind fun _ => Telephony.returns_deliver _ _ _

namespace Sms

theorem returns_gatewayFailed (messageId : String) (failure : Failure) :
    (gatewayFailed messageId failure).Returns fun result => ¬ result.IsDisabled := by
  cases failure with
  | gateway status body =>
      exact returns_bind fun _ => returns_resultOf (Outcome.message_ofHttpStatus _ _ _)
  | transport exchange =>
      exact returns_bind fun _ => returns_resultOf (Outcome.message_ofHttpFailure _)
  | _ => exact .fail _

theorem returns_sendThroughGateway (gateway : Gateway) (messageId toNumber text : String) :
    (sendThroughGateway gateway messageId toNumber text).Returns
      fun result => ¬ result.IsDisabled := by
  refine returns_bind fun result => ?_
  cases result with
  | error failure => exact returns_gatewayFailed messageId failure
  | ok id =>
      dsimp only
      split
      · exact returns_bind fun _ => .done (SendResult.not_isDisabled_sent _ _)
      · exact .done (SendResult.not_isDisabled_sent _ _)

theorem returns_send (given : Option Gateway) (payload : Payload) (config : Config) :
    (send given payload config).Returns fun result => ¬ result.IsDisabled := by
  refine returns_bind fun text => ?_
  dsimp only
  split
  · split
    · exact .fail _
    · exact returns_sendThroughGateway _ _ _ _
  · exact returns_bind fun _ => Telephony.returns_deliver _ _ _

end Sms

namespace Webhook

theorem returns_send (payload : Payload) (config : Config) :
    (send payload config).Returns fun result => ¬ result.IsDisabled := by
  refine Yields.ask fun answer _ => ?_
  cases answer with
  | ok response =>
      dsimp only [answered]
      split
      · exact Returns.done (SendResult.not_isDisabled_sent _ _)
      · exact returns_bind fun _ => returns_resultOf (Outcome.message_ofHttpStatus _ _ _)
  | error failure =>
      dsimp only
      split
      · exact returns_bind fun _ => returns_resultOf (Outcome.message_ofHttpFailure _)
      · exact Returns.fail _

end Webhook

namespace BrowserPush

theorem returns_send (store : SubscriptionStore) (payload : Payload) (config : Config) :
    (send store payload config).Returns fun result => ¬ result.IsDisabled := by
  refine returns_bind fun userId => returns_bind fun message => returns_bind fun found => ?_
  split
  · exact returns_bind fun _ =>
      .done (SendResult.not_isDisabled_failedPermanently _ (by decide))
  · refine returns_bind fun subscriber => returns_bind fun delivered => ?_
    cases delivered with
    | none => exact .done (SendResult.not_isDisabled_failedTemporarily _ _)
    | some count =>
        refine returns_bind fun _ => ?_
        split
        · exact .done (SendResult.not_isDisabled_failedPermanently _ (by decide))
        · exact .done (SendResult.not_isDisabled_sent _ _)

end BrowserPush

/-- The failure is another one than the lack of a sender for a type. -/
def Failure.NamesNoType (failure : Failure) : Prop := ∀ kind, failure ≠ .unknownDestination kind

/-- An answer keeps to its subject: the table service never fails for the lack of a sender, and a
channel outside of this library leaves it to the registry to refuse disabled types. -/
def Exchange.KeepsToSubject : Exchange → Prop
  | ⟨.service _, .error failure⟩ => failure.NamesNoType
  | ⟨.deliver _ _, .ok result⟩ => ¬ result.IsDisabled
  | _ => True

/-- What a channel gives to a payload is never the refusal of a disabled type. -/
theorem Provider.yields_send (provider : Provider)
    {sendPayload : Payload → Config → Program SendResult}
    (sends : provider.channel.send = some sendPayload) (payload : Payload) (config : Config) :
    (sendPayload payload config).Yields Exchange.KeepsToSubject
      fun outcome => ∀ result, outcome = .ok result → ¬ result.IsDisabled := by
  cases provider with
  | voice =>
      cases sends
      exact (Voice.returns_send payload config).yields _
  | sms gateway =>
      cases sends
      exact (Sms.returns_send gateway payload config).yields _
  | browserPush store =>
      cases sends
      exact (BrowserPush.returns_send store payload config).yields _
  | webhook =>
      cases sends
      exact (Webhook.returns_send payload config).yields _
  | outside id info validate canSend =>
      cases canSend with
      | false => cases sends
      | true =>
          cases sends
          refine .ask fun answer kept => yields_ofExcept ?_
          rintro result rfl
          exact kept

namespace Registry

variable (registry : Registry) (config : Config) (type : String)

/-- A channel that can send is registered for the type. -/
def HasSender : Prop :=
  ∃ channel, registry.find? type = some channel ∧ channel.send.isSome

/-- The type is enabled, and the channel that is registered for it can send. -/
def IsUsable : Prop :=
  ∃ channel, registry.find? type = some channel ∧ channel.send.isSome ∧
    (channel.info config).enabled = true

/-- The outcome is neither the refusal of a disabled type nor the lack of a sender. -/
def Accepts : Except Failure SendResult → Prop
  | .ok result => ¬ result.IsDisabled
  | .error failure => failure.NamesNoType

variable {registry config} {payload : Payload} {exchanges : List Exchange}
  {outcome : Except Failure SendResult}

theorem IsUsable.hasSender {type : String} (usable : registry.IsUsable config type) :
    registry.HasSender type := by
  obtain ⟨channel, found, sends, _⟩ := usable
  exact ⟨channel, found, sends⟩

/-- Without a sender for its type, a payload fails. -/
theorem outcome_of_not_hasSender (missing : ¬ registry.HasSender payload.destination.kind)
    (ended : (registry.send payload config).Ends exchanges outcome) :
    outcome = .error (.unknownDestination payload.destination.kind) := by
  dsimp only [send] at ended
  split at ended
  · exact (ends_fail.mp ended).2
  · rename_i channel found
    split at ended
    · exact (ends_fail.mp ended).2
    · rename_i sends
      exact (missing ⟨channel, found, by simp [sends]⟩).elim

/-- A payload of a disabled type is refused. -/
theorem outcome_of_not_isUsable (registered : registry.HasSender payload.destination.kind)
    (unusable : ¬ registry.IsUsable config payload.destination.kind)
    (ended : (registry.send payload config).Ends exchanges outcome) :
    ∃ result, outcome = .ok result ∧ result.IsDisabled := by
  obtain ⟨channel, found, canSend⟩ := registered
  obtain ⟨sendPayload, sends⟩ := Option.isSome_iff_exists.mp canSend
  have disabled : (channel.info config).enabled = false := by
    rw [← Bool.not_eq_true]
    intro enabled
    exact unusable ⟨channel, found, canSend, enabled⟩
  dsimp only [send] at ended
  simp only [found, sends, disabled, Bool.not_false, if_true] at ended
  rcases ends_bind.mp ended with ⟨_, noEnd, _⟩ | ⟨_, _, _, _, _, refused⟩
  · simp at noEnd
  · exact ⟨_, (ends_done.mp refused).2, rfl, rfl⟩

theorem yields_failed (payload : Payload) (failure : Failure) :
    (failed payload failure).Yields Exchange.KeepsToSubject Accepts := by
  cases failure with
  | configuration source message =>
      refine .fail ?_
      rintro kind ⟨⟩
  | unsupportedPayload source variant =>
      refine .ask fun _ _ => .done (SendResult.not_isDisabled_failedPermanently _ ?_)
      refine SendResult.append_ne_disabledText ?_ _
      rw [String.toList_append]
      exact List.mem_append_right _ (by decide)
  | _ => exact .ask fun _ _ => .done (SendResult.not_isDisabled_failedTemporarily _ _)

/-- A payload of a type that can be used is accepted. -/
theorem accepts_of_isUsable {providers : List Provider}
    (usable : (ofProviders providers).IsUsable config payload.destination.kind)
    (ended : ((ofProviders providers).send payload config).Ends exchanges outcome)
    (answered : ∀ exchange ∈ exchanges, exchange.KeepsToSubject) : Accepts outcome := by
  obtain ⟨channel, found, canSend, enabled⟩ := usable
  obtain ⟨sendPayload, sends⟩ := Option.isSome_iff_exists.mp canSend
  obtain ⟨provider, _, rfl⟩ := List.mem_map.mp (List.mem_of_find?_eq_some found)
  have yields : ((ofProviders providers).send payload config).Yields Exchange.KeepsToSubject
      Accepts := by
    dsimp only [send]
    simp only [found, sends, enabled, Bool.not_true, Bool.false_eq_true, if_false]
    refine .ask fun stop _ => ?_
    cases stop with
    | true => exact .ask fun _ _ => .done (SendResult.not_isDisabled_failedTemporarily _ _)
    | false =>
        have attempted : (sendPayload payload config).attempt.Yields Exchange.KeepsToSubject fun
            | .ok outcome => ∀ result, outcome = .ok result → ¬ result.IsDisabled
            | .error _ => False :=
          (provider.yields_send sends payload config).attempt fun _ satisfied => satisfied
        refine attempted.bind (fun outcome satisfied => ?_) fun _ => False.elim
        cases outcome with
        | ok result => exact .ask fun _ _ => .done (satisfied result rfl)
        | error failure => exact yields_failed payload failure
  exact yields.of_ends ended answered

end Registry
end AlertRelay
