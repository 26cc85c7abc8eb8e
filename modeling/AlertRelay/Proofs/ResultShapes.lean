import AlertRelay.Proofs.DisabledTypes
import AlertRelay.Proofs.Surroundings

/-!
# The shape of results

The registry contains the failures of its channels: whatever the outside does, sending a payload
either ends with a result of one shape or fails in one of two known ways.  A payload for which its
channel has no words ends with a result as well, before anything outside is called.
-/

namespace AlertRelay

open Program

/-- The shape of the results about the message with the id: the attempt is over, and an id of the
provider stands for an accepted message and is not empty. -/
structure SendResult.IsShaped (id : String) (result : SendResult) : Prop where
  named : result.messageId = id
  concluded : result.state ∈ [.sent, .failedTemporarily, .failedPermanently]
  identified : result.externalId ≠ none → result.state = .sent
  nonempty : result.externalId ≠ some ""

namespace SendResult

theorem isShaped_failedTemporarily (id details : String) :
    (failedTemporarily id details).IsShaped id :=
  ⟨rfl, by simp [failedTemporarily], by simp [failedTemporarily], by simp [failedTemporarily]⟩

theorem isShaped_failedPermanently (id details : String) :
    (failedPermanently id details).IsShaped id :=
  ⟨rfl, by simp [failedPermanently], by simp [failedPermanently], by simp [failedPermanently]⟩

theorem isShaped_sent (id : String) (externalId : Option String) :
    (sent id externalId).IsShaped id :=
  ⟨rfl, by simp [sent], fun _ => rfl, by simp [sent, Option.filter_eq_some_iff]⟩

/-- An id that does not count as absent is a text with characters. -/
theorem isShaped_of_sentWith {id details : String} {externalId : Json} {result : SendResult}
    (valid : sentWith id externalId details = .valid result) : result.IsShaped id := by
  rw [sentWith] at valid
  split at valid
  · rename_i present
    obtain ⟨text, read, rfl⟩ := Checked.map_eq_valid.mp valid
    refine ⟨rfl, by simp, fun _ => rfl, ?_⟩
    rintro ⟨⟩
    have isText : Scalar.text externalId = .valid "" := Checked.within_eq_valid.mp read
    cases externalId with
    | text value =>
        cases isText
        cases present
    | _ => cases isText
  · cases valid
    exact ⟨rfl, by simp, fun _ => rfl, by simp⟩

end SendResult

/-! ## Channels -/

theorem Channel.isShaped_resultOf (messageId : String) (outcome : Outcome) :
    (resultOf messageId outcome).Returns (SendResult.IsShaped messageId) := by
  refine returns_ofExcept fun result valid => ?_
  have checked := Checked.orFail_eq_ok.mp valid
  rw [SendResult.ofOutcome] at checked
  split at checked
  · exact SendResult.isShaped_of_sentWith checked
  · cases checked
    exact SendResult.isShaped_failedTemporarily _ _
  · cases checked
    exact SendResult.isShaped_failedPermanently _ _

theorem Telephony.isShaped_refused (messageId : String) (failure : TelephonyFailure) :
    (refused messageId failure).IsShaped messageId := by
  rw [refused]
  split
  · exact SendResult.isShaped_failedTemporarily _ _
  · exact SendResult.isShaped_failedPermanently _ _

theorem Telephony.isShaped_deliver (kind messageId : String) (call : TelephonyCall) :
    (deliver kind messageId call).Returns (SendResult.IsShaped messageId) := by
  refine Returns.rescue (returns_bind fun id => ?_) fun failure => ?_
  · exact returns_ofExcept fun result valid =>
      SendResult.isShaped_of_sentWith (Checked.orFail_eq_ok.mp valid)
  · cases failure with
    | telephony refusal => exact returns_bind fun _ => .done (isShaped_refused _ _)
    | transport exchange => exact returns_bind fun _ => Channel.isShaped_resultOf _ _
    | _ => exact .fail _

theorem Voice.isShaped_send (payload : Payload) (config : Config) :
    (send payload config).Returns (SendResult.IsShaped payload.id) :=
  returns_bind fun _ => returns_bind fun _ => Telephony.isShaped_deliver _ _ _

theorem Sms.isShaped_sendThroughGateway (gateway : Gateway) (messageId toNumber text : String) :
    (sendThroughGateway gateway messageId toNumber text).Returns
      (SendResult.IsShaped messageId) := by
  refine returns_bind fun result => ?_
  cases result with
  | error failure =>
      cases failure with
      | gateway status body => exact returns_bind fun _ => Channel.isShaped_resultOf _ _
      | transport exchange => exact returns_bind fun _ => Channel.isShaped_resultOf _ _
      | _ => exact .fail _
  | ok id =>
      dsimp only
      split
      · exact returns_bind fun _ => .done (SendResult.isShaped_sent _ _)
      · exact .done (SendResult.isShaped_sent _ _)

theorem Sms.isShaped_send (given : Option Gateway) (payload : Payload) (config : Config) :
    (send given payload config).Returns (SendResult.IsShaped payload.id) := by
  refine returns_bind fun text => ?_
  dsimp only
  split
  · split
    · exact .fail _
    · exact isShaped_sendThroughGateway _ _ _ _
  · exact returns_bind fun _ => Telephony.isShaped_deliver _ _ _

theorem Webhook.isShaped_send (payload : Payload) (config : Config) :
    (send payload config).Returns (SendResult.IsShaped payload.id) := by
  refine Yields.ask fun answer _ => ?_
  cases answer with
  | ok response =>
      dsimp only [answered]
      split
      · exact Returns.done (SendResult.isShaped_sent _ _)
      · exact returns_bind fun _ => Channel.isShaped_resultOf _ _
  | error failure =>
      dsimp only
      split
      · exact returns_bind fun _ => Channel.isShaped_resultOf _ _
      · exact Returns.fail _

theorem BrowserPush.isShaped_send (store : SubscriptionStore) (payload : Payload)
    (config : Config) : (send store payload config).Returns (SendResult.IsShaped payload.id) := by
  refine returns_bind fun userId => returns_bind fun message => returns_bind fun found => ?_
  split
  · exact returns_bind fun _ => .done (SendResult.isShaped_failedPermanently _ _)
  · refine returns_bind fun subscriber => returns_bind fun delivered => ?_
    cases delivered with
    | none => exact .done (SendResult.isShaped_failedTemporarily _ _)
    | some count =>
        refine returns_bind fun _ => ?_
        split
        · exact .done (SendResult.isShaped_failedPermanently _ _)
        · exact .done (SendResult.isShaped_sent _ _)

/-! ## Contents without words -/

/-- Whether the channels of the type have words for contents of the variant: bare contents go to
webhooks only, and duty rosters and signals are not spoken or pushed. -/
def MessageType.IsWorded (kind : String) : Option MessageType → Prop
  | none => kind = Webhook.type
  | some .onCallUsers => kind = Webhook.type ∨ kind = Sms.type
  | some .signal => kind = Webhook.type ∨ kind = Sms.type
  | some _ => True

namespace Payload

/-- The payload has words on the channel that it goes to. -/
def IsWorded (payload : Payload) : Prop :=
  MessageType.IsWorded payload.destination.kind payload.content.messageType?

/-- What the channel of the payload checks before it words the payload: browser push looks at its
configuration and for a user, and the other channels check nothing. -/
def precheck (payload : Payload) (config : Config) : Except Failure Unit :=
  if payload.destination.kind = BrowserPush.type then
    (BrowserPush.checkedUser payload config).map fun _ => ()
  else .ok ()

/-- The failure of a payload without words. -/
def wordless (payload : Payload) : Failure :=
  .unsupportedPayload payload.destination.kind payload.variantName

/-- What becomes of a payload without words. -/
def refusal (payload : Payload) (config : Config) : Except Failure SendResult :=
  match payload.precheck config with
  | .error failure => .error failure
  | .ok _ => .ok (.failedPermanently payload.id payload.wordless.text)

theorem configuration_of_precheck {payload : Payload} {config : Config} {failure : Failure}
    (failed : payload.precheck config = .error failure) :
    ∃ source reason, failure = .configuration source reason := by
  rw [precheck] at failed
  split at failed
  · dsimp only [BrowserPush.checkedUser] at failed
    split at failed
    · cases failed
      exact ⟨_, _, rfl⟩
    · split at failed
      · cases failed
        exact ⟨_, _, rfl⟩
      · cases failed
  · cases failed

end Payload

/-! The three wordings leave out exactly the contents that the definition names. -/

theorem Wording.voiceText?_eq_none (app : String) {content : Content} :
    voiceText? app content = none ↔ ¬ MessageType.IsWorded Voice.type content.messageType? := by
  cases content <;> simp [voiceText?, Content.messageType?, MessageType.IsWorded] <;> decide

theorem Wording.smsParts_eq_none (config : Config) {content : Content} :
    smsParts config content = none ↔ ¬ MessageType.IsWorded Sms.type content.messageType? := by
  have apart : Sms.type ≠ Webhook.type := by decide
  cases content <;> simp [smsParts, Content.messageType?, MessageType.IsWorded, apart]

theorem Wording.pushMessage?_eq_none (config : Config) {content : Content} :
    pushMessage? config content = none ↔
      ¬ MessageType.IsWorded BrowserPush.type content.messageType? := by
  cases content <;> simp [pushMessage?, Content.messageType?, MessageType.IsWorded] <;> decide

section Wordless

variable {payload : Payload} (config : Config)

theorem Voice.send_of_wordless (goes : payload.destination.kind = type)
    (wordless : ¬ payload.IsWorded) : send payload config = .fail payload.wordless := by
  rw [Payload.IsWorded, goes, ← Wording.voiceText?_eq_none config.applicationName] at wordless
  dsimp only [send, Wording.voice, Payload.wordless]
  rw [wordless, goes]
  rfl

theorem Sms.send_of_wordless (given : Option Gateway) (goes : payload.destination.kind = type)
    (wordless : ¬ payload.IsWorded) : send given payload config = .fail payload.wordless := by
  rw [Payload.IsWorded, goes, ← Wording.smsParts_eq_none config] at wordless
  dsimp only [send, Wording.sms, Payload.wordless]
  rw [wordless, goes]
  rfl

theorem BrowserPush.send_of_wordless (store : SubscriptionStore)
    (goes : payload.destination.kind = type) (wordless : ¬ payload.IsWorded) :
    send store payload config =
      (ofExcept (checkedUser payload config)).bind fun _ => .fail payload.wordless := by
  rw [Payload.IsWorded, goes, ← Wording.pushMessage?_eq_none config] at wordless
  rw [send_eq]
  dsimp only [Wording.push, Payload.wordless]
  rw [wordless, goes]
  rfl

theorem Webhook.isWorded (goes : payload.destination.kind = type) : payload.IsWorded := by
  dsimp only [Payload.IsWorded]
  rw [goes]
  cases payload.content <;> simp [Content.messageType?, MessageType.IsWorded]

/-- A channel asks nothing for a payload without words: it fails with what its own check raised, or
else for want of words. -/
theorem Provider.send_of_wordless {subscriptions : SubscriptionStore} {provider : Provider}
    {sendPayload : Payload → Config → Program SendResult}
    (isStandard : provider ∈ standard subscriptions)
    (sends : provider.channel.send = some sendPayload)
    (goes : payload.destination.kind = provider.channel.id) (wordless : ¬ payload.IsWorded) :
    sendPayload payload config =
      ofExcept ((payload.precheck config).bind fun _ => .error payload.wordless) := by
  have unchecked (other : payload.destination.kind ≠ BrowserPush.type) :
      (payload.precheck config).bind (fun _ => .error payload.wordless) =
        (.error payload.wordless : Except Failure SendResult) := by
    rw [Payload.precheck, if_neg other]
    rfl
  simp only [standard, List.mem_cons, List.not_mem_nil, or_false] at isStandard
  rcases isStandard with rfl | rfl | rfl | rfl
  · cases sends
    rw [Voice.send_of_wordless config goes wordless, unchecked (by rw [goes]; decide)]
    rfl
  · cases sends
    rw [Sms.send_of_wordless config none goes wordless, unchecked (by rw [goes]; decide)]
    rfl
  · cases sends
    have pushes : payload.destination.kind = BrowserPush.type := goes
    rw [BrowserPush.send_of_wordless config subscriptions pushes wordless, Payload.precheck,
      if_pos pushes]
    cases BrowserPush.checkedUser payload config <;> rfl
  · exact (wordless (Webhook.isWorded goes)).elim

end Wordless

/-! ## The registry -/

namespace Registry

theorem isShaped_failed (payload : Payload) (failure : Failure) :
    (failed payload failure).Returns (SendResult.IsShaped payload.id) := by
  cases failure with
  | configuration source reason => exact .fail _
  | unsupportedPayload source variant =>
      exact returns_bind fun _ => .done (SendResult.isShaped_failedPermanently _ _)
  | _ => exact returns_bind fun _ => .done (SendResult.isShaped_failedTemporarily _ _)

variable {subscriptions : SubscriptionStore} {payload : Payload} {config : Config}
  {exchanges : List Exchange}

/-- Results of the registry are about the payload that was to be sent. -/
theorem isShaped_of_ends_send {result : SendResult}
    (ended : ((standard subscriptions).send payload config).Ends exchanges (.ok result)) :
    result.IsShaped payload.id := by
  cases course_of_ends_send ended with
  | disabled => exact SendResult.isShaped_failedPermanently _ _
  | stopped => exact SendResult.isShaped_failedTemporarily _ _
  | @carried channel sendPayload provided reporting given _ found sends on endedSend concluded =>
      cases given with
      | error failure => exact (isShaped_failed payload failure).of_ends concluded
      | ok value =>
          obtain ⟨same, _⟩ := ends_reported concluded
          cases same
          rcases send_of_find?_standard found sends with rfl | rfl | rfl | rfl
          · exact (Voice.isShaped_send payload config).of_ends endedSend
          · exact (Sms.isShaped_send none payload config).of_ends endedSend
          · exact (BrowserPush.isShaped_send subscriptions payload config).of_ends endedSend
          · exact (Webhook.isShaped_send payload config).of_ends endedSend

/-- The registry fails for a type without a sender, or passes on a lack of configuration. -/
theorem failure_of_ends_send {registry : Registry} {failure : Failure}
    (ended : (registry.send payload config).Ends exchanges (.error failure)) :
    (¬ registry.HasSender payload.destination.kind ∧
      failure = .unknownDestination payload.destination.kind) ∨
    (registry.HasSender payload.destination.kind ∧
      ∃ source reason, failure = .configuration source reason) := by
  cases course_of_ends_send ended with
  | senderless lacking =>
      refine .inl ⟨?_, rfl⟩
      rintro ⟨channel, found, canSend⟩
      rw [lacking channel found] at canSend
      cases canSend
  | carried found sends on endedSend concluded =>
      refine .inr ⟨⟨_, found, by simp [sends]⟩, ?_⟩
      exact (ends_conclude_error concluded).2.2

theorem ends_conclude_of_wordless {outcome : Except Failure SendResult}
    (concluded : (conclude payload ((payload.precheck config).bind
      fun _ => .error payload.wordless)).Ends exchanges outcome) :
    outcome = payload.refusal config ∧ ∀ exchange ∈ exchanges, exchange.request.Routine := by
  rw [Payload.refusal]
  cases checked : payload.precheck config with
  | error failure =>
      obtain ⟨source, reason, rfl⟩ := Payload.configuration_of_precheck checked
      rw [checked] at concluded
      obtain ⟨rfl, rfl⟩ := ends_fail.mp concluded
      exact ⟨rfl, by simp⟩
  | ok _ =>
      rw [checked] at concluded
      exact ends_reported concluded

/-- A payload without words that its channel takes up is refused before anything is asked. -/
theorem refused_of_wordless {outcome : Except Failure SendResult}
    (ended : ((standard subscriptions).send payload config).Ends exchanges outcome)
    (usable : (standard subscriptions).IsUsable config payload.destination.kind)
    (unset : ⟨.cancelled, true⟩ ∉ exchanges) (wordless : ¬ payload.IsWorded) :
    outcome = payload.refusal config ∧ ∀ exchange ∈ exchanges, exchange.request.Routine := by
  obtain ⟨channel, found, canSend, on⟩ := usable
  cases course_of_ends_send ended with
  | senderless lacking =>
      rw [lacking channel found] at canSend
      cases canSend
  | disabled foundOff _ off =>
      rw [found] at foundOff
      cases foundOff
      rw [on] at off
      cases off
  | stopped => exact (unset List.mem_cons_self).elim
  | @carried other sendPayload provided reporting given _ foundOther sends _ endedSend concluded =>
      obtain ⟨provider, isStandard, rfl⟩ := List.mem_map.mp (List.mem_of_find?_eq_some foundOther)
      rw [provider.send_of_wordless config isStandard sends (id_of_find? foundOther).symm wordless]
        at endedSend
      obtain ⟨rfl, rfl⟩ := ends_ofExcept.mp endedSend
      obtain ⟨refused, logged⟩ := ends_conclude_of_wordless concluded
      refine ⟨refused, fun exchange made => ?_⟩
      rcases List.mem_cons.mp made with rfl | reported
      · trivial
      · exact logged exchange reported

/-- What sending a payload comes to, whatever the outside does. -/
structure Contained (registry : Registry) (payload : Payload) (config : Config)
    (exchanges : List Exchange) (outcome : Except Failure SendResult) : Prop where
  unknown : outcome = .error (.unknownDestination payload.destination.kind) ↔
    ¬ registry.HasSender payload.destination.kind
  failures : ∀ failure, outcome = .error failure →
    failure = .unknownDestination payload.destination.kind ∨
      ∃ source reason, failure = .configuration source reason
  shaped : ∀ result, outcome = .ok result → result.IsShaped payload.id
  /-- A payload without words is refused without a call to the outside. -/
  wordless : registry.IsUsable config payload.destination.kind →
    ⟨.cancelled, true⟩ ∉ exchanges → ¬ payload.IsWorded →
      outcome = payload.refusal config ∧ ∀ exchange ∈ exchanges, exchange.request.Routine

/-- The channels of the standard deployment contain every failure of the outside. -/
theorem contained_of_ends_send {outcome : Except Failure SendResult}
    (ended : ((standard subscriptions).send payload config).Ends exchanges outcome) :
    Contained (standard subscriptions) payload config exchanges outcome where
  unknown := by
    refine ⟨?_, fun missing => outcome_of_not_hasSender missing ended⟩
    rintro rfl registered
    rcases failure_of_ends_send ended with ⟨missing, _⟩ | ⟨_, _, _, other⟩
    · exact missing registered
    · cases other
  failures := by
    rintro failure rfl
    rcases failure_of_ends_send ended with ⟨_, unknown⟩ | ⟨_, unconfigured⟩
    · exact .inl unknown
    · exact .inr unconfigured
  shaped := by
    rintro result rfl
    exact isShaped_of_ends_send ended
  wordless := refused_of_wordless ended

end Registry

/-! ## A signal for a telephone -/

namespace Sample

/-- A signal that is meant for the telephone of the user, where signals have no words. -/
def unspoken : Payload := ⟨"signal", telephone, none, .signal []⟩

end Sample

/-- A signal that a telephone cannot speak fails for good without a call, although the telephone
is in service. -/
theorem refused_unspoken :
    ∃ exchanges outcome,
      ((Registry.standard ⟨⟨[], [], 10⟩, "subscriptions"⟩).send Sample.unspoken
        Sample.config).Ends exchanges outcome ∧
      outcome = .ok (.failedPermanently "signal" Sample.unspoken.wordless.text) ∧
      ∀ exchange ∈ exchanges, exchange.request.Routine := by
  let registry := Registry.standard ⟨⟨[], [], 10⟩, "subscriptions"⟩
  let surroundings := answerWith Sample.answer
  have ended := ends_run surroundings (registry.send Sample.unspoken Sample.config) Sample.tables
  have usable : registry.IsUsable Sample.config Sample.unspoken.destination.kind :=
    ⟨Voice.channel, rfl, rfl, rfl⟩
  have wordless : ¬ Sample.unspoken.IsWorded := by
    rintro (webhook | sms)
    · exact absurd webhook (by decide)
    · exact absurd sms (by decide)
  have unset : ⟨.cancelled, true⟩ ∉
      (registry.send Sample.unspoken Sample.config).exchanges surroundings Sample.tables := by
    intro set
    obtain ⟨reached, given⟩ := answer_of_mem_exchanges set
    cases given
  have contained := Registry.contained_of_ends_send ended
  obtain ⟨refused, routine⟩ := contained.wordless usable unset wordless
  exact ⟨_, _, ended, refused, routine⟩

end AlertRelay
