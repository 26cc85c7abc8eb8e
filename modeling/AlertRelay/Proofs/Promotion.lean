import AlertRelay.Proofs.BuildFailures
import AlertRelay.Proofs.DisabledTypes
import AlertRelay.Proofs.Surroundings

/-!
# Promotion and disabled telephones

The priority policy looks at the contacts of a user only: it promotes a message about a labelled
alert to a telephone whether or not telephone calls are enabled.  A message whose own destination
can be used is refused as one of a disabled type exactly when it was promoted to telephones that
are disabled.
-/

namespace AlertRelay

open Program

theorem Failure.IsRaw.namesNoType {failure : Failure} (raw : failure.IsRaw) :
    failure.NamesNoType :=
  fun _ => raw.ne_of_isLibrary rfl

namespace Dispatch

variable {site : Site} {config : Config} {message sent : Message} {payload : Payload}
  {isFirst : Bool} {past rest exchanges : List Exchange} {providers : List Provider}
  {outcome : Except Failure SendResult}

/-- The message, which has a destination that is no telephone, was promoted to the first telephone
contact of its user, after metadata with the label was found for its alert. -/
def Promoted (site : Site) (config : Config) (message : Message) (exchanges : List Exchange) :
    Prop :=
  message.destination.kind ≠ Voice.type ∧
    FoundLabel config.priorityKey config.priorityValue message.alertId exchanges ∧
    ∃ userId methods method sent payload isFirst rest,
      message.userId = some userId ∧
      (⟨.contactMethods userId, .ok methods⟩ : Exchange) ∈ exchanges ∧
      methods.find? (fun method => Priority.isVoice method.destination) = some method ∧
      sent.destination = method.destination ∧
      Built site config message exchanges sent payload isFirst rest

/-- A message about an alert is sent to its own destination, unless it was promoted. -/
theorem Built.kept_or_promoted
    (built : Built site config message exchanges sent payload isFirst rest)
    (isAlert : message.type = .alert) :
    sent.destination = message.destination ∨
      sent.destination.kind = Voice.type ∧ Promoted site config message exchanges := by
  obtain ⟨opening, building, inOrder, outcome⟩ := built.ofAlert isAlert
  cases outcome with
  | @carried metadata _ answered decided =>
      have inPast : ⟨.alertMetadata message.alertId, .ok metadata⟩ ∈ exchanges := by
        simp [inOrder, answered]
      cases decided with
      | off => exact .inl rfl
      | unlabelled => exact .inl rfl
      | kept => exact .inl rfl
      | @promoted _ _ labelled elsewhere userId methods method ofUser answered first =>
          have toTelephone : method.destination.kind = Voice.type :=
            Priority.kind_of_find? first
          have ownPlace : message.destination.kind ≠ Voice.type :=
            Priority.isVoice_eq_false_iff.mp elsewhere
          have askedContacts : ⟨.contactMethods userId, .ok methods⟩ ∈ exchanges := by
            simp [inOrder, answered]
          exact .inr ⟨toTelephone, ownPlace, labelled.foundLabel inPast, userId, methods, method, _,
            _, _, _, ofUser, askedContacts, first, rfl, built⟩

theorem Promoted.toTelephone (promoted : Promoted site config message exchanges) :
    ∃ sent payload isFirst rest, Built site config message exchanges sent payload isFirst rest ∧
      payload.destination.kind = Voice.type := by
  obtain ⟨_, _, userId, methods, method, sent, payload, isFirst, rest, _, _, first, redirected,
    built⟩ := promoted
  refine ⟨sent, payload, isFirst, rest, built, ?_⟩
  rw [built.payload_destination, redirected]
  exact Priority.kind_of_find? first

/-- A message about an alert that is not sent, although it was possible to look up what it needs,
ends with another failure than that of a disabled type. -/
theorem not_isDisabled_of_ofMessage {result : SendResult} (isAlert : message.type = .alert)
    (ended : (BuildOutcome.ofMessage site message config).Ends exchanges
      (.ok ⟨sent, .result result⟩)) : ¬ result.IsDisabled := by
  dsimp only [BuildOutcome.ofMessage] at ended
  split at ended
  · rw [isAlert] at ended
    cases BuildOutcome.ofAlert_of_ends ended
    exact SendResult.not_isDisabled_failedPermanently _ (by decide)
  · obtain ⟨_, _, _, _, _, last⟩ := ends_bind_ok.mp ended
    obtain ⟨_, same⟩ := ends_done.mp last
    cases same
    rw [isAlert]
    exact SendResult.not_isDisabled_failedPermanently _ (by decide)

/-- Building a message fails for another reason than the lack of a sender. -/
theorem namesNoType_of_ofMessage {failure : Failure}
    (ended : (BuildOutcome.ofMessage site message config).Ends exchanges (.error failure))
    (answered : ∀ exchange ∈ exchanges, exchange.KeepsToSubject) : failure.NamesNoType := by
  cases BuildOutcome.fault_of_ends ended with
  | wrapped isDispatch =>
      rintro kind rfl
      cases isDispatch
  | raised given => exact answered _ given
  | unclassified _ failed => exact (Outcome.onlyRaw_ofServiceFailure _ _ failed).namesNoType
  | unreadableAnswer _ failed => exact (Attribute.onlyRaw_itemOf _ _ failed).namesNoType
  | unreadableRow _ _ failed => exact (DeliveryRecord.onlyRaw_ofItem _ _ _ _ failed).namesNoType
  | serviceParts _ failed => exact (BuildOutcome.onlyRaw_serviceParts _ _ failed).namesNoType
  | code _ failed => exact (BuildOutcome.onlyRaw_codeText _ _ failed).namesNoType
  | _ => rintro kind ⟨⟩

/-- A message about an alert that was not promoted, and whose destination can be used, is
accepted. -/
theorem accepts_or_promoted (isAlert : message.type = .alert)
    (usable : (Registry.ofProviders providers).IsUsable config message.destination.kind)
    (ended : (send site (Registry.ofProviders providers) config message).Ends exchanges outcome)
    (answered : ∀ exchange ∈ exchanges, exchange.KeepsToSubject) :
    Registry.Accepts outcome ∨ Promoted site config message exchanges := by
  rcases outcome_of_ends_send ended with
    ⟨opening, building, closing, failure, rfl, _, endedBuild, rfl⟩ |
    ⟨opening, building, closing, sent, result, rfl, _, endedBuild, rfl⟩ |
    ⟨sent, payload, isFirst, given, later, built, endedCarry⟩
  · exact .inl (namesNoType_of_ofMessage endedBuild fun exchange member =>
      answered exchange (by simp [member]))
  · exact .inl (not_isDisabled_of_ofMessage isAlert endedBuild)
  · rcases built.kept_or_promoted isAlert with kept | ⟨_, promoted⟩
    · rw [← kept, ← built.payload_destination] at usable
      obtain ⟨opening, building, rfl, _⟩ := built
      exact .inl (Registry.accepts_of_isUsable usable endedCarry fun exchange member =>
        answered exchange (by simp [member]))
    · exact .inr promoted

/-- A promoted message ends as messages to telephones do. -/
theorem Promoted.outcome_cases (promoted : Promoted site config message exchanges)
    (ended : (send site (Registry.ofProviders providers) config message).Ends exchanges outcome)
    (answered : ∀ exchange ∈ exchanges, exchange.KeepsToSubject) :
    (¬ (Registry.ofProviders providers).HasSender Voice.type ∧
      outcome = .error (.unknownDestination Voice.type)) ∨
    ((Registry.ofProviders providers).HasSender Voice.type ∧
      ¬ (Registry.ofProviders providers).IsUsable config Voice.type ∧
      ∃ result, outcome = .ok result ∧ result.IsDisabled) ∨
    ((Registry.ofProviders providers).IsUsable config Voice.type ∧ Registry.Accepts outcome) := by
  obtain ⟨sent, payload, isFirst, rest, built, toTelephone⟩ := promoted.toTelephone
  obtain ⟨given, later, rfl, endedCarry⟩ := built.ends ended
  rw [← toTelephone]
  by_cases registered : (Registry.ofProviders providers).HasSender payload.destination.kind
  · by_cases usable : (Registry.ofProviders providers).IsUsable config payload.destination.kind
    · have accepted : Registry.Accepts outcome := by
        obtain ⟨opening, building, rfl, _⟩ := built
        exact Registry.accepts_of_isUsable usable endedCarry fun exchange member =>
          answered exchange (by simp [member])
      exact .inr (.inr ⟨usable, accepted⟩)
    · have refused := Registry.outcome_of_not_isUsable registered usable endedCarry
      exact .inr (.inl ⟨registered, usable, refused⟩)
  · exact .inl ⟨registered, Registry.outcome_of_not_hasSender registered endedCarry⟩

/-- A message about an alert whose own destination can be used is refused as one of a disabled
type exactly when it was promoted to telephones that are disabled, and it lacks a sender exactly
when it was promoted and telephones have none. -/
theorem usable_alert_refused_iff_promoted (isAlert : message.type = .alert)
    (usable : (Registry.ofProviders providers).IsUsable config message.destination.kind)
    (ended : (send site (Registry.ofProviders providers) config message).Ends exchanges outcome)
    (answered : ∀ exchange ∈ exchanges, exchange.KeepsToSubject) :
    ((∃ result, outcome = .ok result ∧ result.IsDisabled) ↔
      Promoted site config message exchanges ∧
        (Registry.ofProviders providers).HasSender Voice.type ∧
        ¬ (Registry.ofProviders providers).IsUsable config Voice.type) ∧
    ((∃ kind, outcome = .error (.unknownDestination kind)) ↔
      Promoted site config message exchanges ∧
        ¬ (Registry.ofProviders providers).HasSender Voice.type) := by
  have cases_of_promoted (promoted : Promoted site config message exchanges) :=
    promoted.outcome_cases ended answered
  have accepted_or_promoted := accepts_or_promoted isAlert usable ended answered
  refine ⟨⟨?_, ?_⟩, ?_, ?_⟩
  · rintro ⟨result, rfl, disabled⟩
    rcases accepted_or_promoted with accepted | promoted
    · exact (accepted disabled).elim
    · rcases cases_of_promoted promoted with ⟨_, impossible⟩ | ⟨registered, off, _⟩ | ⟨_, accepted⟩
      · cases impossible
      · exact ⟨promoted, registered, off⟩
      · exact (accepted disabled).elim
  · rintro ⟨promoted, registered, off⟩
    rcases cases_of_promoted promoted with ⟨missing, _⟩ | ⟨_, _, refused⟩ | ⟨on, _⟩
    · exact (missing registered).elim
    · exact refused
    · exact (off on).elim
  · rintro ⟨kind, rfl⟩
    rcases accepted_or_promoted with accepted | promoted
    · exact (accepted kind rfl).elim
    · rcases cases_of_promoted promoted with ⟨missing, _⟩ | ⟨_, _, _, impossible, _⟩ | ⟨_, accepted⟩
      · exact ⟨promoted, missing⟩
      · cases impossible
      · exact (accepted kind rfl).elim
  · rintro ⟨promoted, missing⟩
    rcases cases_of_promoted promoted with ⟨_, failed⟩ | ⟨registered, _⟩ | ⟨on, _⟩
    · exact ⟨_, failed⟩
    · exact (missing registered).elim
    · exact (missing on.hasSender).elim

end Dispatch

/-! ## A message that is lost -/

/-- In surroundings with tables, answers keep to their subjects if outside channels do. -/
theorem keepsToSubject_of_mem_exchanges {α : Type} {answer : (request : Request) → request.Answer}
    (outside : ∀ channel payload result, answer (.deliver channel payload) = .ok result →
      ¬ result.IsDisabled)
    {program : Program α} {store : Store} {exchange : Exchange}
    (member : exchange ∈ program.exchanges (answerWith answer) store) :
    exchange.KeepsToSubject := by
  obtain ⟨reached, given⟩ := answer_of_mem_exchanges member
  obtain ⟨request, answered⟩ := exchange
  cases request with
  | service call =>
      cases answered with
      | ok response => trivial
      | error failure =>
          have isConflict := Store.conflict_of_respond given.symm
          rintro kind rfl
          cases isConflict
  | deliver channel payload =>
      cases answered with
      | ok result => exact outside channel payload result given.symm
      | error failure => trivial
  | _ => trivial

namespace Sample

/-- The configuration with telephone calls disabled and short messages through the gateway. -/
def gatewayConfig : Config :=
  { config with
    telephony := .default
    gateway := ⟨true, defaultGatewayUrl, "key", "source"⟩ }

/-- The dispatch of the message about the alert without telephone calls. -/
def lost : Program SendResult :=
  Dispatch.send (.complete ⟨⟨[], [], 10⟩, deliveries⟩ .supplied) (.ofProviders providers)
    gatewayConfig (alert "lost")

theorem isUsable_inbox :
    (Registry.ofProviders providers).IsUsable gatewayConfig (alert "lost").destination.kind :=
  ⟨Sms.channel none, rfl, rfl, rfl⟩

theorem exists_refusal :
    ∃ exchanges result, (∀ exchange ∈ exchanges, exchange.KeepsToSubject) ∧
      lost.Ends exchanges (.ok result) ∧ result.IsDisabled := by
  have passed : passes (fun result => decide result.IsDisabled)
      (lost.run (answerWith answer) tables).1 = true := by
    decide +kernel
  obtain ⟨result, outcome, refused⟩ := exists_of_passes passed
  have ended := ends_run (answerWith answer) lost tables
  rw [outcome] at ended
  have outside (channel : String) (payload : Payload) (result : SendResult)
      (given : answer (.deliver channel payload) = .ok result) : ¬ result.IsDisabled := by
    cases given
    exact SendResult.not_isDisabled_sent _ _
  exact ⟨_, result, fun exchange member => keepsToSubject_of_mem_exchanges outside member, ended,
    of_decide_eq_true refused⟩

end Sample

/-- A message is refused as one of a disabled type although its destination can be used. -/
theorem lost_although_usable :
    (Sample.alert "lost").type = .alert ∧
      (Registry.ofProviders Sample.providers).IsUsable Sample.gatewayConfig
        (Sample.alert "lost").destination.kind ∧
      ∃ exchanges result, (∀ exchange ∈ exchanges, exchange.KeepsToSubject) ∧
        Sample.lost.Ends exchanges (.ok result) ∧ result.IsDisabled :=
  ⟨rfl, Sample.isUsable_inbox, Sample.exists_refusal⟩

/-- The message is lost because it was promoted to telephones, which are disabled. -/
theorem lost_by_promotion :
    (∃ exchanges, Dispatch.Promoted (.complete ⟨⟨[], [], 10⟩, Sample.deliveries⟩ .supplied)
        Sample.gatewayConfig (Sample.alert "lost") exchanges) ∧
      (Registry.ofProviders Sample.providers).HasSender Voice.type ∧
      ¬ (Registry.ofProviders Sample.providers).IsUsable Sample.gatewayConfig Voice.type := by
  obtain ⟨exchanges, result, answered, ended, refused⟩ := Sample.exists_refusal
  obtain ⟨refused_iff, _⟩ :=
    Dispatch.usable_alert_refused_iff_promoted rfl Sample.isUsable_inbox ended answered
  obtain ⟨promoted, registered, disabled⟩ := refused_iff.mp ⟨result, rfl, refused⟩
  exact ⟨⟨exchanges, promoted⟩, registered, disabled⟩

end AlertRelay
