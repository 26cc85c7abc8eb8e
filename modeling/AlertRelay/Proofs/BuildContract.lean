import AlertRelay.Proofs.Surroundings

/-!
# The contract of building

Whatever the type of a message and the answers about it, what is built fits the message: a payload
is of its type and goes to the destination of the message that is sent, and a result is a permanent
failure without any payload.  Sending, logging and recording rely on it.
-/

namespace AlertRelay

open Program

theorem Priority.Decides.isSuppressed_iff {key value : String} {metadata : Json}
    {message : Message} {exchanges : List Exchange} {decision : Decision}
    (decided : Decides key value metadata message exchanges decision) :
    decision.isSuppressed = true ↔
      key ≠ "" ∧ value ≠ "" ∧ ¬ Labelled key value metadata ∧
        isVoice message.destination = true := by
  cases decided with
  | off unset =>
      constructor
      · nofun
      · rintro ⟨keySet, valueSet, _⟩
        exact (unset.elim keySet valueSet).elim
  | unlabelled keySet valueSet lacking =>
      exact ⟨fun voice => ⟨keySet, valueSet, lacking, voice⟩, fun ⟨_, _, _, voice⟩ => voice⟩
  | kept keySet valueSet labelled | promoted keySet valueSet labelled _ _ _ _ _ =>
      constructor
      · nofun
      · rintro ⟨_, _, lacking, _⟩
        exact (lacking labelled).elim

theorem Priority.Decides.message_eq_of_isSuppressed {key value : String} {metadata : Json}
    {message : Message} {exchanges : List Exchange} {decision : Decision}
    (decided : Decides key value metadata message exchanges decision)
    (isSuppressed : decision.isSuppressed = true) : decision.message = message := by
  cases decided with
  | promoted => cases isSuppressed
  | _ => rfl

namespace BuildOutcome

/-! ## What the answers say about a message -/

/-- The service of a bundle has no open alerts. -/
def Resolved (message : Message) (exchanges : List Exchange) : Prop :=
  message.type = .alertBundle ∧ ∃ name count,
    ⟨.serviceInfo message.serviceId, .ok [name, count]⟩ ∈ exchanges ∧
      count.same (.integer 0) = true

/-- The metadata of the alert was found, and the policy is on. -/
def Judged (message : Message) (config : Config) (exchanges : List Exchange) (metadata : Json) :
    Prop :=
  message.type = .alert ∧ config.priorityKey ≠ "" ∧ config.priorityValue ≠ "" ∧
    ⟨.alertMetadata message.alertId, .ok metadata⟩ ∈ exchanges

/-- The message would ring a telephone for an alert without the priority label. -/
def Suppressed (message : Message) (config : Config) (exchanges : List Exchange) : Prop :=
  Priority.isVoice message.destination = true ∧ ∃ metadata,
    Judged message config exchanges metadata ∧
      ¬ Priority.Labelled config.priorityKey config.priorityValue metadata

def IsUrgent (message : Message) (config : Config) (exchanges : List Exchange) : Prop :=
  ∃ metadata, Judged message config exchanges metadata ∧
    Priority.Labelled config.priorityKey config.priorityValue metadata

/-- The message goes to one of the contact methods that were found for its user, with the destination
and the id of that one, and is the same otherwise. -/
def Redirected (message : Message) (exchanges : List Exchange) (sent : Message) : Prop :=
  ∃ userId methods method nonempty, message.userId = some userId ∧
    ⟨.contactMethods userId, .ok methods⟩ ∈ exchanges ∧ method ∈ methods ∧
    sent = { message with
      destination := ContactMethod.destination method
      destinationId := .contactMethod method.id nonempty }

/-- What can be relied on when a message was built. -/
structure Contract (given : Message) (config : Config) (exchanges : List Exchange)
    (outcome : BuildOutcome) : Prop where
  either : (∃ payload isFirst, outcome.build = .payload payload isFirst) ↔
    ¬ ∃ result, outcome.build = .result result
  payload : ∀ payload isFirst, outcome.build = .payload payload isFirst →
    payload.content.messageType? = some given.type ∧ payload.id = given.id ∧
      payload.userId = given.userId ∧ payload.destination = outcome.message.destination
  first : ∀ payload isFirst, outcome.build = .payload payload isFirst →
    (isFirst = true ↔ ∃ content, payload.content = .alert content ∧ content.firstDelivery = none)
  message : outcome.message = given ∨
    IsUrgent given config exchanges ∧ Redirected given exchanges outcome.message
  result : ∀ result, outcome.build = .result result →
    result.state = .failedPermanently ∧ result.messageId = given.id ∧
      ∀ exchange ∈ exchanges, ∀ call, exchange.request ≠ .service call
  refused : (∃ result, outcome.build = .result result) ↔
    Resolved given exchanges ∨ Suppressed given config exchanges

/-! ## Messages of other types -/

section Others

variable {site : Site} {message : Message} {config : Config} {exchanges : List Exchange}
  {outcome : BuildOutcome}

/-- A message of a type that is never refused is carried with content of its type. -/
theorem returns_carried (registered : site.types.contains message.type = true)
    (noAlert : message.type ≠ .alert) (noBundle : message.type ≠ .alertBundle) :
    (ofMessage site message config).Returns fun outcome => ∃ content,
      content.messageType? = some message.type ∧ outcome = carry message content false := by
  rw [ofMessage, if_pos registered]
  cases type : message.type with
  | alert => exact (noAlert type).elim
  | alertBundle => exact (noBundle type).elim
  | alertStatus =>
      refine returns_bind fun entry => returns_bind fun alert => returns_bind fun found => ?_
      cases found with
      | none => exact .fail _
      | some record => exact .done ⟨_, rfl, rfl⟩
  | test => exact .done ⟨_, rfl, rfl⟩
  | verification => exact returns_bind fun _ => returns_bind fun _ => .done ⟨_, rfl, rfl⟩
  | onCallUsers => exact returns_bind fun _ => returns_bind fun _ => .done ⟨_, rfl, rfl⟩
  | signal =>
      exact returns_bind fun _ => returns_bind fun _ => returns_bind fun _ => returns_bind fun _ =>
        .done ⟨_, rfl, rfl⟩

theorem contract_of_carried {content : Content}
    (typed : content.messageType? = some message.type) (noAlert : message.type ≠ .alert)
    (unresolved : ¬ Resolved message exchanges) :
    Contract message config exchanges (carry message content false) := by
  constructor
  · simp [carry]
  · rintro payload isFirst ⟨⟩
    exact ⟨typed, rfl, rfl, rfl⟩
  · rintro payload isFirst ⟨⟩
    constructor
    · nofun
    · rintro ⟨alert, isAlert, _⟩
      have content : content = .alert alert := isAlert
      rw [content] at typed
      exact (noAlert (Option.some.inj typed).symm).elim
  · exact .inl rfl
  · rintro result ⟨⟩
  · constructor
    · rintro ⟨_, ⟨⟩⟩
    · rintro (resolved | ⟨_, _, judged, _⟩)
      · exact (unresolved resolved).elim
      · exact (noAlert judged.1).elim

theorem contract_of_refused {detail : String}
    (refused : Resolved message exchanges ∨ Suppressed message config exchanges)
    (unread : ∀ exchange ∈ exchanges, ∀ call, exchange.request ≠ .service call) :
    Contract message config exchanges (refuse message detail) := by
  constructor
  · simp [refuse]
  · rintro payload isFirst ⟨⟩
  · rintro payload isFirst ⟨⟩
  · exact .inl rfl
  · rintro result ⟨⟩
    exact ⟨rfl, rfl, unread⟩
  · exact ⟨fun _ => refused, fun _ => ⟨_, rfl⟩⟩

theorem contract_of_ends_ofBundle (isBundle : message.type = .alertBundle)
    (ended : (ofBundle message).Ends exchanges (.ok outcome)) :
    Contract message config exchanges outcome := by
  obtain ⟨asked, later, ⟨name, count⟩, rfl, found, endedRest⟩ := ends_bind_ok.mp ended
  obtain rfl := ends_serviceInfo_ok found
  dsimp only at endedRest
  split at endedRest
  · rename_i none
    obtain ⟨last, rfl, endedDone⟩ := ends_log_bind.mp endedRest
    obtain ⟨rfl, same⟩ := ends_done.mp endedDone
    cases same
    refine contract_of_refused (.inl ⟨isBundle, name, count, List.mem_cons_self, none⟩) ?_
    intro exchange made call
    rcases List.mem_cons.mp made with rfl | last
    · rintro ⟨⟩
    · obtain rfl := List.mem_singleton.mp last
      rintro ⟨⟩
  · rename_i some
    obtain ⟨checked, last, content, rfl, worded, endedCarry⟩ := ends_bind_ok.mp endedRest
    obtain ⟨rfl, _⟩ := ends_ofChecked_ok.mp worded
    obtain ⟨rfl, same⟩ := ends_done.mp endedCarry
    cases same
    refine contract_of_carried (by rw [isBundle]; rfl) (by rw [isBundle]; nofun) ?_
    rintro ⟨_, _, other, made, resolved⟩
    cases List.mem_singleton.mp made
    exact some resolved

end Others

/-! ## Messages about alerts -/

section Alerts

variable {site : Site} {message : Message} {config : Config} {exchanges : List Exchange}
  {outcome : BuildOutcome}

theorem request_of_policy {key value : String} {metadata : Json} {exchange : Exchange}
    {result : Except Failure Priority.Decision}
    (decided : (Priority.apply key value metadata message).Ends exchanges result)
    (made : exchange ∈ exchanges) :
    exchange.request.Routine ∨ ∃ userId, exchange.request = .contactMethods userId := by
  have makes : (Priority.apply key value metadata message).Makes fun request =>
      request.Routine ∨ ∃ userId, request = .contactMethods userId :=
    Priority.makes_apply (fun _ => .inl) fun userId => .inr ⟨userId, rfl⟩
  exact makes.of_mem decided made

theorem request_of_lookup {ledger : Ledger} {alertId : Int} {destination : DestinationId}
    {exchange : Exchange} {result : Except Failure (Option DeliveryRecord)}
    (lookedUp : (ledger.firstDelivery alertId destination).Ends exchanges result)
    (made : exchange ∈ exchanges) :
    exchange.request.Routine ∨
      exchange.request = .service (ledger.readCall alertId destination) := by
  have makes : (ledger.firstDelivery alertId destination).Makes fun request =>
      request.Routine ∨ request = .service (ledger.readCall alertId destination) :=
    Ledger.makes_firstDelivery (fun _ => .inl) (.inr rfl)
  exact makes.of_mem lookedUp made

/-- For an alert that is carried, the metadata was asked for once. -/
theorem metadata_eq_of_mem {name count metadata other : Json} {alert : Alert}
    {policy looked : List Exchange} {decision : Except Failure Priority.Decision}
    {found : Except Failure (Option DeliveryRecord)} {ledger : Ledger} {alertId : Int}
    {destination : DestinationId}
    (decided : (Priority.apply config.priorityKey config.priorityValue metadata message).Ends policy
      decision)
    (lookedUp : (ledger.firstDelivery alertId destination).Ends looked found)
    (made : ⟨.alertMetadata message.alertId, .ok other⟩ ∈
      consulted message name count alert metadata ++ policy ++ looked) : other = metadata := by
  rcases List.mem_append.mp made with earlier | last
  · rcases List.mem_append.mp earlier with asked | judged
    · simp only [consulted, List.mem_cons, List.not_mem_nil, or_false] at asked
      rcases asked with same | same | same
      · cases same
      · cases same
      · cases same
        rfl
    · rcases request_of_policy decided judged with routine | ⟨_, ⟨⟩⟩
      exact routine.elim
  · rcases request_of_lookup lookedUp last with routine | same
    · exact routine.elim
    · cases same

/-- The message that the policy decides to send is the given one, or it is redirected. -/
theorem kept_or_redirected {metadata : Json} {decision : Priority.Decision}
    (isAlert : message.type = .alert)
    (answered : ⟨.alertMetadata message.alertId, .ok metadata⟩ ∈ exchanges)
    (decided : Priority.Decides config.priorityKey config.priorityValue metadata message exchanges
      decision) :
    decision.message = message ∨
      IsUrgent message config exchanges ∧ Redirected message exchanges decision.message := by
  cases decided with
  | promoted keySet valueSet labelled _ ofUser found first nonempty =>
      right
      constructor
      · exact ⟨metadata, ⟨isAlert, keySet, valueSet, answered⟩, labelled⟩
      · exact ⟨_, _, _, nonempty, ofUser, found, List.mem_of_find?_eq_some first, rfl⟩
  | _ => exact .inl rfl

theorem contract_of_steps (isAlert : message.type = .alert)
    (steps : AlertSteps site message config exchanges outcome) :
    Contract message config exchanges outcome := by
  cases steps with
  | @suppressed name count metadata alert decision policy later decided isSuppressed routine =>
      have answered : ⟨.alertMetadata message.alertId, .ok metadata⟩ ∈
          consulted message name count alert metadata ++ policy ++ later := by
        simp [consulted]
      have decides := Priority.decides_of_ends_apply decided
      obtain ⟨keySet, valueSet, lacking, voice⟩ := decides.isSuppressed_iff.mp isSuppressed
      rw [decides.message_eq_of_isSuppressed isSuppressed]
      refine contract_of_refused
        (.inr ⟨voice, metadata, ⟨isAlert, keySet, valueSet, answered⟩, lacking⟩) ?_
      rintro ⟨request, answer⟩ made call rfl
      rcases List.mem_append.mp made with asked | last
      · rcases List.mem_append.mp asked with first | judged
        · simp [consulted] at first
        · rcases request_of_policy decided judged with routine | ⟨_, ⟨⟩⟩
          exact routine.elim
      · exact (routine _ last).elim
  | @carried name count metadata alert decision policy looked decided isCarried found lookedUp
      content worded =>
      have answered : ⟨.alertMetadata message.alertId, .ok metadata⟩ ∈
          consulted message name count alert metadata ++ policy ++ looked := by
        simp [consulted]
      have decides := (Priority.decides_of_ends_apply decided).mono
        (fun _ made => List.mem_append_left _ (List.mem_append_right _ made) :
          policy ⊆ consulted message name count alert metadata ++ policy ++ looked)
      have kept := kept_or_redirected isAlert answered decides
      constructor
      · simp [carry]
      · rintro payload isFirst ⟨⟩
        have fields : decision.message.id = message.id ∧
            decision.message.userId = message.userId := by
          rcases kept with same | ⟨_, _, _, _, _, _, _, _, same⟩ <;> rw [same] <;> exact ⟨rfl, rfl⟩
        exact ⟨congrArg some isAlert.symm, fields.1, fields.2, rfl⟩
      · rintro payload isFirst ⟨⟩
        rw [Option.isNone_iff_eq_none, ← firstDelivery_of_alertContent worded]
        constructor
        · exact fun none => ⟨content, rfl, none⟩
        · rintro ⟨other, same, none⟩
          cases same
          exact none
      · exact kept
      · rintro result ⟨⟩
      · constructor
        · rintro ⟨_, ⟨⟩⟩
        · rintro (⟨isBundle, _⟩ | ⟨voice, other, ⟨_, keySet, valueSet, found⟩, lacking⟩)
          · rw [isAlert] at isBundle
            cases isBundle
          · -- The answer that would suppress the message is the one that the policy was given.
            obtain rfl := metadata_eq_of_mem decided lookedUp found
            have isSuppressed := decides.isSuppressed_iff.mpr ⟨keySet, valueSet, lacking, voice⟩
            rw [isCarried] at isSuppressed
            cases isSuppressed

end Alerts

/-- A message whose type has a way to a payload is built to the contract. -/
theorem contract_of_registered {site : Site} {message : Message} {config : Config}
    {exchanges : List Exchange} {outcome : BuildOutcome}
    (registered : site.types.contains message.type = true)
    (ended : (ofMessage site message config).Ends exchanges (.ok outcome)) :
    Contract message config exchanges outcome := by
  by_cases isAlert : message.type = .alert
  · rw [isAlert] at registered
    rw [ofMessage_alert config registered isAlert] at ended
    exact contract_of_steps isAlert (steps_of_ends_ofAlert ended)
  by_cases isBundle : message.type = .alertBundle
  · rw [ofMessage, if_pos registered, isBundle] at ended
    exact contract_of_ends_ofBundle isBundle ended
  obtain ⟨content, typed, rfl⟩ := (returns_carried registered isAlert isBundle).of_ends ended
  exact contract_of_carried typed isAlert fun resolved => isBundle resolved.1

/-- Where every type has a way to a payload, every message that is built keeps to the contract. -/
theorem contract_of_ends_ofMessage {ledger : Ledger} {signals : SignalSource} {message : Message}
    {config : Config} {exchanges : List Exchange} {outcome : BuildOutcome}
    (ended : (ofMessage (.complete ledger signals) message config).Ends exchanges (.ok outcome)) :
    Contract message config exchanges outcome := by
  have registered (type : MessageType) : MessageType.all.contains type = true := by
    cases type <;> rfl
  exact contract_of_registered (registered message.type) ended

/-- An alert with the label is built for the telephone of its user. -/
theorem contract_of_promoted :
    ∃ exchanges outcome,
      (ofMessage Sample.site (Sample.alert "alert") Sample.config).Ends exchanges (.ok outcome) ∧
      outcome.message.destination = Sample.telephone ∧
      Contract (Sample.alert "alert") Sample.config exchanges outcome := by
  have passed : passes (fun outcome => decide (outcome.message.destination = Sample.telephone))
      ((ofMessage Sample.site (Sample.alert "alert") Sample.config).run
        (answerWith Sample.answer) Sample.tables).1 = true := by
    decide +kernel
  obtain ⟨outcome, ended, toTelephone⟩ := ends_of_passes passed
  exact ⟨_, outcome, ended, of_decide_eq_true toTelephone, contract_of_ends_ofMessage ended⟩

end BuildOutcome
end AlertRelay
