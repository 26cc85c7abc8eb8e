import AlertRelay.Dispatch.Build
import AlertRelay.Proofs.DeliveryRows
import AlertRelay.Proofs.PriorityPolicy

/-!
# Built messages

Building a message only looks things up.  The message that is sent is the given one, except that
the priority policy may redirect a message about an alert; only such a message can be the first
delivery for its alert and destination, and a status update carries the record of the first
delivery that was found for it.
-/

namespace AlertRelay

open Program

/-- The call that looks up the parameters of a signal message. -/
def SignalStore.readCall (store : SignalStore) (messageId : String) : ServiceCall :=
  store.tables.sent
    (.getItem store.table (.object [("message_id", Attribute.ofText messageId)]) [])

namespace BuildOutcome

section Requests

variable {allowed : Request → Prop} (routine : ∀ request, request.Routine → allowed request)
  (consulting : ∀ request, request.Consulting → allowed request)

theorem makes_lookup {α : Type} {operation : String} {program : Program α}
    (made : program.Makes allowed) : (lookup operation program).Makes allowed :=
  makes_rescue made fun _ => .fail _

theorem makes_asked {α : Type} {operation : String} {program : Program (Except Failure α)}
    (made : program.Makes allowed) : (ask operation program).Makes allowed :=
  makes_lookup (makes_bind made fun _ => makes_ofExcept)

include consulting

theorem makes_serviceInfo (message : Message) : (serviceInfo message).Makes allowed :=
  makes_bind (makes_asked (makes_request.mpr (consulting _ trivial))) fun _ => makes_ofExcept

theorem makes_alert (message : Message) : (alert message).Makes allowed :=
  makes_asked (makes_request.mpr (consulting _ trivial))

include routine

theorem makes_ofBundle (message : Message) : (ofBundle message).Makes allowed := by
  refine makes_bind (makes_serviceInfo consulting message) fun ⟨name, count⟩ => ?_
  dsimp only
  split
  · exact makes_reported routine _ _ _ _ _
  · exact makes_bind makes_ofExcept fun _ => .done _

theorem makes_ofAlert (contacts : ∀ userId, allowed (.contactMethods userId)) {site : Site}
    (read : ∀ alertId destination, allowed (.service (site.ledger.readCall alertId destination)))
    (message : Message) (config : Config) : (ofAlert site message config).Makes allowed := by
  refine makes_bind (makes_serviceInfo consulting message) fun parts => ?_
  refine makes_bind (makes_alert consulting message) fun alert => ?_
  refine makes_bind (makes_asked (makes_request.mpr (consulting _ trivial))) fun metadata => ?_
  refine makes_bind (Priority.makes_apply routine contacts) fun decision => ?_
  dsimp only
  split
  · exact makes_reported routine _ _ _ _ _
  · refine makes_bind (Ledger.makes_firstDelivery routine (read _ _)) fun recorded => ?_
    exact makes_bind makes_ofExcept fun _ => .done _

theorem makes_ofStatus {site : Site} {message : Message}
    (read : allowed
      (.service (site.ledger.readCall message.alertId message.destinationId))) :
    (ofStatus site message).Makes allowed := by
  refine makes_bind (makes_asked (makes_request.mpr (consulting _ trivial))) fun entry => ?_
  refine makes_bind (makes_alert consulting message) fun alert => ?_
  refine makes_bind (Ledger.makes_firstDelivery routine read) fun recorded => ?_
  cases recorded with
  | none => exact .fail _
  | some record => exact .done _

omit routine in
theorem makes_ofVerification (message : Message) : (ofVerification message).Makes allowed := by
  refine makes_bind (makes_asked (makes_request.mpr (consulting _ trivial))) fun code => ?_
  exact makes_bind makes_ofExcept fun _ => .done _

omit routine in
theorem makes_ofRoster (message : Message) (config : Config) :
    (ofRoster message config).Makes allowed := by
  refine makes_bind (makes_asked (makes_request.mpr (consulting _ trivial))) fun users => ?_
  exact makes_bind (makes_asked (makes_request.mpr (consulting _ trivial))) fun schedule => .done _

omit routine consulting in
theorem makes_signalParameters (data : Json) : (signalParameters data).Makes allowed := by
  cases data with
  | object members =>
      dsimp only [signalParameters]
      split
      · exact makes_ofExcept
      · exact .fail _
  | _ => exact .fail _

omit consulting in
theorem makes_checkedText (messageId : String) (item : Json) :
    (SignalStore.checkedText messageId item).Makes allowed := by
  refine makes_bind makes_ofExcept fun raw => ?_
  split
  · split
    · exact .done _
    · exact .fail _
    · exact makes_bind (makes_log_of_routine routine _ _ _ _) fun _ => .fail _
  · exact .fail _

theorem makes_parameters {source : SignalSource}
    (stored : ∀ store messageId, source = .stored store →
      allowed (.service (store.readCall messageId)))
    (id : Identifier) : (source.parameters id).Makes allowed := by
  cases source with
  | supplied => exact makes_bind (makes_request.mpr (consulting _ trivial)) fun _ => makes_ofExcept
  | stored store =>
      refine makes_bind (makes_bind (TableClient.makes_getItem routine (stored store _ rfl))
        fun outcome => ?_) fun _ => .done _
      split
      · refine makes_bind makes_ofExcept fun item => ?_
        cases item with
        | none => exact .fail _
        | some item => exact makes_checkedText routine _ _
      · exact .fail _

theorem makes_ofSignal {site : Site}
    (stored : ∀ store messageId, site.signals = .stored store →
      allowed (.service (store.readCall messageId)))
    (message : Message) : (ofSignal site message).Makes allowed := by
  refine makes_bind (makes_lookup makes_ofExcept) fun id => ?_
  refine makes_bind (makes_lookup (makes_parameters routine consulting stored _)) fun raw => ?_
  refine makes_bind (makes_lookup makes_ofExcept) fun data => ?_
  exact makes_bind (makes_signalParameters data) fun parameters => .done _

/-- Building a message other than about an alert reports and looks up, and reads at most the row of
its own delivery. -/
theorem makes_ofOther {site : Site} {message : Message} (noAlert : message.type ≠ .alert)
    (read : message.type = .alertStatus →
      allowed (.service (site.ledger.readCall message.alertId message.destinationId)))
    (stored : ∀ store messageId, site.signals = .stored store →
      allowed (.service (store.readCall messageId)))
    (config : Config) : (ofMessage site message config).Makes allowed := by
  dsimp only [ofMessage]
  split
  · split
    · rename_i isAlert
      exact absurd isAlert noAlert
    · exact makes_ofBundle routine consulting message
    · rename_i isStatus
      exact makes_ofStatus routine consulting (read isStatus)
    · exact .done _
    · exact makes_ofVerification consulting message
    · exact makes_ofRoster consulting message config
    · exact makes_ofSignal routine consulting stored message
  · exact makes_reported routine _ _ _ _ _

omit consulting in
/-- Building a message reports and looks up, and does nothing else. -/
theorem makes_ofMessage (reading : ∀ request, request.Reading → allowed request) (site : Site)
    (message : Message) (config : Config) : (ofMessage site message config).Makes allowed := by
  have consulting (request : Request) (consulted : request.Consulting) : allowed request :=
    reading request consulted.reading
  by_cases isAlert : message.type = .alert
  · dsimp only [ofMessage]
    rw [isAlert]
    split
    · exact makes_ofAlert routine consulting (fun _ => reading _ trivial)
        (fun _ _ => reading _ trivial) message config
    · exact makes_reported routine _ _ _ _ _
  · exact makes_ofOther routine consulting isAlert (fun _ => reading _ trivial)
      (fun _ _ _ => reading _ trivial) config

end Requests

/-- The outcome of a message that keeps its destination and is not a first delivery. -/
inductive Plain (message : Message) : BuildOutcome → Prop
  | refused (detail : String) : Plain message (refuse message detail)
  | carried (content : Content) : Plain message (carry message content false)

theorem returns_ofBundle (message : Message) : (ofBundle message).Returns (Plain message) := by
  refine returns_bind fun ⟨name, count⟩ => ?_
  dsimp only
  split
  · exact returns_bind fun _ => .done (.refused _)
  · exact returns_bind fun content => .done (.carried _)

theorem returns_ofStatus (site : Site) (message : Message) :
    (ofStatus site message).Returns (Plain message) := by
  refine returns_bind fun entry => returns_bind fun alert => returns_bind fun found => ?_
  cases found with
  | none => exact .fail _
  | some record => exact .done (.carried _)

theorem returns_ofVerification (message : Message) :
    (ofVerification message).Returns (Plain message) :=
  returns_bind fun _ => returns_bind fun _ => .done (.carried _)

theorem returns_ofRoster (message : Message) (config : Config) :
    (ofRoster message config).Returns (Plain message) :=
  returns_bind fun _ => returns_bind fun _ => .done (.carried _)

theorem returns_ofSignal (site : Site) (message : Message) :
    (ofSignal site message).Returns (Plain message) :=
  returns_bind fun _ => returns_bind fun _ => returns_bind fun _ => returns_bind fun _ =>
    .done (.carried _)

/-- Only messages about alerts can be redirected or be first deliveries. -/
theorem returns_ofMessage (site : Site) {message : Message} (config : Config)
    (noAlert : message.type ≠ .alert) :
    (ofMessage site message config).Returns (Plain message) := by
  dsimp only [ofMessage]
  split
  · split
    · rename_i isAlert
      exact absurd isAlert noAlert
    · exact returns_ofBundle message
    · exact returns_ofStatus site message
    · exact .done (.carried _)
    · exact returns_ofVerification message
    · exact returns_ofRoster message config
    · exact returns_ofSignal site message
  · exact returns_bind fun _ => .done (.refused _)

/-- The outcomes of messages about alerts: the policy decided on the metadata that was found, and
then the message is suppressed, or carried as a first delivery unless another one is recorded. -/
inductive OfAlert (site : Site) (message : Message) (config : Config)
    (exchanges : List Exchange) : BuildOutcome → Prop
  | suppressed {metadata : Json} {decision : Priority.Decision}
      (answered : ⟨.alertMetadata message.alertId, .ok metadata⟩ ∈ exchanges)
      (decided : Priority.Decides config.priorityKey config.priorityValue metadata message
        exchanges decision)
      (isSuppressed : decision.isSuppressed = true) :
      OfAlert site message config exchanges (refuse decision.message suppressedDetail)
  | carried {metadata : Json} {decision : Priority.Decision}
      (answered : ⟨.alertMetadata message.alertId, .ok metadata⟩ ∈ exchanges)
      (decided : Priority.Decides config.priorityKey config.priorityValue metadata message
        exchanges decision)
      (isCarried : decision.isSuppressed = false)
      {before looked : List Exchange} {found : Option DeliveryRecord}
      (inOrder : exchanges = before ++ looked)
      (lookedUp : (site.ledger.firstDelivery decision.message.alertId
        decision.message.destinationId).Ends looked (.ok found))
      {alert : Alert} {name : Json} {content : AlertContent}
      (worded : alertContent alert name metadata
        (found.filter fun record => record.messageId != decision.message.id) = .valid content) :
      OfAlert site message config exchanges
        (carry decision.message (.alert content)
          (found.filter fun record => record.messageId != decision.message.id).isNone)

@[simp]
theorem ends_lookup_ok {α : Type} {operation : String} {program : Program α}
    {exchanges : List Exchange} {value : α} :
    (lookup operation program).Ends exchanges (.ok value) ↔ program.Ends exchanges (.ok value) := by
  simp [lookup, ends_rescue]

/-- A failure of a lookup names its operation. -/
theorem ends_lookup_error {α : Type} {operation : String} {program : Program α}
    {exchanges : List Exchange} {failure : Failure} :
    (lookup operation program).Ends exchanges (.error failure) ↔
      ∃ cause, program.Ends exchanges (.error cause) ∧
        failure = .lookup (.text operation) (.text cause.text) := by
  rw [lookup, ends_rescue]
  constructor
  · rintro (⟨_, _, ⟨⟩⟩ | ⟨first, second, cause, rfl, failed, ended⟩)
    obtain ⟨rfl, same⟩ := ends_fail.mp ended
    exact ⟨cause, by simpa using failed, Except.error.inj same⟩
  · rintro ⟨cause, failed, rfl⟩
    exact .inr ⟨exchanges, [], cause, by simp, failed, by simp⟩

@[simp]
theorem ends_asked_ok {α : Type} {operation : String} {program : Program (Except Failure α)}
    {exchanges : List Exchange} {value : α} :
    (ask operation program).Ends exchanges (.ok value) ↔
      program.Ends exchanges (.ok (.ok value)) := by
  rw [ask, ends_lookup_ok, ends_bind_ok]
  constructor
  · rintro ⟨first, second, result, rfl, ended, rest⟩
    obtain ⟨rfl, same⟩ := ends_ofExcept.mp rest
    simpa [← same] using ended
  · intro ended
    exact ⟨exchanges, [], .ok value, by simp, ended, by simp⟩

/-- The questions about the service and the alert of a message, which come first. -/
def consulted (message : Message) (name count : Json) (alert : Alert) (metadata : Json) :
    List Exchange :=
  [⟨.serviceInfo message.serviceId, .ok [name, count]⟩, ⟨.alert message.alertId, .ok alert⟩,
    ⟨.alertMetadata message.alertId, .ok metadata⟩]

/-- The exchanges for a message about an alert in their order: the questions, those of the policy,
and those for the first delivery unless the message is suppressed. -/
inductive AlertSteps (site : Site) (message : Message) (config : Config) :
    List Exchange → BuildOutcome → Prop
  | suppressed {name count metadata : Json} {alert : Alert} {decision : Priority.Decision}
      {policy later : List Exchange}
      (decided : (Priority.apply config.priorityKey config.priorityValue metadata message).Ends
        policy (.ok decision))
      (isSuppressed : decision.isSuppressed = true)
      (routine : ∀ exchange ∈ later, exchange.request.Routine) :
      AlertSteps site message config
        (consulted message name count alert metadata ++ policy ++ later)
        (refuse decision.message suppressedDetail)
  | carried {name count metadata : Json} {alert : Alert} {decision : Priority.Decision}
      {policy looked : List Exchange}
      (decided : (Priority.apply config.priorityKey config.priorityValue metadata message).Ends
        policy (.ok decision))
      (isCarried : decision.isSuppressed = false) {found : Option DeliveryRecord}
      (lookedUp : (site.ledger.firstDelivery decision.message.alertId
        decision.message.destinationId).Ends looked (.ok found))
      {content : AlertContent}
      (worded : alertContent alert name metadata
        (found.filter fun record => record.messageId != decision.message.id) = .valid content) :
      AlertSteps site message config
        (consulted message name count alert metadata ++ policy ++ looked)
        (carry decision.message (.alert content)
          (found.filter fun record => record.messageId != decision.message.id).isNone)

theorem ends_serviceInfo_ok {message : Message} {exchanges : List Exchange} {name count : Json}
    (ended : (serviceInfo message).Ends exchanges (.ok (name, count))) :
    exchanges = [⟨.serviceInfo message.serviceId, .ok [name, count]⟩] := by
  obtain ⟨asked, last, parts, rfl, found, read⟩ := ends_bind_ok.mp ended
  obtain ⟨answer, rfl, same⟩ := ends_request.mp (ends_asked_ok.mp found)
  cases same
  obtain ⟨rfl, isPair⟩ := ends_ofExcept.mp read
  unfold serviceParts at isPair
  split at isPair
  · cases isPair
    rfl
  · cases isPair

theorem steps_of_ends_ofAlert {site : Site} {message : Message} {config : Config}
    {exchanges : List Exchange} {outcome : BuildOutcome}
    (ended : (ofAlert site message config).Ends exchanges (.ok outcome)) :
    AlertSteps site message config exchanges outcome := by
  obtain ⟨info, _, ⟨name, count⟩, rfl, foundInfo, endedAlert⟩ := ends_bind_ok.mp ended
  obtain ⟨alerted, _, alert, rfl, foundAlert, endedMetadata⟩ := ends_bind_ok.mp endedAlert
  obtain ⟨asked, _, metadata, rfl, foundMetadata, endedPolicy⟩ := ends_bind_ok.mp endedMetadata
  obtain ⟨policy, _, decision, rfl, decided, endedBuild⟩ := ends_bind_ok.mp endedPolicy
  obtain rfl := ends_serviceInfo_ok foundInfo
  obtain ⟨_, rfl, sameAlert⟩ := ends_request.mp (ends_asked_ok.mp foundAlert)
  cases sameAlert
  obtain ⟨_, rfl, sameMetadata⟩ := ends_request.mp (ends_asked_ok.mp foundMetadata)
  cases sameMetadata
  dsimp only at endedBuild
  split at endedBuild
  · rename_i isSuppressed
    obtain ⟨later, rfl, last⟩ := ends_log_bind.mp endedBuild
    obtain ⟨rfl, same⟩ := ends_done.mp last
    cases same
    change AlertSteps site message config
      (consulted message name count alert metadata ++ policy ++ _) _
    exact .suppressed decided isSuppressed (List.forall_mem_singleton.mpr trivial)
  · rename_i isCarried
    obtain ⟨looked, _, found, rfl, lookedUp, endedContent⟩ := ends_bind_ok.mp endedBuild
    obtain ⟨checked, last, content, rfl, worded, endedCarry⟩ := ends_bind_ok.mp endedContent
    obtain ⟨rfl, valid⟩ := ends_ofChecked_ok.mp worded
    obtain ⟨rfl, same⟩ := ends_done.mp endedCarry
    cases same
    rw [List.append_nil, List.append_nil]
    change AlertSteps site message config
      (consulted message name count alert metadata ++ policy ++ looked) _
    exact .carried decided (by simpa using isCarried) lookedUp valid

/-- A message about an alert that is built has one of the outcomes for alerts. -/
theorem ofAlert_of_ends {site : Site} {message : Message} {config : Config}
    {exchanges : List Exchange} {outcome : BuildOutcome}
    (ended : (ofAlert site message config).Ends exchanges (.ok outcome)) :
    OfAlert site message config exchanges outcome := by
  cases steps_of_ends_ofAlert ended with
  | suppressed decided isSuppressed _ =>
      refine .suppressed (by simp [consulted]) ((Priority.decides_of_ends_apply decided).mono ?_)
        isSuppressed
      intro exchange made
      simp [made]
  | carried decided isCarried lookedUp worded =>
      refine .carried (by simp [consulted]) ((Priority.decides_of_ends_apply decided).mono ?_)
        isCarried rfl lookedUp worded
      intro exchange made
      simp [made]

/-- What a payload about an alert refers to is what it was made from. -/
theorem firstDelivery_of_alertContent {alert : Alert} {name metadata : Json}
    {firstDelivery : Option DeliveryRecord} {content : AlertContent}
    (worded : alertContent alert name metadata firstDelivery = .valid content) :
    content.firstDelivery = firstDelivery := by
  simp only [alertContent, Checked.seq_eq_valid, Checked.map_eq_valid] at worded
  obtain ⟨_, _, ⟨_, _, rfl⟩, _, rfl⟩ := worded
  rfl

/-- A message about an alert of a registered type is built as one. -/
theorem ofMessage_alert {site : Site} {message : Message} (config : Config)
    (registered : site.types.contains .alert = true) (isAlert : message.type = .alert) :
    ofMessage site message config = ofAlert site message config := by
  simp only [ofMessage, isAlert, registered, if_true]

/-- A status update of a registered type is built as one. -/
theorem ofMessage_status {site : Site} {message : Message} (config : Config)
    (registered : site.types.contains .alertStatus = true)
    (isStatus : message.type = .alertStatus) :
    ofMessage site message config = ofStatus site message := by
  simp only [ofMessage, isStatus, registered, if_true]

/-- A status update that is built carries the record of the first delivery that was found. -/
theorem ofStatus_of_ends {site : Site} {message : Message} {exchanges : List Exchange}
    {outcome : BuildOutcome} (ended : (ofStatus site message).Ends exchanges (.ok outcome)) :
    ∃ before looked record alert entry, exchanges = before ++ looked ∧
      (site.ledger.firstDelivery message.alertId message.destinationId).Ends looked
        (.ok (some record)) ∧
      outcome = carry message
        (.alertStatus
          { alertId := message.alertId
            serviceId := alert.serviceId
            logEntry := LogEntry.message entry
            summary := Alert.summary alert
            details := alert.details
            newState := (LogEntry.kind entry).alertState
            firstDelivery := record })
        false := by
  obtain ⟨asked, afterAsked, entry, rfl, _, endedAlert⟩ := ends_bind_ok.mp ended
  obtain ⟨alerted, afterAlert, alert, rfl, _, endedLookup⟩ := ends_bind_ok.mp endedAlert
  obtain ⟨looked, last, found, rfl, lookedUp, endedCarry⟩ := ends_bind_ok.mp endedLookup
  cases found with
  | none => simp at endedCarry
  | some record =>
      obtain ⟨rfl, same⟩ := ends_done.mp endedCarry
      cases same
      exact ⟨asked ++ alerted, looked, record, alert, entry, by simp, lookedUp, rfl⟩

end BuildOutcome
end AlertRelay
