import AlertRelay.Proofs.DispatchStages

/-!
# Sent messages

What a dispatch sends keeps the id and the alert of its message.  Only a message about an alert is
sent as a first delivery, and only the row of a first delivery that succeeded is ever stored.
-/

namespace AlertRelay

open Program

/-- Among the exchanges, metadata with the label was found for the alert. -/
def FoundLabel (key value : String) (alertId : Int) (exchanges : List Exchange) : Prop :=
  ∃ members, (⟨.alertMetadata alertId, .ok (.object members)⟩ : Exchange) ∈ exchanges ∧
    members.lookup key = some (.text value)

namespace Priority

theorem Labelled.foundLabel {key value : String} {metadata : Json} {alertId : Int}
    {exchanges : List Exchange} (labelled : Labelled key value metadata)
    (answered : ⟨.alertMetadata alertId, .ok metadata⟩ ∈ exchanges) :
    FoundLabel key value alertId exchanges := by
  obtain ⟨members, rfl, held⟩ := labelled
  exact ⟨members, answered, held⟩

/-- The policy keeps everything of a message but its destination. -/
theorem Decides.kept_fields {key value : String} {metadata : Json} {message : Message}
    {exchanges : List Exchange} {decision : Decision}
    (decided : Decides key value metadata message exchanges decision) :
    decision.message.id = message.id ∧ decision.message.alertId = message.alertId ∧
      decision.message.type = message.type := by
  cases decided <;> exact ⟨rfl, rfl, rfl⟩

end Priority

namespace Dispatch

variable {site : Site} {config : Config} {message sent : Message} {payload : Payload}
  {isFirst : Bool} {past rest : List Exchange}

/-- Messages that are not about alerts are sent as they are, and never as first deliveries. -/
theorem Built.plain (built : Built site config message past sent payload isFirst rest)
    (noAlert : message.type ≠ .alert) :
    sent = message ∧ isFirst = false ∧ payload.destination = message.destination := by
  obtain ⟨_, building, _, _, ended⟩ := built
  have plain := (BuildOutcome.returns_ofMessage site config noAlert).of_ends ended
  cases plain with
  | carried content => exact ⟨rfl, rfl, rfl⟩

/-- A message about an alert is built on what its look-ups found. -/
theorem Built.ofAlert (built : Built site config message past sent payload isFirst rest)
    (isAlert : message.type = .alert) :
    ∃ opening building, past = opening ++ (building ++ rest) ∧
      BuildOutcome.OfAlert site message config building ⟨sent, .payload payload isFirst⟩ := by
  obtain ⟨opening, building, inOrder, _, ended⟩ := built
  refine ⟨opening, building, inOrder, ?_⟩
  dsimp only [BuildOutcome.ofMessage] at ended
  split at ended
  · rw [isAlert] at ended
    exact BuildOutcome.ofAlert_of_ends ended
  · obtain ⟨_, _, _, _, _, last⟩ := ends_bind_ok.mp ended
    obtain ⟨_, same⟩ := ends_done.mp last
    cases same

theorem Built.payload_destination
    (built : Built site config message past sent payload isFirst rest) :
    payload.destination = sent.destination := by
  by_cases isAlert : message.type = .alert
  · obtain ⟨_, _, _, outcome⟩ := built.ofAlert isAlert
    cases outcome
    rfl
  · obtain ⟨rfl, _, destination⟩ := built.plain isAlert
    exact destination

/-- What is sent keeps the id and the alert of its message. -/
theorem Built.kept_fields (built : Built site config message past sent payload isFirst rest) :
    sent.id = message.id ∧ sent.alertId = message.alertId ∧ sent.type = message.type := by
  by_cases isAlert : message.type = .alert
  · obtain ⟨_, _, _, outcome⟩ := built.ofAlert isAlert
    cases outcome with
    | carried _ decided => exact decided.kept_fields
  · obtain ⟨rfl, _, _⟩ := built.plain isAlert
    exact ⟨rfl, rfl, rfl⟩

/-- Only messages about alerts are first deliveries. -/
theorem Built.isAlert_of_first (built : Built site config message past sent payload true rest) :
    message.type = .alert := by
  apply Decidable.byContradiction
  intro noAlert
  exact Bool.noConfusion (built.plain noAlert).2.1

/-! ## Longer executions -/

theorem Built.append (built : Built site config message past sent payload isFirst rest)
    (more : List Exchange) :
    Built site config message (past ++ more) sent payload isFirst (rest ++ more) := by
  obtain ⟨opening, building, rfl, opened, ended⟩ := built
  exact ⟨opening, building, by simp, opened, ended⟩

theorem Delivered.kept_fields {registry : Registry} {result : SendResult}
    (delivered : Delivered site registry config message past sent payload isFirst result) :
    sent.id = message.id ∧ sent.alertId = message.alertId ∧ sent.type = message.type := by
  obtain ⟨_, _, built, _⟩ := delivered
  exact built.kept_fields

theorem Delivered.isAlert_of_first {registry : Registry} {result : SendResult}
    (delivered : Delivered site registry config message past sent payload true result) :
    message.type = .alert := by
  obtain ⟨_, _, built, _⟩ := delivered
  exact built.isAlert_of_first

theorem Provided.append {registry : Registry} {result : SendResult}
    (provided : Provided site registry config message past sent payload isFirst result)
    (more : List Exchange) :
    Provided site registry config message (past ++ more) sent payload isFirst result := by
  obtain ⟨given, later, built, provides⟩ := provided
  exact ⟨given, later ++ more, by simpa using built.append more, provides⟩

/-! ## Requests by role -/

variable {providers : List Provider} {request : Request}

/-- Building looks things up and does nothing else. -/
theorem quiet_or_reading_of_building
    (asks : (BuildOutcome.ofMessage site message config).Asks past request) :
    request.Quiet ∨ request.Reading := by
  have makes : (BuildOutcome.ofMessage site message config).Makes fun request =>
      request.Quiet ∨ request.Reading :=
    BuildOutcome.makes_ofMessage (fun _ routine => .inl routine.quiet)
      (fun _ reading => .inr reading) site message config
  exact makes.asks asks

/-- No request of a dispatch touches a recorded delivery. -/
theorem Stage.spares
    (stage : Stage site (Registry.ofProviders providers) config message past request) :
    request.SparesDeliveries := by
  cases stage with
  | bookkeeping quiet => exact quiet.spares
  | building _ asks =>
      rcases quiet_or_reading_of_building asks with quiet | reading
      · exact quiet.spares
      · exact reading.spares
  | carrying _ asks => exact ((Registry.makes_send providers _ config).asks asks).1.spares
  | noting _ notes =>
      rcases notes with quiet | noting
      · exact quiet.spares
      · exact noting.spares
  | recording => rfl

/-- The only items that a dispatch stores are rows of first deliveries that succeeded. -/
theorem Stage.recording_of_stores
    (stage : Stage site (Registry.ofProviders providers) config message past request)
    (stores : request.Stores) :
    ∃ sent payload result now recordedAt,
      Delivered site (Registry.ofProviders providers) config message past sent payload true
        result ∧
      result.isOk ∧ Ledger.universal now = .ok recordedAt ∧
      request = .service (site.ledger.writeCall
        (DeliveryRecord.toItem sent.alertId sent.destinationId sent.id result.externalId
          recordedAt)) := by
  cases stage with
  | bookkeeping quiet => exact (quiet.not_stores stores).elim
  | building _ asks =>
      rcases quiet_or_reading_of_building asks with quiet | reading
      · exact (quiet.not_stores stores).elim
      · exact (reading.not_stores stores).elim
  | carrying _ asks =>
      exact (((Registry.makes_send providers _ config).asks asks).1.not_stores stores).elim
  | noting _ notes =>
      rcases notes with quiet | noting
      · exact (quiet.not_stores stores).elim
      · exact (noting.not_stores stores).elim
  | recording delivered success stamped =>
      exact ⟨_, _, _, _, _, delivered, success, stamped, rfl⟩

/-- An item that a dispatch stores is the row of a first delivery that succeeded. -/
theorem Stage.row_of_putItem {call : ServiceCall} {name : String} {item : Json}
    {options : List (String × Json)}
    (stage : Stage site (Registry.ofProviders providers) config message past (.service call))
    (operation : call.operation = .putItem name item options) :
    ∃ sent payload result now recordedAt,
      Delivered site (Registry.ofProviders providers) config message past sent payload true
        result ∧
      result.isOk ∧ Ledger.universal now = .ok recordedAt ∧
      item = DeliveryRecord.toItem message.alertId sent.destinationId message.id
        result.externalId recordedAt := by
  obtain ⟨sent, payload, result, now, recordedAt, delivered, success, stamped, same⟩ :=
    stage.recording_of_stores (Request.stores_of_putItem operation)
  refine ⟨sent, payload, result, now, recordedAt, delivered, success, stamped, ?_⟩
  obtain ⟨id, alertId, _⟩ := delivered.kept_fields
  rw [← id, ← alertId]
  cases same
  cases operation
  rfl

/-- Recipients are reached only after the message was built, and telephones ring only for payloads
that go to telephones. -/
theorem Stage.built_of_outbound
    (stage : Stage site (Registry.ofProviders providers) config message past request)
    (outbound : request.Outbound) :
    ∃ sent payload isFirst given,
      Built site config message past sent payload isFirst given ∧
      (request.Rings → payload.destination.kind = Voice.type) := by
  cases stage with
  | bookkeeping quiet => exact (quiet.not_outbound outbound).elim
  | building _ asks =>
      rcases quiet_or_reading_of_building asks with quiet | reading
      · exact (quiet.not_outbound outbound).elim
      · exact (reading.not_outbound outbound).elim
  | carrying built asks =>
      exact ⟨_, _, _, _, built, ((Registry.makes_send providers _ config).asks asks).2⟩
  | noting _ notes =>
      rcases notes with quiet | noting
      · exact (quiet.not_outbound outbound).elim
      · exact (noting.not_outbound outbound).elim
  | recording => exact outbound.elim

/-- A status update of a registered type has no result without having been built for sending. -/
theorem exists_built_of_status {registry : Registry} {exchanges : List Exchange}
    {result : SendResult} (registered : site.types.contains .alertStatus = true)
    (isStatus : message.type = .alertStatus)
    (ended : (send site registry config message).Ends exchanges (.ok result)) :
    ∃ sent payload isFirst given,
      Built site config message exchanges sent payload isFirst given := by
  rcases outcome_of_ends_send ended with
    ⟨_, _, _, _, _, _, _, same⟩ | ⟨_, _, _, _, _, _, _, endedBuild, _⟩ |
    ⟨sent, payload, isFirst, given, later, built, _⟩
  · cases same
  · rw [BuildOutcome.ofMessage_status config registered isStatus] at endedBuild
    obtain ⟨_, _, _, _, _, _, _, same⟩ := BuildOutcome.ofStatus_of_ends endedBuild
    cases same
  · exact ⟨sent, payload, isFirst, _, built⟩

end Dispatch
end AlertRelay
