import AlertRelay.Proofs.ResultShapes

/-!
# What results are about

The result of a dispatch names the message that was to be sent.  Only a channel outside of this
library can make an exception, because its results are taken as they are.
-/

namespace AlertRelay

open Program

/-- The result names the message with the id. -/
def SendResult.IsAbout (id : String) (result : SendResult) : Prop := result.messageId = id

/-- A channel outside of this library answered about the payload that it was handed. -/
def Exchange.KeepsId : Exchange → Prop
  | ⟨.deliver _ payload, .ok result⟩ => result.IsAbout payload.id
  | _ => True

theorem SendResult.IsShaped.isAbout {id : String} {result : SendResult}
    (shaped : result.IsShaped id) : result.IsAbout id :=
  shaped.named

/-- What a program returns about a message is about the message given any answers. -/
theorem Program.Returns.about {program : Program SendResult} {id : String}
    (returns : program.Returns (SendResult.IsShaped id)) :
    program.Yields Exchange.KeepsId
      fun outcome => ∀ result, outcome = .ok result → result.IsAbout id :=
  yields_of_forall_ends fun _ _ ended _ result same =>
    (returns.of_ends (by rwa [same] at ended)).isAbout

/-- What a channel gives to a payload is about the payload. -/
theorem Provider.isAbout_send (provider : Provider)
    {sendPayload : Payload → Config → Program SendResult}
    (sends : provider.channel.send = some sendPayload) (payload : Payload) (config : Config) :
    (sendPayload payload config).Yields Exchange.KeepsId
      fun outcome => ∀ result, outcome = .ok result → result.IsAbout payload.id := by
  cases provider with
  | voice =>
      cases sends
      exact (Voice.isShaped_send payload config).about
  | sms gateway =>
      cases sends
      exact (Sms.isShaped_send gateway payload config).about
  | browserPush store =>
      cases sends
      exact (BrowserPush.isShaped_send store payload config).about
  | webhook =>
      cases sends
      exact (Webhook.isShaped_send payload config).about
  | outside id info validate canSend =>
      cases canSend with
      | false => cases sends
      | true =>
          cases sends
          refine .ask fun answer kept => yields_ofExcept ?_
          rintro result rfl
          exact kept

/-! ## Dispatches -/

/-- What the registry gives to a payload is about the payload. -/
theorem Registry.isAbout_of_ends_send {providers : List Provider} {payload : Payload}
    {config : Config} {exchanges : List Exchange} {result : SendResult}
    (ended : ((ofProviders providers).send payload config).Ends exchanges (.ok result))
    (kept : ∀ exchange ∈ exchanges, exchange.KeepsId) : result.IsAbout payload.id := by
  cases course_of_ends_send ended with
  | disabled => rfl
  | stopped => rfl
  | @carried channel sendPayload provided reporting given _ found sends on endedSend concluded =>
      obtain ⟨provider, _, rfl⟩ := List.mem_map.mp (List.mem_of_find?_eq_some found)
      cases given with
      | error failure => exact ((isShaped_failed payload failure).of_ends concluded).isAbout
      | ok value =>
          obtain ⟨same, _⟩ := ends_reported concluded
          cases same
          refine (provider.isAbout_send sends payload config).of_ends endedSend ?_ _ rfl
          exact fun exchange made => kept exchange (by simp [made])

/-- What is built of a message bears its id. -/
def BuildOutcome.BearsId (id : String) (outcome : BuildOutcome) : Prop :=
  match outcome.build with
  | .payload payload _ => payload.id = id
  | .result result => result.IsAbout id

theorem BuildOutcome.Plain.bearsId {message : Message} {outcome : BuildOutcome}
    (plain : Plain message outcome) : outcome.BearsId message.id := by
  cases plain <;> rfl

theorem BuildOutcome.OfAlert.bearsId {site : Site} {message : Message} {config : Config}
    {exchanges : List Exchange} {outcome : BuildOutcome}
    (ofAlert : OfAlert site message config exchanges outcome) : outcome.BearsId message.id := by
  cases ofAlert with
  | suppressed _ decided => exact decided.kept_fields.1
  | carried _ decided => exact decided.kept_fields.1

/-- However a message is built, the outcome bears its id. -/
theorem BuildOutcome.bearsId_of_ends {site : Site} {message : Message} {config : Config}
    {exchanges : List Exchange} {outcome : BuildOutcome}
    (ended : (ofMessage site message config).Ends exchanges (.ok outcome)) :
    outcome.BearsId message.id := by
  by_cases isAlert : message.type = .alert
  · dsimp only [ofMessage] at ended
    split at ended
    · rw [isAlert] at ended
      exact (ofAlert_of_ends ended).bearsId
    · obtain ⟨_, _, _, _, _, last⟩ := ends_bind_ok.mp ended
      obtain ⟨_, same⟩ := ends_done.mp last
      cases same
      rfl
  · exact ((returns_ofMessage site config isAlert).of_ends ended).bearsId

/-- The result of a dispatch is about its message. -/
theorem Dispatch.isAbout_of_ends_send {site : Site} {providers : List Provider} {config : Config}
    {message : Message} {exchanges : List Exchange} {result : SendResult}
    (ended : (send site (.ofProviders providers) config message).Ends exchanges (.ok result))
    (kept : ∀ exchange ∈ exchanges, exchange.KeepsId) : result.IsAbout message.id := by
  rcases outcome_of_ends_send ended with
    ⟨_, _, _, _, _, _, _, same⟩ | ⟨_, _, _, _, _, _, _, endedBuild, same⟩ |
    ⟨sent, payload, isFirst, given, later, built, endedCarry⟩
  · cases same
  · cases same
    exact BuildOutcome.bearsId_of_ends endedBuild
  · obtain ⟨opening, building, rfl, _, endedBuild⟩ := built
    have named : payload.id = message.id := BuildOutcome.bearsId_of_ends endedBuild
    rw [← named]
    refine Registry.isAbout_of_ends_send endedCarry fun exchange made => kept exchange ?_
    simp [made]

end AlertRelay
