import AlertRelay.Proofs.Building
import AlertRelay.Proofs.ChannelRequests

/-!
# Stages of a dispatch

A dispatch builds its message, carries the payload, notes that it did, and records the first
delivery.  Every request of a dispatch belongs to one of these stages, and what the channel gave
is the result of the dispatch, whatever happens in the stages after it.
-/

namespace AlertRelay

open Program

namespace Registry

variable {registry : Registry} {payload : Payload} {config : Config}

/-- What the registry makes of the outcome of a channel. -/
def conclude (payload : Payload) : Except Failure SendResult → Program SendResult
  | .ok result => report payload result
  | .error failure => failed payload failure

/-- The courses that sending a payload can take: its type lacks a sender or is disabled, the sender
was asked to stop, or the channel was asked to send it and the registry concluded from what the
channel gave. -/
inductive Course (registry : Registry) (payload : Payload) (config : Config) :
    List Exchange → Except Failure SendResult → Prop
  | senderless
      (lacking : ∀ channel, registry.find? payload.destination.kind = some channel →
        channel.send = none) :
      Course registry payload config [] (.error (.unknownDestination payload.destination.kind))
  | disabled {channel : Channel} {exchanges : List Exchange}
      (found : registry.find? payload.destination.kind = some channel)
      (canSend : channel.send.isSome) (off : (channel.info config).enabled = false)
      (logged : ∀ exchange ∈ exchanges, exchange.request.Routine) :
      Course registry payload config exchanges
        (.ok (SendResult.failedPermanently payload.id "destination type is disabled"))
  | stopped {exchanges : List Exchange}
      (logged : ∀ exchange ∈ exchanges, exchange.request.Routine) :
      Course registry payload config (⟨.cancelled, true⟩ :: exchanges)
        (.ok (SendResult.failedTemporarily payload.id "send cancelled"))
  | carried {channel : Channel} {sendPayload : Payload → Config → Program SendResult}
      {provided reporting : List Exchange} {given outcome : Except Failure SendResult}
      (found : registry.find? payload.destination.kind = some channel)
      (sends : channel.send = some sendPayload) (on : (channel.info config).enabled = true)
      (ended : (sendPayload payload config).Ends provided given)
      (concluded : (conclude payload given).Ends reporting outcome) :
      Course registry payload config (⟨.cancelled, false⟩ :: (provided ++ reporting)) outcome

/-- After a report, a value is what a program ends with. -/
theorem ends_reported {α : Type} {level : LogLevel} {component name : String}
    {details : List (String × Json)} {value : α} {exchanges : List Exchange}
    {outcome : Except Failure α}
    (ended : ((log level component name details).bind fun _ => .done value).Ends exchanges
      outcome) :
    outcome = .ok value ∧ ∀ exchange ∈ exchanges, exchange.request.Routine := by
  rcases ends_bind.mp ended with ⟨_, noEnd, _⟩ | ⟨first, second, _, rfl, logged, endedDone⟩
  · simp at noEnd
  · obtain ⟨rfl, _⟩ := ends_log.mp logged
    obtain ⟨rfl, rfl⟩ := ends_done.mp endedDone
    refine ⟨rfl, fun exchange member => ?_⟩
    rw [List.append_nil, List.mem_singleton] at member
    rw [member]
    trivial

/-- The registry passes on no other failure of a channel than a lack of configuration. -/
theorem ends_conclude_error {given : Except Failure SendResult} {exchanges : List Exchange}
    {failure : Failure}
    (ended : (conclude payload given).Ends exchanges (.error failure)) :
    exchanges = [] ∧ given = .error failure ∧
      ∃ source reason, failure = .configuration source reason := by
  cases given with
  | ok result => cases (ends_reported ended).1
  | error raised =>
      cases raised with
      | configuration source reason =>
          obtain ⟨rfl, same⟩ := ends_fail.mp ended
          cases same
          exact ⟨rfl, rfl, source, reason, rfl⟩
      | _ => cases (ends_reported ended).1

/-- Sending a payload takes one of the courses. -/
theorem course_of_ends_send {exchanges : List Exchange} {outcome : Except Failure SendResult}
    (ended : (registry.send payload config).Ends exchanges outcome) :
    Course registry payload config exchanges outcome := by
  dsimp only [send] at ended
  split at ended
  · rename_i missing
    obtain ⟨rfl, rfl⟩ := ends_fail.mp ended
    refine .senderless fun channel found => ?_
    rw [missing] at found
    cases found
  · rename_i channel found
    split at ended
    · rename_i lacking
      obtain ⟨rfl, rfl⟩ := ends_fail.mp ended
      refine .senderless fun other foundOther => ?_
      rw [found] at foundOther
      cases foundOther
      exact lacking
    · rename_i sendPayload sends
      split at ended
      · rename_i disabled
        obtain ⟨rfl, logged⟩ := ends_reported ended
        exact .disabled found (by simp [sends]) (by simpa using disabled) logged
      · rename_i enabled
        obtain ⟨stop, later, rfl, endedLater⟩ := ends_ask.mp ended
        cases stop with
        | true =>
            obtain ⟨rfl, logged⟩ := ends_reported endedLater
            exact .stopped logged
        | false =>
            rcases ends_bind.mp endedLater with
              ⟨_, noEnd, _⟩ | ⟨provided, reporting, given, rfl, attempted, concluded⟩
            · simp at noEnd
            obtain ⟨inner, endedSend, same⟩ := ends_attempt.mp attempted
            cases same
            refine .carried found sends (by simpa using enabled) endedSend ?_
            cases given with
            | ok result => exact concluded
            | error failure => exact concluded

/-- With the exchanges, the channel of the payload's destination was asked to send it and gave the
result. -/
def Provides (registry : Registry) (payload : Payload) (config : Config)
    (exchanges : List Exchange) (result : SendResult) : Prop :=
  ∃ channel sendPayload provided, registry.find? payload.destination.kind = some channel ∧
    channel.send = some sendPayload ∧ (channel.info config).enabled = true ∧
    exchanges = ⟨.cancelled, false⟩ :: provided ∧
    (sendPayload payload config).Ends provided (.ok result)

/-- The result of a failed channel is not a success. -/
theorem returns_failed (payload : Payload) (failure : Failure) :
    (failed payload failure).Returns fun result => result.isOk = false := by
  cases failure with
  | configuration channel reason => exact .fail _
  | _ => exact returns_bind fun _ => .done rfl

/-- What the channel gave is what the registry gives. -/
theorem Provides.outcome_eq {given later carried rest : List Exchange} {result : SendResult}
    {outcome : Except Failure SendResult} (provides : registry.Provides payload config given result)
    (ended : (registry.send payload config).Ends carried outcome)
    (split : given ++ later = carried ++ rest) : outcome = .ok result := by
  obtain ⟨channel, sendPayload, provided, found, sends, enabled, rfl, endedChannel⟩ := provides
  cases course_of_ends_send ended with
  | senderless lacking =>
      rw [lacking channel found] at sends
      cases sends
  | disabled foundOther canSend off =>
      rw [found] at foundOther
      cases foundOther
      rw [enabled] at off
      cases off
  | stopped => cases split
  | @carried other sendOther providedOther reporting inner outcome foundOther sendsOther on
      endedOther concluded =>
      rw [found] at foundOther
      cases foundOther
      rw [sends] at sendsOther
      cases sendsOther
      injection split with _ tail
      have inOrder : provided ++ later = providedOther ++ (reporting ++ rest) := by
        rw [← List.append_assoc]
        exact tail
      obtain ⟨rfl, rfl⟩ := endedChannel.unique endedOther inOrder
      exact (ends_reported concluded).1

/-- A success was given by the channel. -/
theorem provides_of_ends_send {exchanges : List Exchange} {result : SendResult}
    (ended : (registry.send payload config).Ends exchanges (.ok result)) (success : result.isOk) :
    ∃ given later, exchanges = given ++ later ∧ registry.Provides payload config given result := by
  cases course_of_ends_send ended with
  | disabled => cases success
  | stopped => cases success
  | @carried channel sendPayload provided reporting inner outcome found sends on endedSend
      concluded =>
      cases inner with
      | error failure =>
          have failing := (returns_failed payload failure).of_ends concluded
          rw [failing] at success
          cases success
      | ok value =>
          obtain ⟨same, _⟩ := ends_reported concluded
          cases same
          exact ⟨⟨.cancelled, false⟩ :: provided, reporting, rfl, channel, sendPayload, provided,
            found, sends, on, rfl, endedSend⟩

end Registry

namespace Dispatch

section Stages

variable (site : Site) (registry : Registry) (config : Config) (message : Message)

/-- After three exchanges that open the context and report the start, the message was built for
sending, and the rest of the exchanges came after that. -/
def Built (past : List Exchange) (sent : Message) (payload : Payload) (isFirst : Bool)
    (rest : List Exchange) : Prop :=
  ∃ opening built, past = opening ++ (built ++ rest) ∧ opening.length = 3 ∧
    (BuildOutcome.ofMessage site message config).Ends built
      (.ok ⟨sent, .payload payload isFirst⟩)

/-- The message was built, and its channel was asked to send it and gave the result. -/
def Provided (past : List Exchange) (sent : Message) (payload : Payload) (isFirst : Bool)
    (result : SendResult) : Prop :=
  ∃ given later, Built site config message past sent payload isFirst (given ++ later) ∧
    registry.Provides payload config given result

/-- The message was built, and the registry of channels gave the result. -/
def Delivered (past : List Exchange) (sent : Message) (payload : Payload) (isFirst : Bool)
    (result : SendResult) : Prop :=
  ∃ given later, Built site config message past sent payload isFirst (given ++ later) ∧
    (registry.send payload config).Ends given (.ok result)

/-- The stages of a dispatch with the requests that belong to them. -/
inductive Stage : List Exchange → Request → Prop
  | bookkeeping {past : List Exchange} {request : Request} (quiet : request.Quiet) :
      Stage past request
  | building {opening past : List Exchange} {request : Request} (opened : opening.length = 3)
      (asks : (BuildOutcome.ofMessage site message config).Asks past request) :
      Stage (opening ++ past) request
  | carrying {past given : List Exchange} {sent : Message} {payload : Payload} {isFirst : Bool}
      {request : Request} (built : Built site config message past sent payload isFirst given)
      (asks : (registry.send payload config).Asks given request) :
      Stage past request
  | noting {past : List Exchange} {sent : Message} {payload : Payload} {isFirst : Bool}
      {result : SendResult} {request : Request}
      (delivered : Delivered site registry config message past sent payload isFirst result)
      (notes : request.Quiet ∨ request.Noting) : Stage past request
  | recording {past : List Exchange} {sent : Message} {payload : Payload} {result : SendResult}
      (delivered : Delivered site registry config message past sent payload true result)
      (success : result.isOk) {now recordedAt : Moment}
      (stamped : Ledger.universal now = .ok recordedAt) :
      Stage past (.service (site.ledger.writeCall
        (DeliveryRecord.toItem sent.alertId sent.destinationId sent.id result.externalId
          recordedAt)))

end Stages

variable {site : Site} {registry : Registry} {config : Config} {message : Message}

theorem Delivered.intro {past given later : List Exchange} {sent : Message} {payload : Payload}
    {isFirst : Bool} {result : SendResult}
    (built : Built site config message past sent payload isFirst (given ++ later))
    (ended : (registry.send payload config).Ends given (.ok result)) :
    Delivered site registry config message past sent payload isFirst result :=
  ⟨given, later, built, ended⟩

theorem makes_noteSent {allowed : Request → Prop}
    (routine : ∀ request, request.Routine → allowed request)
    (noting : ∀ request, request.Noting → allowed request) (message : Message) :
    (noteSent message).Makes allowed := by
  refine makes_rescue ?_ fun failure => makes_log_of_routine routine _ _ _ _
  split
  · exact makes_bind (makes_request.mpr (noting _ trivial)) fun _ => makes_ofExcept
  · exact makes_bind (makes_request.mpr (noting _ trivial)) fun _ => makes_ofExcept
  · exact .done ()

theorem makes_track {allowed : Request → Prop}
    (routine : ∀ request, request.Routine → allowed request)
    {ledger : Ledger} {result : SendResult}
    (written : ∀ now recordedAt, Ledger.universal now = .ok recordedAt →
      allowed (.service (ledger.writeCall
        (DeliveryRecord.toItem message.alertId message.destinationId message.id result.externalId
          recordedAt)))) :
    (track ledger message result).Makes allowed := by
  refine makes_bind (makes_attempt.mpr (Ledger.makes_record routine written)) fun recorded => ?_
  cases recorded with
  | error failure => exact makes_log_of_routine routine _ _ _ _
  | ok outcome =>
      dsimp only
      split
      · exact .done ()
      · exact makes_log_of_routine routine _ _ _ _

/-- Recording a first delivery writes its row and does nothing else. -/
theorem quiet_or_writes_of_asks_track {ledger : Ledger} {result : SendResult}
    {past : List Exchange} {request : Request}
    (asks : (track ledger message result).Asks past request) :
    request.Quiet ∨ ∃ now recordedAt, Ledger.universal now = .ok recordedAt ∧
      request = .service (ledger.writeCall
        (DeliveryRecord.toItem message.alertId message.destinationId message.id result.externalId
          recordedAt)) := by
  have makes : (track ledger message result).Makes fun request =>
      request.Quiet ∨ ∃ now recordedAt, Ledger.universal now = .ok recordedAt ∧
        request = .service (ledger.writeCall
          (DeliveryRecord.toItem message.alertId message.destinationId message.id
            result.externalId recordedAt)) :=
    makes_track (fun _ routine => .inl routine.quiet)
      fun now recordedAt stamped => .inr ⟨now, recordedAt, stamped, rfl⟩
  exact makes.asks asks

/-- A program in a context as a tree of requests. -/
theorem withContext_eq {α : Type} (bound : Context) (program : Program α) :
    withContext bound program =
      .ask .context fun previous =>
        .ask (.setContext (Context.bind previous bound)) fun _ =>
          program.attempt.bind fun result =>
            .ask .context fun current =>
              .ask (.setContext (Context.leave current previous bound)) fun _ =>
                ofExcept result :=
  rfl

/-- A program in a context only adds the handling of the context. -/
theorem asks_withContext {α : Type} {bound : Context} {program : Program α}
    {past : List Exchange} {request : Request}
    (asks : (withContext bound program).Asks past request) :
    request.Quiet ∨ ∃ opening later, past = opening ++ later ∧ opening.length = 2 ∧
      program.Asks later request := by
  rw [withContext_eq] at asks
  rcases asks_ask.mp asks with ⟨_, rfl⟩ | ⟨previous, afterPrevious, rfl, asksPrevious⟩
  · exact .inl trivial
  rcases asks_ask.mp asksPrevious with ⟨_, rfl⟩ | ⟨entered, afterEntered, rfl, asksEntered⟩
  · exact .inl trivial
  rcases asks_bind.mp asksEntered with inProgram | ⟨first, second, _, rfl, _, asksLeaving⟩
  · exact .inr ⟨[_, _], afterEntered, rfl, rfl, asks_attempt.mp inProgram⟩
  rcases asks_ask.mp asksLeaving with ⟨_, rfl⟩ | ⟨_, _, rfl, asksCurrent⟩
  · exact .inl trivial
  rcases asks_ask.mp asksCurrent with ⟨_, rfl⟩ | ⟨_, _, rfl, asksLeft⟩
  · exact .inl trivial
  · simp at asksLeft

/-- A program in a context binds its variables, ends as it does without, and leaves the context. -/
theorem exchanges_of_ends_withContext {α : Type} {bound : Context} {program : Program α}
    {exchanges : List Exchange} {outcome : Except Failure α}
    (ended : (withContext bound program).Ends exchanges outcome) :
    ∃ previous inner current,
      exchanges = ⟨.context, previous⟩ :: ⟨.setContext (Context.bind previous bound), ()⟩ ::
        (inner ++
          [⟨.context, current⟩, ⟨.setContext (Context.leave current previous bound), ()⟩]) ∧
      program.Ends inner outcome := by
  rw [withContext_eq] at ended
  obtain ⟨previous, afterPrevious, rfl, endedPrevious⟩ := ends_ask.mp ended
  obtain ⟨entered, afterEntered, rfl, endedEntered⟩ := ends_ask.mp endedPrevious
  rcases ends_bind.mp endedEntered with
    ⟨_, noEnd, _⟩ | ⟨inner, closing, result, rfl, inProgram, left⟩
  · simp at noEnd
  · obtain ⟨given, endedGiven, same⟩ := ends_attempt.mp inProgram
    cases same
    obtain ⟨current, _, rfl, endedCurrent⟩ := ends_ask.mp left
    obtain ⟨_, _, rfl, endedLeft⟩ := ends_ask.mp endedCurrent
    obtain ⟨rfl, rfl⟩ := ends_ofExcept.mp endedLeft
    exact ⟨previous, inner, current, rfl, endedGiven⟩

/-- The steps of a dispatch one after the other. -/
theorem sendSteps_eq (site : Site) (registry : Registry) (config : Config) (message : Message) :
    sendSteps site registry config message =
      (log .info component "send_message_started"
        [("dest_id", .text message.destinationId.text)]).bind fun _ =>
      (BuildOutcome.ofMessage site message config).bind fun outcome =>
      match outcome.build with
      | .result result =>
          (log .info component "send_message_short_circuited"
            [("state", .text result.state.name), ("details", .text result.details)]).bind fun _ =>
          .done result
      | .payload payload isFirst =>
          (registry.send payload config).bind fun result =>
          (log .info component "send_message_provider_result"
            [("state", .text result.state.name), ("details", .text result.details)]).bind fun _ =>
          (noteSent outcome.message).bind fun _ =>
          (if isFirst && result.isOk then track site.ledger outcome.message result
            else .done ()).bind fun _ =>
          .done result := by
  rw [sendSteps, monad_bind_eq]
  congr 1
  funext _
  rw [monad_bind_eq]
  congr 1
  funext outcome
  obtain ⟨sent, build⟩ := outcome
  cases build with
  | result result => rfl
  | payload payload isFirst =>
      -- Without a record to write, the last step goes on at once.
      simp only [monad_bind_eq]
      congr 1
      funext result
      congr 1
      funext _
      congr 1
      funext _
      split <;> rfl

/-- A backlog is split, what is ready is sent, and the end is reported. -/
theorem sendPending_eq (site : Site) (registry : Registry) (config : Config)
    (types : List MessageType) (messages : List Message) :
    ∃ details : Batch → List (String × Json),
      sendPending site registry config types messages =
        (sendAll site registry config ⟨[], [], (Backlog.split types messages).2⟩
          (Backlog.split types messages).1).bind fun batch =>
            (log .info component "send_pending_completed" (details batch)).bind
              fun _ => .done batch :=
  ⟨_, rfl⟩

/-- The steps of a dispatch report and look things up, carry the payload, note that they did, and
write the row of the first delivery. -/
theorem makes_sendSteps {allowed : Request → Prop}
    (routine : ∀ request, request.Routine → allowed request)
    (reading : ∀ request, request.Reading → allowed request)
    (noting : ∀ request, request.Noting → allowed request)
    (carried : ∀ payload, (registry.send payload config).Makes allowed)
    (written : ∀ item, allowed (.service (site.ledger.writeCall item))) :
    (sendSteps site registry config message).Makes allowed := by
  rw [sendSteps_eq]
  refine makes_bind (makes_log_of_routine routine _ _ _ _) fun _ => ?_
  refine makes_bind (BuildOutcome.makes_ofMessage routine reading site message config) ?_
  rintro ⟨sent, build⟩
  cases build with
  | result result => exact makes_reported routine _ _ _ _ _
  | payload payload isFirst =>
      refine makes_bind (carried payload) fun result => ?_
      refine makes_bind (makes_log_of_routine routine _ _ _ _) fun _ => ?_
      refine makes_bind (makes_noteSent routine noting sent) fun _ => ?_
      refine makes_bind ?_ fun _ => .done _
      split
      · exact makes_track routine fun _ _ _ => written _
      · exact .done _

/-- Every request of a dispatch belongs to one of its stages. -/
theorem stage_of_asks_send {past : List Exchange} {request : Request}
    (asks : (send site registry config message).Asks past request) :
    Stage site registry config message past request := by
  rcases asks_withContext asks with quiet | ⟨opening, later, rfl, opened, asksSteps⟩
  · exact .bookkeeping quiet
  rw [sendSteps_eq] at asksSteps
  rcases asks_bind.mp asksSteps with asksLog | ⟨started, afterStart, _, rfl, logged, asksBuild⟩
  · obtain ⟨_, rfl⟩ := asks_log.mp asksLog
    exact .bookkeeping trivial
  have startedOnce : (opening ++ started).length = 3 := by
    rw [(ends_log.mp logged).1]
    simp [opened]
  rcases asks_bind.mp asksBuild with
    asksBuilding | ⟨built, afterBuilt, ⟨sent, build⟩, rfl, endedBuild, asksRest⟩
  · rw [← List.append_assoc]
    exact .building startedOnce asksBuilding
  cases build with
  | result result =>
      rcases asks_bind.mp asksRest with asksLog | ⟨_, _, _, _, _, asksDone⟩
      · obtain ⟨_, rfl⟩ := asks_log.mp asksLog
        exact .bookkeeping trivial
      · simp at asksDone
  | payload payload isFirst =>
      have builtSent : Built site config message (opening ++ (started ++ (built ++ afterBuilt)))
          sent payload isFirst afterBuilt :=
        ⟨opening ++ started, built, by simp, startedOnce, endedBuild⟩
      rcases asks_bind.mp asksRest with
        asksCarry | ⟨given, afterGiven, result, rfl, endedCarry, asksAfter⟩
      · exact .carrying builtSent asksCarry
      have delivered := Delivered.intro builtSent endedCarry
      rcases asks_bind.mp asksAfter with asksLog | ⟨_, _, _, rfl, _, asksNote⟩
      · obtain ⟨_, rfl⟩ := asks_log.mp asksLog
        exact .bookkeeping trivial
      rcases asks_bind.mp asksNote with asksNoting | ⟨_, _, _, rfl, _, asksRecord⟩
      · have makesNotes : (noteSent sent).Makes fun request => request.Quiet ∨ request.Noting :=
          makes_noteSent (fun _ routine => .inl routine.quiet) (fun _ noting => .inr noting) sent
        exact .noting delivered (makesNotes.asks asksNoting)
      rcases asks_bind.mp asksRecord with asksTrack | ⟨_, _, _, rfl, _, asksDone⟩
      · split at asksTrack
        · rename_i firstSuccess
          obtain ⟨rfl, success⟩ := Bool.and_eq_true_iff.mp firstSuccess
          rcases quiet_or_writes_of_asks_track asksTrack with
            quiet | ⟨now, recordedAt, stamped, rfl⟩
          · exact .bookkeeping quiet
          · exact .recording delivered success stamped
        · simp at asksTrack
      · simp at asksDone

/-- Noting that a message was sent never fails. -/
theorem not_ends_noteSent_error {exchanges : List Exchange} {failure : Failure} :
    ¬ (noteSent message).Ends exchanges (.error failure) := by
  intro ended
  rcases ends_rescue.mp ended with ⟨_, _, same⟩ | ⟨_, _, _, _, _, endedLog⟩
  · cases same
  · simp at endedLog

/-- Recording a first delivery never fails. -/
theorem not_ends_track_error {ledger : Ledger} {result : SendResult} {exchanges : List Exchange}
    {failure : Failure} : ¬ (track ledger message result).Ends exchanges (.error failure) := by
  intro ended
  rcases ends_bind.mp ended with ⟨_, noEnd, _⟩ | ⟨_, _, recorded, _, _, endedReport⟩
  · simp at noEnd
  · cases recorded with
    | error unrecorded => simp [reportUnrecorded] at endedReport
    | ok outcome =>
        dsimp only at endedReport
        split at endedReport
        · simp at endedReport
        · simp [reportUnrecorded] at endedReport

/-- The report that a dispatch starts. -/
def started (message : Message) : Exchange :=
  ⟨.log ⟨.info, component, "send_message_started",
    [("dest_id", .text message.destinationId.text)]⟩, ()⟩

/-- The courses that the steps of a dispatch can take: the message could not be built, it was
settled while it was built, it was built but could not be sent, or the registry gave a result,
which nothing after it changes. -/
inductive Course (site : Site) (registry : Registry) (config : Config) (message : Message) :
    List Exchange → Except Failure SendResult → Prop
  | unbuilt {building : List Exchange} {failure : Failure}
      (ended : (BuildOutcome.ofMessage site message config).Ends building (.error failure)) :
      Course site registry config message (started message :: building) (.error failure)
  | settled {building reporting : List Exchange} {sent : Message} {result : SendResult}
      (ended : (BuildOutcome.ofMessage site message config).Ends building
        (.ok ⟨sent, .result result⟩)) :
      Course site registry config message (started message :: (building ++ reporting)) (.ok result)
  | unsent {building carrying : List Exchange} {sent : Message} {payload : Payload}
      {isFirst : Bool} {failure : Failure}
      (built : (BuildOutcome.ofMessage site message config).Ends building
        (.ok ⟨sent, .payload payload isFirst⟩))
      (ended : (registry.send payload config).Ends carrying (.error failure)) :
      Course site registry config message (started message :: (building ++ carrying))
        (.error failure)
  | carried {building carrying recording : List Exchange} {sent : Message} {payload : Payload}
      {isFirst : Bool} {result : SendResult}
      (built : (BuildOutcome.ofMessage site message config).Ends building
        (.ok ⟨sent, .payload payload isFirst⟩))
      (ended : (registry.send payload config).Ends carrying (.ok result)) :
      Course site registry config message
        (started message :: (building ++ (carrying ++ recording))) (.ok result)

/-- The steps of a dispatch take one of the courses. -/
theorem course_of_ends_sendSteps {exchanges : List Exchange}
    {outcome : Except Failure SendResult}
    (ended : (sendSteps site registry config message).Ends exchanges outcome) :
    Course site registry config message exchanges outcome := by
  rw [sendSteps_eq] at ended
  rcases ends_bind.mp ended with ⟨_, noEnd, _⟩ | ⟨_, afterStart, _, rfl, logged, endedBuilding⟩
  · simp at noEnd
  obtain ⟨rfl, _⟩ := ends_log.mp logged
  rw [List.singleton_append]
  rcases ends_bind.mp endedBuilding with
    ⟨failure, endedBuild, rfl⟩ | ⟨building, afterBuilt, ⟨sent, build⟩, rfl, built, endedRest⟩
  · exact .unbuilt endedBuild
  cases build with
  | result result =>
      rcases ends_bind.mp endedRest with ⟨_, noEnd, _⟩ | ⟨_, _, _, _, _, endedDone⟩
      · simp at noEnd
      · obtain ⟨_, rfl⟩ := ends_done.mp endedDone
        exact .settled built
  | payload payload isFirst =>
      rcases ends_bind.mp endedRest with
        ⟨failure, endedCarry, rfl⟩ | ⟨carrying, _, result, rfl, endedCarry, endedAfter⟩
      · exact .unsent built endedCarry
      rcases ends_bind.mp endedAfter with ⟨_, noEnd, _⟩ | ⟨_, _, _, rfl, _, endedNote⟩
      · simp at noEnd
      rcases ends_bind.mp endedNote with ⟨failure, noEnd, _⟩ | ⟨_, _, _, rfl, _, endedRecord⟩
      · exact (not_ends_noteSent_error noEnd).elim
      rcases ends_bind.mp endedRecord with ⟨failure, noEnd, _⟩ | ⟨_, _, _, rfl, _, endedDone⟩
      · split at noEnd
        · exact (not_ends_track_error noEnd).elim
        · simp at noEnd
      · obtain ⟨_, rfl⟩ := ends_done.mp endedDone
        exact .carried built endedCarry

/-- How a dispatch ends: with the failure to build its message, with the result that building it
gave, or with what its channel gave. -/
theorem outcome_of_ends_send {exchanges : List Exchange} {outcome : Except Failure SendResult}
    (ended : (send site registry config message).Ends exchanges outcome) :
    (∃ opening built closing failure, exchanges = opening ++ (built ++ closing) ∧
      opening.length = 3 ∧
      (BuildOutcome.ofMessage site message config).Ends built (.error failure) ∧
      outcome = .error failure) ∨
    (∃ opening built closing sent result, exchanges = opening ++ (built ++ closing) ∧
      opening.length = 3 ∧
      (BuildOutcome.ofMessage site message config).Ends built (.ok ⟨sent, .result result⟩) ∧
      outcome = .ok result) ∨
    ∃ sent payload isFirst given later,
      Built site config message exchanges sent payload isFirst (given ++ later) ∧
      (registry.send payload config).Ends given outcome := by
  obtain ⟨previous, inner, current, rfl, endedSteps⟩ := exchanges_of_ends_withContext ended
  cases course_of_ends_sendSteps endedSteps with
  | @unbuilt building failure endedBuild =>
      exact .inl ⟨[_, _, _], building, _, failure, rfl, rfl, endedBuild, rfl⟩
  | @settled building reporting sent result built =>
      rw [List.cons_append, List.append_assoc]
      exact .inr (.inl ⟨[_, _, _], building, reporting ++ [_, _], sent, result, rfl, rfl, built,
        rfl⟩)
  | @unsent building carrying sent payload isFirst failure built endedCarry =>
      rw [List.cons_append, List.append_assoc]
      exact .inr (.inr ⟨sent, payload, isFirst, carrying, [_, _],
        ⟨[_, _, _], building, rfl, rfl, built⟩, endedCarry⟩)
  | @carried building carrying recording sent payload isFirst result built endedCarry =>
      rw [List.cons_append, List.append_assoc, List.append_assoc]
      exact .inr (.inr ⟨sent, payload, isFirst, carrying, recording ++ [_, _],
        ⟨[_, _, _], building, rfl, rfl, built⟩, endedCarry⟩)

/-- What was built, and what came after it, is determined by the exchanges. -/
theorem Built.unique {past rest other : List Exchange} {sent otherSent : Message}
    {payload otherPayload : Payload} {isFirst otherFirst : Bool}
    (built : Built site config message past sent payload isFirst rest)
    (another : Built site config message past otherSent otherPayload otherFirst other) :
    sent = otherSent ∧ payload = otherPayload ∧ isFirst = otherFirst ∧ rest = other := by
  obtain ⟨opening, building, rfl, opened, ended⟩ := built
  obtain ⟨otherOpening, otherBuilding, split, otherOpened, otherEnded⟩ := another
  obtain ⟨rfl, afterOpening⟩ := List.append_inj split (opened.trans otherOpened.symm)
  obtain ⟨rfl, same⟩ := ended.unique otherEnded afterOpening
  cases same
  exact ⟨rfl, rfl, rfl, List.append_cancel_left afterOpening⟩

/-- After a message was built, its dispatch ends as its channel does. -/
theorem Built.ends {past rest : List Exchange} {sent : Message} {payload : Payload}
    {isFirst : Bool} {outcome : Except Failure SendResult}
    (built : Built site config message past sent payload isFirst rest)
    (ended : (send site registry config message).Ends past outcome) :
    ∃ given later, rest = given ++ later ∧ (registry.send payload config).Ends given outcome := by
  rcases outcome_of_ends_send ended with
    ⟨opening, building, closing, failure, split, opened, failed, _⟩ |
    ⟨opening, building, closing, sent, result, split, opened, settled, _⟩ |
    ⟨_, _, _, given, later, builtSent, endedCarry⟩
  · obtain ⟨otherOpening, otherBuilding, rfl, otherOpened, otherEnded⟩ := built
    obtain ⟨_, afterOpening⟩ := List.append_inj split (otherOpened.trans opened.symm)
    cases (otherEnded.unique failed afterOpening).2
  · obtain ⟨otherOpening, otherBuilding, rfl, otherOpened, otherEnded⟩ := built
    obtain ⟨_, afterOpening⟩ := List.append_inj split (otherOpened.trans opened.symm)
    cases (otherEnded.unique settled afterOpening).2
  · obtain ⟨rfl, rfl, rfl, rfl⟩ := built.unique builtSent
    exact ⟨given, later, rfl, endedCarry⟩

/-- What the registry gave is the result of the dispatch. -/
theorem Delivered.outcome_eq {past : List Exchange} {sent : Message} {payload : Payload}
    {isFirst : Bool} {result : SendResult} {outcome : Except Failure SendResult}
    (delivered : Delivered site registry config message past sent payload isFirst result)
    (ended : (send site registry config message).Ends past outcome) : outcome = .ok result := by
  obtain ⟨given, later, built, endedCarry⟩ := delivered
  obtain ⟨carried, rest, split, endedSend⟩ := built.ends ended
  exact (endedSend.unique endedCarry split.symm).2

/-- What the channel gave is the result of the dispatch. -/
theorem Provided.outcome_eq {past : List Exchange} {sent : Message} {payload : Payload}
    {isFirst : Bool} {result : SendResult} {outcome : Except Failure SendResult}
    (provided : Provided site registry config message past sent payload isFirst result)
    (ended : (send site registry config message).Ends past outcome) : outcome = .ok result := by
  obtain ⟨given, later, built, provides⟩ := provided
  obtain ⟨carried, rest, split, endedSend⟩ := built.ends ended
  exact provides.outcome_eq endedSend split

/-- A delivery that succeeded was provided by the channel. -/
theorem Delivered.provided {past : List Exchange} {sent : Message} {payload : Payload}
    {isFirst : Bool} {result : SendResult}
    (delivered : Delivered site registry config message past sent payload isFirst result)
    (success : result.isOk) :
    Provided site registry config message past sent payload isFirst result := by
  obtain ⟨_, later, built, endedCarry⟩ := delivered
  obtain ⟨given, reported, rfl, provides⟩ := Registry.provides_of_ends_send endedCarry success
  exact ⟨given, reported ++ later, by simpa using built, provides⟩

end Dispatch
end AlertRelay
