import AlertRelay.Proofs.CalendarDays
import AlertRelay.Proofs.FirstDeliveries
import AlertRelay.Proofs.RecordedDeliveries
import AlertRelay.Proofs.Surroundings

/-!
# Looking up recorded deliveries

A look-up that the service answers comes to what the row under the delivery key tells, and nothing
else in the tables matters to it.  So a delivery that was recorded is looked up as it was recorded,
with the moment of the recording, and look-ups of all other deliveries remain as they were.
-/

namespace AlertRelay

open Program

namespace Ledger

/-! ## One look-up -/

/-- What a look-up makes of the outcome of its read. -/
def concluded (alertId : Int) (destination : DestinationId) (outcome : Outcome) :
    Except Failure (Option DeliveryRecord) :=
  if outcome.isSuccess then do
    match ← Attribute.itemOf outcome.data with
    | none => pure none
    | some item => some <$> DeliveryRecord.ofItem alertId destination item
  else .error (.tracking "lookup original status" outcome.message)

/-- What a look-up makes of the row under its key; a row that counts as absent is none. -/
def ofRow (alertId : Int) (destination : DestinationId) :
    Option Json → Except Failure (Option DeliveryRecord)
  | none => .ok none
  | some item =>
      if item.isTruthy then some <$> DeliveryRecord.ofItem alertId destination item else .ok none

section LookUp

variable (ledger : Ledger) (store : Store) (alertId : Int) (destination : DestinationId)

/-- A look-up in the tables comes to the result with the exchanges. -/
structure LooksUp (exchanges : List Exchange) (result : Except Failure (Option DeliveryRecord)) :
    Prop where
  served : ∃ after, store.Through exchanges after
  ended : (ledger.firstDelivery alertId destination).Ends exchanges result

def IsAnswered (exchanges : List Exchange) : Prop :=
  ∃ response, ⟨.service (ledger.readCall alertId destination), .ok response⟩ ∈ exchanges

/-- A look-up in the tables, with a read that the service answers, can come to the result. -/
def LookedUp (result : Except Failure (Option DeliveryRecord)) : Prop :=
  ∃ exchanges, ledger.LooksUp store alertId destination exchanges result ∧
    ledger.IsAnswered alertId destination exchanges

end LookUp

section LookUps

variable {ledger : Ledger} {alertId : Int} {destination : DestinationId} {store after : Store}
  {exchanges : List Exchange} {result : Except Failure (Option DeliveryRecord)}

theorem firstDelivery_eq :
    ledger.firstDelivery alertId destination =
      (ledger.tables.getItem ledger.table
        (.object [("delivery_key", Attribute.ofText (deliveryKey alertId destination))])
        [("ConsistentRead", .bool true)]).bind fun outcome =>
          Program.ofExcept (concluded alertId destination outcome) := by
  rw [firstDelivery, monad_bind_eq]
  congr 1
  funext outcome
  rw [concluded]
  split
  · cases Attribute.itemOf outcome.data with
    | error failure => rfl
    | ok item =>
        cases item with
        | none => rfl
        | some item =>
            change some <$> Program.ofExcept (DeliveryRecord.ofItem alertId destination item) =
              Program.ofExcept (some <$> DeliveryRecord.ofItem alertId destination item)
            cases DeliveryRecord.ofItem alertId destination item <;> rfl
  · rfl

theorem concluded_told (row : Option Json) (message : String) :
    concluded alertId destination (.success (Store.told row) message) =
      ofRow alertId destination row := by
  cases row with
  | none => rfl
  | some item =>
      have read : Attribute.itemOf (Outcome.success (Store.told (some item)) message).data =
          .ok (if item.isTruthy then some item else none) :=
        Attribute.itemOf_item item
      have success : (Outcome.success (Store.told (some item)) message).isSuccess = true := rfl
      rw [concluded, if_pos success, read, ofRow]
      split <;> rfl

/-! ## The service -/

variable {other : Store} {answer : Except Failure Json}

/-- The tables hold the same row for a look-up. -/
structure SameRow (ledger : Ledger) (alertId : Int) (destination : DestinationId)
    (store other : Store) : Prop where
  keyed : (other.table ledger.table).keyName = (store.table ledger.table).keyName
  row : other.row? ledger.table (deliveryKey alertId destination) =
    store.row? ledger.table (deliveryKey alertId destination)

theorem SameRow.symm (same : ledger.SameRow alertId destination store other) :
    ledger.SameRow alertId destination other store :=
  ⟨same.keyed.symm, same.row.symm⟩

/-- Reading a row changes nothing, and the service answers alike where the row is the same. -/
theorem SameRow.answers (same : ledger.SameRow alertId destination store other)
    (answers : store.Answers ⟨.service (ledger.readCall alertId destination), answer⟩ after) :
    after = store ∧
      other.Answers ⟨.service (ledger.readCall alertId destination), answer⟩ other := by
  cases answers with
  | elsewhere noCall => exact (noCall _ rfl).elim
  | service served =>
      have admitted : other.admits (ledger.readCall alertId destination).operation =
          store.admits (ledger.readCall alertId destination).operation := by
        simp only [readCall, TableClient.call, Store.admits, Table.place?, same.keyed]
      cases served with
      | failed _ failure => exact ⟨rfl, .service (.failed _ failure)⟩
      | unacknowledged _ failure => exact ⟨rfl, .service (.failed _ failure)⟩
      | @answered _ admits response tells =>
          have tellsRow : response =
              Store.told (store.row? ledger.table (deliveryKey alertId destination)) :=
            tells rfl
          refine ⟨rfl, .service (.answered (admitted.trans admits) fun _ => ?_)⟩
          rw [tellsRow, ← same.row]
          rfl

/-- The exchanges of a look-up change nothing, and they are possible wherever the row is the
same. -/
theorem SameRow.through (same : ledger.SameRow alertId destination store other)
    (reads : ∀ exchange ∈ exchanges, exchange.request.Routine ∨
      exchange.request = .service (ledger.readCall alertId destination))
    (through : store.Through exchanges after) : after = store ∧ other.Through exchanges other := by
  induction through with
  | nil => exact ⟨rfl, .nil _⟩
  | @cons store middle after exchange _ answers _ ih =>
      obtain ⟨head, rest⟩ := List.forall_mem_cons.mp reads
      have here : middle = store ∧ other.Answers exchange other := by
        obtain ⟨request, answer⟩ := exchange
        rcases head with routine | read
        · refine ⟨?_, .elsewhere fun call called => routine.ne_service call called⟩
          cases answers with
          | service => exact routine.elim
          | elsewhere => rfl
        · cases read
          exact same.answers answers
      obtain ⟨rfl, answersOther⟩ := here
      obtain ⟨unchanged, later⟩ := ih same rest
      exact ⟨unchanged, .cons answersOther later⟩

theorem reads_of_ends_firstDelivery
    (ended : (ledger.firstDelivery alertId destination).Ends exchanges result) :
    ∀ exchange ∈ exchanges, exchange.request.Routine ∨
      exchange.request = .service (ledger.readCall alertId destination) := by
  have makes : (ledger.firstDelivery alertId destination).Makes fun request =>
      request.Routine ∨ request = .service (ledger.readCall alertId destination) :=
    makes_firstDelivery (fun _ => .inl) (.inr rfl)
  exact fun exchange made => makes.of_mem ended made

/-! ## Its result -/

theorem concluded_of_ends {response : Json}
    (ended : (ledger.firstDelivery alertId destination).Ends exchanges result)
    (answered : ⟨.service (ledger.readCall alertId destination), .ok response⟩ ∈ exchanges) :
    ∃ message, result = concluded alertId destination (.success response message) := by
  rw [firstDelivery_eq] at ended
  rcases ends_bind.mp ended with
    ⟨failure, failed, _⟩ | ⟨first, second, outcome, rfl, got, concluding⟩
  · obtain ⟨_, ⟨⟩⟩ := TableClient.outcome_of_answered_getItem failed answered
  · obtain ⟨rfl, rfl⟩ := ends_ofExcept.mp concluding
    rw [List.append_nil] at answered
    obtain ⟨message, same⟩ := TableClient.outcome_of_answered_getItem got answered
    exact ⟨message, congrArg _ (Except.ok.inj same)⟩

theorem exists_ends_firstDelivery (response : Json) :
    ∃ start message, start.request.Routine ∧
      (ledger.firstDelivery alertId destination).Ends
        [start, ⟨.service (ledger.readCall alertId destination), .ok response⟩]
        (concluded alertId destination (.success response message)) := by
  let key := Json.object [("delivery_key", Attribute.ofText (deliveryKey alertId destination))]
  let options := [("ConsistentRead", Json.bool true)]
  let call := ledger.readCall alertId destination
  let message := s!"{call.name} succeeded"
  let outcome := Outcome.success response message
  have reading : ledger.tables.getItem ledger.table key options =
      (TableClient.logStart (.getItem ledger.table key options)).bind fun _ =>
        call.attempts (.ofOptions options) 0 3 :=
    rfl
  have answered : (call.attempts (.ofOptions options) 0 3).Ends
      [⟨.service call, .ok response⟩] (.ok outcome) :=
    ends_ask.mpr ⟨.ok response, [], rfl, ends_done.mpr ⟨rfl, rfl⟩⟩
  have got : ∃ event, (ledger.tables.getItem ledger.table key options).Ends
      [⟨.log event, ()⟩, ⟨.service call, .ok response⟩] (.ok outcome) := by
    rw [reading]
    exact ⟨_, ends_log_bind.mpr ⟨_, rfl, answered⟩⟩
  obtain ⟨event, got⟩ := got
  refine ⟨⟨.log event, ()⟩, message, trivial, ?_⟩
  rw [firstDelivery_eq]
  exact ends_bind.mpr (.inr ⟨_, [], outcome, (List.append_nil _).symm, got,
    ends_ofExcept.mpr ⟨rfl, rfl⟩⟩)

/-- The row under its key decides what a look-up comes to. -/
theorem lookedUp_iff (keyed : (store.table ledger.table).keyName = "delivery_key") :
    ledger.LookedUp store alertId destination result ↔
      result = ofRow alertId destination
        (store.row? ledger.table (deliveryKey alertId destination)) := by
  constructor
  · rintro ⟨exchanges, ⟨⟨after, through⟩, ended⟩, response, answered⟩
    obtain ⟨past, later, reached, _, rfl, before, answers⟩ := through.answers_of_mem answered
    -- What comes before the answered read leaves the tables as they are.
    have reads := reads_of_ends_firstDelivery ended
    have same : ledger.SameRow alertId destination store store := ⟨rfl, rfl⟩
    obtain ⟨rfl, _⟩ := same.through
      (fun exchange made => reads exchange (List.mem_append_left _ made)) before
    obtain ⟨message, rfl⟩ := concluded_of_ends ended answered
    have tellsRow : response = Store.told _ := answers.tells_row
    rw [tellsRow, concluded_told]
  · rintro rfl
    let row := store.row? ledger.table (deliveryKey alertId destination)
    have admitted : store.admits (ledger.readCall alertId destination).operation = true := by
      simp [readCall, TableClient.call, Store.admits, Table.place?, Attribute.ofText, keyed]
    have answers : store.Answers
        ⟨.service (ledger.readCall alertId destination), .ok (Store.told row)⟩ store :=
      .service (.answered admitted fun _ => rfl)
    obtain ⟨start, message, routine, ended⟩ := exists_ends_firstDelivery (Store.told row)
    rw [concluded_told] at ended
    refine ⟨_, ⟨⟨store, ?_⟩, ended⟩, Store.told row, by simp⟩
    exact .cons (.elsewhere fun call => routine.ne_service call) (.cons answers (.nil store))

theorem looksUp_congr (same : ledger.SameRow alertId destination store other) :
    ledger.LooksUp store alertId destination exchanges result →
      ledger.LooksUp other alertId destination exchanges result := by
  rintro ⟨⟨after, through⟩, ended⟩
  exact ⟨⟨other, (same.through (reads_of_ends_firstDelivery ended) through).2⟩, ended⟩

theorem looksUp_iff (same : ledger.SameRow alertId destination store other) :
    ledger.LooksUp store alertId destination exchanges result ↔
      ledger.LooksUp other alertId destination exchanges result :=
  ⟨looksUp_congr same, looksUp_congr same.symm⟩

end LookUps

/-! ## After a recording -/

section Recording

variable {ledger : Ledger} {item : Json} {store after : Store} {exchanges : List Exchange}

theorem effect_of_answers {answer : Except Failure Json}
    (keyed : (store.table ledger.table).keyName = "delivery_key")
    (answers : store.Answers ⟨.service (ledger.writeCall item), answer⟩ after) :
    ledger.Effect item store after := by
  cases answers with
  | elsewhere noCall => exact (noCall _ rfl).elim
  | service served =>
      cases served with
      | failed => exact .inl rfl
      | unacknowledged admitted =>
          rw [carriedOut_writeCall keyed]
          exact .inr ⟨(admits_writeCall keyed).mp admitted, rfl⟩
      | answered admitted =>
          rw [carriedOut_writeCall keyed]
          exact .inr ⟨(admits_writeCall keyed).mp admitted, rfl⟩

/-- Whatever the service reports, writes of one item store it once at most. -/
theorem effect_of_through (keyed : (store.table ledger.table).keyName = "delivery_key")
    (written : ∀ exchange ∈ exchanges, ∀ call, exchange.request = .service call →
      call = ledger.writeCall item)
    (through : store.Through exchanges after) : ledger.Effect item store after := by
  -- No exchange renames the key of the table, and this is what the rest needs.
  induction through with
  | nil => exact .inl rfl
  | @cons store middle after exchange _ answers _ ih =>
      obtain ⟨here, rest⟩ := List.forall_mem_cons.mp written
      have effect : ledger.Effect item store middle := by
        cases answers with
        | elsewhere => exact .inl rfl
        | service served =>
            obtain rfl := here _ rfl
            exact effect_of_answers keyed (.service served)
      exact effect.trans (ih (effect.keyName_eq.trans keyed) rest)

variable {alertId : Int} {destination : DestinationId} {messageId : String}
  {externalId : Option String} {now : Moment} {outcome : Except Failure Outcome}

/-- A recording that the clock tells the moment of writes one item only. -/
theorem recorded_of_ends (inCalendar : now.InCalendar)
    (clock : ∀ told, ⟨.now, told⟩ ∈ exchanges → told = .ok now)
    (keyed : (store.table ledger.table).keyName = "delivery_key")
    (ended : (ledger.record destination alertId messageId externalId).Ends exchanges outcome)
    (through : store.Through exchanges after) :
    ledger.Effect (DeliveryRecord.toItem alertId destination messageId externalId now) store
      after := by
  cases course_of_ends_record ended with
  | unstamped failure routine =>
      exact .inl (through.eq_of_quiet fun exchange made => (routine exchange made).quiet)
  | @attempted moment recordedAt starting made reporting given _ stamped started attempted routine
      concluded =>
      have own := ownItem_of_attempts stamped started attempted routine
      have told := clock (.ok moment) (by simp)
      cases told
      rw [universal_of_inCalendar inCalendar] at stamped
      cases stamped
      exact effect_of_through keyed own.written through

/-- After a delivery was stored, its look-ups give it back as it was recorded, and all other
look-ups are what they were. -/
theorem looked_up_as_recorded (inCalendar : now.InCalendar)
    (clock : ∀ told, ⟨.now, told⟩ ∈ exchanges → told = .ok now)
    (keyed : (store.table ledger.table).keyName = "delivery_key")
    (vacant : store.row? ledger.table (deliveryKey alertId destination) = none)
    (ended : (ledger.record destination alertId messageId externalId).Ends exchanges outcome)
    (through : store.Through exchanges after)
    (stored : after.row? ledger.table (deliveryKey alertId destination) ≠ none) :
    (∀ result, ledger.LookedUp after alertId destination result ↔
      result = .ok (some ⟨messageId, alertId, destination, externalId.filter (· != ""), .sent,
        some now⟩)) ∧
    ∀ otherAlert otherDestination, (otherAlert, otherDestination) ≠ (alertId, destination) →
      ∀ exchanges result, ledger.LooksUp after otherAlert otherDestination exchanges result ↔
        ledger.LooksUp store otherAlert otherDestination exchanges result := by
  have effect := recorded_of_ends inCalendar clock keyed ended through
  have keyedAfter := effect.keyName_eq.trans keyed
  constructor
  · intro result
    rw [lookedUp_iff keyedAfter]
    rcases effect with rfl | ⟨_, rfl⟩
    · exact (stored vacant).elim
    · have row := row?_stored ledger
        (DeliveryRecord.toItem alertId destination messageId externalId now) store
      rw [rowKey_toItem] at row
      have truthy :
          (DeliveryRecord.toItem alertId destination messageId externalId now).isTruthy = true :=
        rfl
      rw [row, ofRow, if_pos truthy, DeliveryRecord.ofItem_toItem inCalendar]
      rfl
  · intro otherAlert otherDestination different exchanges result
    have apart : deliveryKey otherAlert otherDestination ≠ deliveryKey alertId destination := by
      rw [ne_eq, deliveryKey_inj, ← Prod.mk.injEq]
      exact different
    refine looksUp_iff ⟨effect.keyName_eq.symm, ?_⟩
    exact (effect.row?_apart (by rwa [rowKey_toItem])).symm

end Recording
end Ledger

/-- The moment that the clock tells. -/
def Sample.noon : Moment := ⟨⟨2024, 1, 1⟩, 12, 0, 0, 0, some 0⟩

/-- The first delivery of an alert to the user's inbox is looked up as it was recorded, and that of
another alert as if there had been no recording. -/
theorem Ledger.looked_up_after_first_recording :
    ∃ exchanges outcome after, Sample.noon.InCalendar ∧
      Sample.recording.Ends exchanges outcome ∧ Sample.tables.Through exchanges after ∧
      Sample.ledger.LookedUp after 7 Sample.inboxId
        (.ok (some ⟨"first", 7, Sample.inboxId, none, .sent, some Sample.noon⟩)) ∧
      ∀ exchanges result, Sample.ledger.LooksUp after 8 Sample.inboxId exchanges result ↔
        Sample.ledger.LooksUp Sample.tables 8 Sample.inboxId exchanges result := by
  have inCalendar : Sample.noon.InCalendar :=
    ⟨⟨by decide, by decide, by decide⟩, by decide, by decide, by decide, by decide, rfl⟩
  have clock : ∀ told, ⟨.now, told⟩ ∈ Sample.recording.exchanges (answerWith Sample.answer)
      Sample.tables → told = .ok Sample.noon := by
    intro told made
    obtain ⟨_, given⟩ := answer_of_mem_exchanges made
    exact given
  have stored : ((Sample.recording.run (answerWith Sample.answer) Sample.tables).2.row?
      Sample.ledger.table (deliveryKey 7 Sample.inboxId)).isSome = true := by
    decide +kernel
  have through := through_run Sample.answer Sample.recording Sample.tables
  have ended := ends_run (answerWith Sample.answer) Sample.recording Sample.tables
  obtain ⟨found, others⟩ := looked_up_as_recorded inCalendar clock rfl rfl ended through
    (Option.isSome_iff_ne_none.mp stored)
  exact ⟨_, _, _, inCalendar, ended, through, (found _).mpr rfl,
    others 8 Sample.inboxId (by decide)⟩

end AlertRelay
