import AlertRelay.Proofs.FirstDeliveries
import AlertRelay.Proofs.RaisedDispatches

/-!
# Alerts that are sent again

A message about an alert refers to the first delivery for its alert and destination, unless it is
the message that was delivered first.  Once there is a first delivery, sending messages about the
alert to the destination again and again neither changes it nor anything else in the delivery
table, and each time the result is the one that the channel gave.
-/

namespace AlertRelay

open Program

/-! ## Look-ups -/

theorem Ledger.Reads.unique {alertId : Int} {destination : DestinationId} {response : Json}
    {first second : Option DeliveryRecord} (readFirst : Reads alertId destination response first)
    (readSecond : Reads alertId destination response second) : first = second := by
  cases first with
  | none =>
      cases second with
      | none => rfl
      | some record =>
          obtain ⟨item, itemRead, _⟩ := readSecond
          cases (readFirst : Attribute.itemOf response = .ok none).symm.trans itemRead
  | some record =>
      obtain ⟨item, itemRead, recordRead⟩ := readFirst
      cases second with
      | none => cases (readSecond : Attribute.itemOf response = .ok none).symm.trans itemRead
      | some other =>
          obtain ⟨otherItem, otherItemRead, otherRead⟩ := readSecond
          cases itemRead.symm.trans otherItemRead
          cases recordRead.symm.trans otherRead
          rfl

namespace Store

/-- The first delivery that a table holds for an alert and a destination, if it holds one. -/
inductive Finds (store : Store) (name : String) (alertId : Int) (destination : DestinationId) :
    Option DeliveryRecord → Prop
  | nothing (absent : store.row? name (deliveryKey alertId destination) = none) :
      Finds store name alertId destination none
  | found {record : DeliveryRecord} {row : Json}
      (held : store.row? name (deliveryKey alertId destination) = some row)
      (stored : record.IsStoredAs row) (ofAlert : record.alertId = alertId)
      (ofDestination : record.destinationId = destination) :
      Finds store name alertId destination (some record)

/-- An answer to a look-up in a table of recorded deliveries can be read, and tells what the table
holds. -/
theorem IsRecorded.reads_of_answers {store after : Store} {ledger : Ledger} {alertId : Int}
    {destination : DestinationId} {response : Json} (recorded : store.IsRecorded ledger.table)
    (answers : store.Answers ⟨.service (ledger.readCall alertId destination), .ok response⟩
      after) :
    ∃ found, Ledger.Reads alertId destination response found ∧
      store.Finds ledger.table alertId destination found := by
  have told := answers.tells_row
  cases held : store.row? ledger.table (deliveryKey alertId destination) with
  | none =>
      simp only [held] at told
      subst told
      exact ⟨none, rfl, .nothing held⟩
  | some row =>
      simp only [held] at told
      subst told
      obtain ⟨record, stored, key⟩ := recorded.stored held
      obtain ⟨rfl, rfl⟩ := deliveryKey_inj.mp key
      refine ⟨some record, ⟨row, ?_, stored.ofItem_eq⟩, .found held stored rfl rfl⟩
      rw [Attribute.itemOf_item, stored.isTruthy, if_pos rfl]

end Store

/-- What a look-up finds is what the table holds, as long as nothing but look-ups and reports came
before it. -/
theorem Ledger.finds_of_ends {ledger : Ledger} {store after : Store} {alertId : Int}
    {destination : DestinationId} {looked exchanges : List Exchange}
    {found : Option DeliveryRecord} (recorded : store.IsRecorded ledger.table)
    (ended : (ledger.firstDelivery alertId destination).Ends looked (.ok found))
    (through : store.Through exchanges after)
    (traceless : ∀ exchange ∈ exchanges, exchange.request.Traceless)
    (included : looked ⊆ exchanges) : store.Finds ledger.table alertId destination found := by
  obtain ⟨response, answered, reads⟩ := answered_of_ends_firstDelivery ended
  obtain ⟨past, later, reached, _, rfl, throughPast, answers⟩ :=
    through.answers_of_mem (included answered)
  obtain rfl := throughPast.eq_of_traceless
    fun exchange made => traceless exchange (List.mem_append_left _ made)
  obtain ⟨held, heldReads, finds⟩ := recorded.reads_of_answers answers
  obtain rfl := reads.unique heldReads
  exact finds

/-! ## References -/

/-- What a message about an alert that is sent to a destination refers to: nothing if there is no
row for them or the row is that of the message itself, and the record in the row otherwise. -/
structure RefersTo (store : Store) (table : String) (message : Message)
    (destination : DestinationId) (firstDelivery : Option DeliveryRecord) : Prop where
  none_iff : firstDelivery = none ↔
    store.row? table (deliveryKey message.alertId destination) = none ∨
      ∃ row, store.row? table (deliveryKey message.alertId destination) = some row ∧
        Attribute.textRequired row "message_id" = .ok (.text message.id)
  some_iff : ∀ record, firstDelivery = some record ↔
    ∃ row, store.row? table (deliveryKey message.alertId destination) = some row ∧
      record.IsStoredAs row ∧ record.messageId ≠ message.id
  of_some : ∀ record, firstDelivery = some record →
    record.alertId = message.alertId ∧ record.destinationId = destination

/-- A message refers to what the table holds, unless that is its own delivery. -/
theorem Store.Finds.refersTo {store : Store} {table : String} {message : Message}
    {destination : DestinationId} {found : Option DeliveryRecord}
    (finds : store.Finds table message.alertId destination found) :
    RefersTo store table message destination
      (found.filter fun record => record.messageId != message.id) := by
  cases finds with
  | nothing absent => exact ⟨by simp [absent], by simp [absent], by simp⟩
  | @found record row held stored ofAlert ofDestination =>
      refine ⟨?_, fun other => ?_, fun other refers => ?_⟩
      · simp [held, stored.textRequired_eq, Option.filter_eq_none_iff]
      · simp only [Option.filter_eq_some_iff, Option.some.injEq, held, bne_iff_ne, ne_eq,
          exists_eq_left']
        constructor
        · rintro ⟨rfl, differs⟩
          exact ⟨stored, differs⟩
        · rintro ⟨storedOther, differs⟩
          exact ⟨stored.unique storedOther, differs⟩
      · obtain ⟨same, _⟩ := Option.filter_eq_some_iff.mp refers
        cases same
        exact ⟨ofAlert, ofDestination⟩

namespace Dispatch

variable {site : Site} {registry : Registry} {config : Config} {message sent : Message}
  {payload : Payload} {isFirst : Bool} {front rest : List Exchange}
  {outcome : Except Failure SendResult}

/-- Until a message is built, its dispatch leaves no trace. -/
theorem Built.traceless
    (built : Built site config message (front ++ rest) sent payload isFirst rest)
    (ended : (send site registry config message).Ends (front ++ rest) outcome) :
    ∀ exchange ∈ front, exchange.request.Traceless := by
  obtain ⟨opening, building, inOrder, opened, endedBuild⟩ := built
  obtain ⟨previous, inner, current, steps, endedSteps⟩ := exchanges_of_ends_withContext ended
  have isStarted : ∃ later, inner = started message :: later := by
    cases course_of_ends_sendSteps endedSteps <;> exact ⟨_, rfl⟩
  obtain ⟨later, rfl⟩ := isStarted
  rw [← List.append_assoc] at inOrder
  obtain rfl := List.append_cancel_right inOrder
  have starts : opening ++ (building ++ rest) = [_, _, _] ++ _ :=
    (List.append_assoc ..).symm.trans steps
  obtain ⟨rfl, _⟩ := List.append_inj starts opened
  intro exchange made
  simp only [List.cons_append, List.nil_append, List.mem_cons] at made
  rcases made with rfl | rfl | rfl | inBuilding
  · exact .inl trivial
  · exact .inl trivial
  · exact .inl trivial
  · exact traceless_of_building endedBuild inBuilding

end Dispatch

/-! ## Attempts -/

namespace Attempt

variable {table : String} {attempt : Attempt}

/-- What an attempt at a message about an alert refers to: whatever a look-up is answered, the
answer can be read, and the payload refers to what the table held before the attempt. -/
structure Refers (table : String) (attempt : Attempt) : Prop where
  read : ∀ {alertId destination response},
    (⟨.service (Ledger.readCall ⟨attempt.job.deployment.tables, table⟩ alertId destination),
      .ok response⟩ : Exchange) ∈ attempt.exchanges →
    ∃ found, Ledger.Reads alertId destination response found
  refers : ∀ {sent payload isFirst rest}, attempt.Built table sent payload isFirst rest →
    ∃ content, payload.content = .alert content ∧
      RefersTo attempt.before table attempt.job.message sent.destinationId content.firstDelivery

theorem Made.refers (made : attempt.Made table) (recorded : attempt.before.IsRecorded table)
    (isAlert : attempt.job.message.type = .alert) : attempt.Refers table where
  read := by
    intro alertId destination response answered
    obtain ⟨ended, through⟩ := made
    obtain ⟨past, later, reached, _, inOrder, throughPast, answers⟩ :=
      through.answers_of_mem answered
    rw [inOrder] at ended
    obtain ⟨_, leads, _⟩ := Leads.split ended
    obtain ⟨found, reads, _⟩ :=
      (isRecorded_of_leads leads throughPast recorded).reads_of_answers answers
    exact ⟨found, reads⟩
  refers := by
    intro sent payload isFirst rest built
    obtain ⟨ended, through⟩ := made
    obtain ⟨opening, building, inOrder, outcome⟩ := Dispatch.Built.ofAlert built isAlert
    obtain ⟨sameId, sameAlert, _⟩ := Dispatch.Built.kept_fields built
    -- Everything up to the end of the building leaves the tables alone, so the look-up is answered
    -- from the tables before the attempt.
    rw [← List.append_assoc] at inOrder
    rw [Attempt.Built, inOrder] at built
    rw [inOrder] at ended through
    have traceless := built.traceless ended
    obtain ⟨_, throughFront, _⟩ := through.split
    cases outcome with
    | @carried metadata decision _ _ _ before looked found split lookedUp alert name content
        worded =>
        have included : looked ⊆ opening ++ building := by
          intro exchange made
          simp [split, made]
        have finds := Ledger.finds_of_ends recorded lookedUp throughFront traceless included
        refine ⟨content, rfl, ?_⟩
        rw [BuildOutcome.firstDelivery_of_alertContent worded, sameId]
        rw [sameAlert] at finds
        exact finds.refersTo

/-- The policy suppressed the message of the attempt: it is for a telephone, and the metadata of its
alert lacks the label. -/
def IsSuppressed (attempt : Attempt) : Prop :=
  ∃ metadata,
    (⟨.alertMetadata attempt.job.message.alertId, .ok metadata⟩ : Exchange) ∈ attempt.exchanges ∧
    attempt.job.config.priorityKey ≠ "" ∧ attempt.job.config.priorityValue ≠ "" ∧
    ¬ Priority.Labelled attempt.job.config.priorityKey attempt.job.config.priorityValue metadata ∧
    attempt.job.message.destination.kind = Voice.type

/-- The attempt returns what the channel gave it: if the channel gave a result, the attempt returns
it, and the attempt returns nothing but what sending its payload gave, unless it was suppressed. -/
structure ReturnsGiven (table : String) (attempt : Attempt) : Prop where
  given : ∀ {sent payload isFirst result},
    attempt.job.Provided table attempt.exchanges sent payload isFirst result →
    attempt.outcome = .ok result
  returned : ¬ attempt.IsSuppressed → ∀ {result}, attempt.outcome = .ok result →
    ∃ sent payload isFirst,
      attempt.job.Delivered table attempt.exchanges sent payload isFirst result

theorem Made.returnsGiven (made : attempt.Made table)
    (registered : attempt.job.deployment.types.contains .alert = true)
    (isAlert : attempt.job.message.type = .alert) : attempt.ReturnsGiven table where
  given provided := Dispatch.Provided.outcome_eq provided made.1
  returned := by
    intro unsuppressed result outcome
    have ended := made.1
    rw [outcome] at ended
    rcases Dispatch.outcome_of_ends_send ended with
      ⟨_, _, _, _, _, _, _, same⟩ | ⟨_, building, _, _, _, inOrder, _, endedBuild, _⟩ |
      ⟨sent, payload, isFirst, given, later, built, endedCarry⟩
    · cases same
    · rw [BuildOutcome.ofMessage_alert _ registered isAlert] at endedBuild
      cases BuildOutcome.ofAlert_of_ends endedBuild with
      | @suppressed metadata decision answered decided isSuppressed =>
          have inExchanges : (⟨.alertMetadata attempt.job.message.alertId, .ok metadata⟩ :
              Exchange) ∈ attempt.exchanges := by
            simp [inOrder, answered]
          refine (unsuppressed ⟨metadata, inExchanges, ?_⟩).elim
          cases decided with
          | unlabelled keySet valueSet lacking =>
              exact ⟨keySet, valueSet, lacking, by simpa [Priority.isVoice] using isSuppressed⟩
          | _ => cases isSuppressed
    · exact ⟨sent, payload, isFirst, .intro built endedCarry⟩

end Attempt

/-! ## Sending again -/

/-- However often a message about an alert is sent, whatever its channels and the table service
answer, and whether it is the message of the first delivery or another one: each time it refers to
the first delivery and returns what its channel gave, and when its deliveries have rows already, the
delivery table stays as it is. -/
theorem resends_respect_first_delivery {table : String} {start final : Store}
    {attempts : List Attempt} {message : Message} (recorded : start.IsRecorded table)
    (isAlert : message.type = .alert) (chain : Chain table start attempts final)
    (resends : ∀ attempt ∈ attempts, attempt.job.message = message ∧
      attempt.job.deployment.types.contains .alert = true) :
    (∀ attempt ∈ attempts, attempt.Refers table ∧ attempt.ReturnsGiven table) ∧
    ((∀ attempt ∈ attempts, attempt.job.HasRow table start attempt.exchanges) →
      final.table table = start.table table) := by
  refine ⟨fun attempt member => ?_, chain.table_eq recorded.keyed⟩
  obtain ⟨sameMessage, registered⟩ := resends attempt member
  obtain ⟨earlier, later, rfl⟩ := List.append_of_mem member
  obtain ⟨before, made⟩ := chain.until_attempt
  have isAlertHere : attempt.job.message.type = .alert := by
    rw [sameMessage]
    exact isAlert
  exact ⟨made.refers (before.isRecorded recorded) isAlertHere,
    made.returnsGiven registered isAlertHere⟩

namespace Sample

/-- The job of sending an alert to the user's inbox, with the priority policy off. -/
def inboxJob : Job := ⟨deployment, { config with priorityKey := "" }, alert "first"⟩

/-- The attempt that delivers the alert first. -/
def original : Attempt := .inSurroundings answer deliveries inboxJob tables

/-- The attempt that sends the same message again. -/
def resend : Attempt := .inSurroundings answer deliveries inboxJob original.after

/-- Whether a row is that of a message. -/
def isRowOf (id : String) (row : Json) : Bool :=
  match Attribute.textRequired row "message_id" with
  | .ok (.text messageId) => messageId == id
  | _ => false

theorem textRequired_of_isRowOf {id : String} {row : Json} (ofMessage : isRowOf id row = true) :
    Attribute.textRequired row "message_id" = .ok (.text id) := by
  unfold isRowOf at ofMessage
  split at ofMessage
  · rename_i read
    rw [read, eq_of_beq ofMessage]
  · cases ofMessage

/-- Without the policy, a message is sent to its own destination. -/
theorem destinationId_of_built_resend {sent : Message} {payload : Payload} {isFirst : Bool}
    {rest : List Exchange} (built : resend.Built deliveries sent payload isFirst rest) :
    sent.destinationId = inboxId := by
  obtain ⟨_, _, _, outcome⟩ := Dispatch.Built.ofAlert built rfl
  cases outcome with
  | carried _ decided =>
      cases decided with
      | off => rfl
      | _ => contradiction

end Sample

/-- The message of the first delivery is sent again: it does not refer to itself, and its row stays
the one of the first delivery. -/
theorem resend_of_first_delivery :
    (∃ row, Sample.original.after.row? Sample.deliveries (deliveryKey 7 Sample.inboxId) =
        some row ∧
      Attribute.textRequired row "message_id" = .ok (.text "first")) ∧
    (∃ sent payload content isFirst rest,
      Sample.resend.Built Sample.deliveries sent payload isFirst rest ∧
      payload.content = .alert content ∧ content.firstDelivery = none) ∧
    Sample.resend.after.table Sample.deliveries =
      Sample.original.after.table Sample.deliveries := by
  have madeOriginal : Sample.original.Made Sample.deliveries :=
    Attempt.made_inSurroundings _ _ _ _
  have madeResend : Sample.resend.Made Sample.deliveries := Attempt.made_inSurroundings _ _ _ _
  have recorded : Sample.original.after.IsRecorded Sample.deliveries :=
    (Chain.cons madeOriginal (.nil _)).isRecorded (Store.isRecorded_of_empty rfl)
  have stored : (Sample.original.after.row? Sample.deliveries (deliveryKey 7 Sample.inboxId)).any
      (Sample.isRowOf "first") = true := by
    decide +kernel
  obtain ⟨row, held, isRow⟩ := (Option.any_eq_true ..).mp stored
  have ofFirst := Sample.textRequired_of_isRowOf isRow
  obtain ⟨each, kept⟩ := resends_respect_first_delivery recorded rfl
    (Chain.cons madeResend (.nil _)) (fun attempt member => by
      rw [List.mem_singleton.mp member]
      exact ⟨rfl, rfl⟩)
  obtain ⟨refers, returns⟩ := each _ List.mem_cons_self
  have hasRow : ∀ attempt ∈ [Sample.resend], attempt.job.HasRow Sample.deliveries
      Sample.original.after attempt.exchanges := by
    intro attempt member sent payload isFirst rest built
    rw [List.mem_singleton.mp member] at built ⊢
    rw [Sample.destinationId_of_built_resend built]
    exact Option.isSome_iff_exists.mpr ⟨row, held⟩
  have unsuppressed : ¬ Sample.resend.IsSuppressed := fun ⟨_, _, keySet, _⟩ => keySet rfl
  have passed : passes (fun _ => true) Sample.resend.outcome = true := by
    decide +kernel
  obtain ⟨result, outcome, _⟩ := exists_of_passes passed
  obtain ⟨sent, payload, isFirst, given, later, built, _⟩ := returns.returned unsuppressed outcome
  obtain ⟨content, isAlert, refersTo⟩ := refers.refers built
  rw [Sample.destinationId_of_built_resend built] at refersTo
  have noReference := refersTo.none_iff.mpr (.inr ⟨row, held, ofFirst⟩)
  exact ⟨⟨row, held, ofFirst⟩,
    ⟨sent, payload, content, isFirst, _, built, isAlert, noReference⟩, kept hasRow⟩

end AlertRelay
