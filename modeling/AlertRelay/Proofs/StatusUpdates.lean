import AlertRelay.Proofs.DispatchRuns

/-!
# Status updates

A status update refers to the first delivery for its alert and destination.  Along a run that
starts from an empty delivery table, a recipient is reached on behalf of a status update only after
an earlier message about the alert was delivered to the destination and recorded first, and the
status update refers to that message.
-/

namespace AlertRelay

open Program

namespace Dispatch

variable {table : String} {job : Job} {exchanges rest : List Exchange} {sent : Message}
  {payload : Payload} {isFirst : Bool} {store after : Store}

/-- A status update that was built read the row of its first delivery while it was built, and its
payload carries the record in that row. -/
theorem Built.row_of_status
    (built : Built (job.deployment.site table) job.config job.message exchanges sent payload
      isFirst rest)
    (registered : job.deployment.types.contains .alertStatus = true)
    (isStatus : job.message.type = .alertStatus) (through : store.Through exchanges after) :
    ∃ past further reached row content,
      exchanges = past ++ further ∧ store.Through past reached ∧
      reached.row? table (deliveryKey job.message.alertId job.message.destinationId) = some row ∧
      payload.content = .alertStatus content ∧
      DeliveryRecord.ofItem job.message.alertId job.message.destinationId row =
        .ok content.firstDelivery := by
  obtain ⟨opening, building, rfl, _, ended⟩ := built
  rw [BuildOutcome.ofMessage_status job.config registered isStatus] at ended
  obtain ⟨before, looked, record, alert, entry, rfl, lookedUp, same⟩ :=
    BuildOutcome.ofStatus_of_ends ended
  cases same
  obtain ⟨response, answered, item, itemRead, recordRead⟩ :=
    Ledger.answered_of_ends_firstDelivery lookedUp
  have made : (⟨.service (Ledger.readCall ⟨job.deployment.tables, table⟩ job.message.alertId
      job.message.destinationId), .ok response⟩ : Exchange) ∈
        opening ++ (before ++ looked ++ rest) := by
    simp only [List.mem_append]
    exact .inr (.inl (.inr answered))
  obtain ⟨past, further, reached, next, inOrder, throughPast, answers⟩ :=
    through.answers_of_mem made
  have told := answers.tells_row
  cases found : reached.row? table
      (deliveryKey job.message.alertId job.message.destinationId) with
  | none =>
      simp only [found] at told
      rw [told] at itemRead
      cases itemRead
  | some row =>
      simp only [found] at told
      rw [told, Attribute.itemOf_item] at itemRead
      split at itemRead
      · cases itemRead
        exact ⟨past, _, reached, item, _, inOrder, throughPast, found, rfl, recordRead⟩
      · cases itemRead

end Dispatch

/-- The attempt delivered a message about the alert to the destination, as it was sent, and its row
is the first one that was stored for them. -/
def IsOriginal (table : String) (alertId : Int) (destination : DestinationId)
    (original : Attempt) : Prop :=
  original.job.message.type = .alert ∧ original.job.message.alertId = alertId ∧
    ∃ sent payload result recordedAt,
      original.job.Provided table original.exchanges sent payload true result ∧
      result.isOk = true ∧ sent.destinationId = destination ∧
      original.before.row? table (deliveryKey alertId destination) = none ∧
      original.after.row? table (deliveryKey alertId destination) =
        some (DeliveryRecord.toItem alertId destination original.job.message.id result.externalId
          recordedAt)

variable {table : String} {start final : Store} {earlier : List Attempt} {attempt : Attempt}

/-- A row that was stored along a chain is that of an original. -/
theorem Chain.exists_original (chain : Chain table start earlier final)
    (keyed : (start.table table).keyName = "delivery_key") {alertId : Int}
    {destination : DestinationId} {row : Json}
    (absent : start.row? table (deliveryKey alertId destination) = none)
    (stored : final.row? table (deliveryKey alertId destination) = some row) :
    ∃ original ∈ earlier, IsOriginal table alertId destination original ∧
      ∃ externalId recordedAt,
        row = DeliveryRecord.toItem alertId destination original.job.message.id externalId
          recordedAt := by
  obtain ⟨original, member, before, after, isAlert, sent, payload, result, recordedAt, provided,
    success, sameKey, sameRow⟩ := chain.exists_rowOf keyed absent stored
  obtain ⟨rfl, rfl⟩ := deliveryKey_inj.mp sameKey
  exact ⟨original, member, ⟨isAlert, rfl, sent, payload, result, recordedAt, provided, success, rfl,
    before, sameRow ▸ after⟩, result.externalId, recordedAt, sameRow⟩

/-- A status update that was built refers to an original before it. -/
theorem Chain.original_of_built_status (chain : Chain table start earlier attempt.before)
    (keyed : (start.table table).keyName = "delivery_key")
    (empty : ∀ key, start.row? table key = none) (made : attempt.Made table)
    (registered : attempt.job.deployment.types.contains .alertStatus = true)
    (isStatus : attempt.job.message.type = .alertStatus) {sent : Message} {payload : Payload}
    {isFirst : Bool} {rest : List Exchange}
    (built : attempt.Built table sent payload isFirst rest) :
    ∃ original ∈ earlier,
      IsOriginal table attempt.job.message.alertId attempt.job.message.destinationId original ∧
      ∃ content, payload.content = .alertStatus content ∧
        content.firstDelivery.messageId = original.job.message.id := by
  obtain ⟨ended, through⟩ := made
  obtain ⟨past, further, reached, row, content, inOrder, throughPast, found, statusContent,
    recordRead⟩ := Dispatch.Built.row_of_status built registered isStatus through
  have keyedBefore := chain.keyName_eq keyed
  rw [inOrder] at ended
  obtain ⟨middle, leads, _⟩ := Leads.split ended
  -- A status update stores no row itself, so the row was there before it.
  have foundBefore : attempt.before.row? table
      (deliveryKey attempt.job.message.alertId attempt.job.message.destinationId) = some row := by
    cases there : attempt.before.row? table
        (deliveryKey attempt.job.message.alertId attempt.job.message.destinationId) with
    | none =>
        have isAlert := (rowOf_of_leads leads throughPast keyedBefore there found).1
        rw [isStatus] at isAlert
        cases isAlert
    | some held =>
        exact (row?_of_leads leads throughPast keyedBefore there).symm.trans found
  obtain ⟨original, member, isOriginal, externalId, recordedAt, rfl⟩ :=
    chain.exists_original keyed (empty _) foundBefore
  exact ⟨original, member, isOriginal, content, statusContent,
    DeliveryRecord.messageId_of_ofItem_toItem recordRead⟩

section Runs

variable {tables : TableClient} {signals : SignalSource} {providers : List Provider}
  {calls : List Call} {later : List Attempt}

theorem Run.registered (run : Run table (.complete tables signals providers) start calls
      (earlier ++ attempt :: later) final) (type : MessageType) :
    attempt.job.deployment.types.contains type = true := by
  rw [run.deployment_eq attempt (by simp)]
  cases type <;> rfl

/-- In a run from an empty delivery table, a status update that was built refers to an original
before it. -/
theorem Run.original_of_built_status (empty : start.table table = ⟨"delivery_key", []⟩)
    (run : Run table (.complete tables signals providers) start calls
      (earlier ++ attempt :: later) final)
    (isStatus : attempt.job.message.type = .alertStatus) {sent : Message} {payload : Payload}
    {isFirst : Bool} {rest : List Exchange}
    (built : attempt.Built table sent payload isFirst rest) :
    ∃ original ∈ earlier,
      IsOriginal table attempt.job.message.alertId attempt.job.message.destinationId original ∧
      ∃ content, payload.content = .alertStatus content ∧
        content.firstDelivery.messageId = original.job.message.id := by
  obtain ⟨chain, made⟩ := run.chain.until_attempt
  have keyed : (start.table table).keyName = "delivery_key" := by
    rw [empty]
  have noRows (key : String) : start.row? table key = none := by
    rw [Store.row?, empty]
    rfl
  exact chain.original_of_built_status keyed noRows made (run.registered .alertStatus) isStatus
    built

/-- Whatever calls were executed from an empty delivery table, they come down to attempts of which
one at a status update reaches a recipient only after its original. -/
theorem Executed.exists_originals (empty : start.table table = ⟨"delivery_key", []⟩)
    (executed : Executed table (.complete tables signals providers) start calls final) :
    ∃ attempts, Run table (.complete tables signals providers) start calls attempts final ∧
      ∀ earlier attempt later, attempts = earlier ++ attempt :: later →
        attempt.job.message.type = .alertStatus →
        (∃ exchange ∈ attempt.exchanges, exchange.request.Outbound) →
        ∃ original ∈ earlier,
          IsOriginal table attempt.job.message.alertId attempt.job.message.destinationId
            original := by
  obtain ⟨attempts, run⟩ := executed.exists_run
  refine ⟨attempts, run, ?_⟩
  rintro earlier attempt later rfl isStatus ⟨exchange, member, outbound⟩
  have made := run.chain.until_attempt.2
  obtain ⟨sent, payload, isFirst, given, built⟩ := made.isHandedOver_of_outbound member outbound
  obtain ⟨original, among, isOriginal, _⟩ := run.original_of_built_status empty isStatus built
  exact ⟨original, among, isOriginal⟩

/-- In a run from an empty delivery table, a status update is handed to a channel, and a recipient
is reached on behalf of it, only when an earlier attempt is its original, and its payload refers to
the message of that attempt.  Without an original, the dispatch of the status update fails and
reaches nobody. -/
theorem status_update_follows_original (empty : start.table table = ⟨"delivery_key", []⟩)
    (run : Run table (.complete tables signals providers) start calls
      (earlier ++ attempt :: later) final)
    (isStatus : attempt.job.message.type = .alertStatus) :
    ((attempt.IsHandedOver table ∨ ∃ exchange ∈ attempt.exchanges, exchange.request.Outbound) →
      ∃ original ∈ earlier,
        IsOriginal table attempt.job.message.alertId attempt.job.message.destinationId original ∧
        ∃ payload content given,
          attempt.Built table attempt.job.message payload false given ∧
          payload.content = .alertStatus content ∧
          content.firstDelivery.messageId = original.job.message.id) ∧
    ((∀ original ∈ earlier,
        ¬ IsOriginal table attempt.job.message.alertId attempt.job.message.destinationId
          original) →
      (∃ failure, attempt.outcome = .error failure) ∧ ¬ attempt.IsHandedOver table ∧
        ∀ exchange ∈ attempt.exchanges, ¬ exchange.request.Outbound) := by
  have made := run.chain.until_attempt.2
  constructor
  · intro reaches
    have handedOver : attempt.IsHandedOver table := by
      rcases reaches with handedOver | ⟨exchange, member, outbound⟩
      · exact handedOver
      · exact made.isHandedOver_of_outbound member outbound
    obtain ⟨sent, payload, isFirst, given, built⟩ := handedOver
    obtain ⟨original, member, isOriginal, content, statusContent, refers⟩ :=
      run.original_of_built_status empty isStatus built
    have noAlert : attempt.job.message.type ≠ .alert := by
      rw [isStatus]
      decide
    obtain ⟨rfl, rfl, _⟩ := Dispatch.Built.plain built noAlert
    exact ⟨original, member, isOriginal, payload, content, given, built, statusContent, refers⟩
  · intro noOriginal
    have unbuilt : ¬ attempt.IsHandedOver table := by
      rintro ⟨sent, payload, isFirst, given, built⟩
      obtain ⟨original, member, isOriginal, _⟩ :=
        run.original_of_built_status empty isStatus built
      exact noOriginal original member isOriginal
    refine ⟨?_, unbuilt, ?_⟩
    · cases outcome : attempt.outcome with
      | error failure => exact ⟨failure, rfl⟩
      | ok result =>
          have ended := made.1
          rw [outcome] at ended
          exact (unbuilt (Dispatch.exists_built_of_status (run.registered .alertStatus) isStatus
            ended)).elim
    · intro exchange member outbound
      exact unbuilt (made.isHandedOver_of_outbound member outbound)

end Runs

/-- A status update that is sent after a message about its alert refers to that message. -/
theorem status_update_follows_first :
    IsOriginal Sample.deliveries 7 Sample.telephoneId Sample.first := by
  have isStatus : Sample.second.job.message.type = .alertStatus := rfl
  have handedOver : Sample.second.IsHandedOver Sample.deliveries := by
    have passed : passes SendResult.isOk Sample.second.outcome = true := by
      decide +kernel
    obtain ⟨result, outcome, _⟩ := exists_of_passes passed
    have made := Sample.run_first_second.chain.until_attempt.2
    have ended := made.1
    rw [outcome] at ended
    exact Dispatch.exists_built_of_status (Sample.run_first_second.registered .alertStatus) isStatus
      ended
  obtain ⟨original, member, isOriginal, _⟩ :=
    (status_update_follows_original rfl Sample.run_first_second isStatus).1 (.inl handedOver)
  rw [List.mem_singleton.mp member] at isOriginal
  exact isOriginal

end AlertRelay
