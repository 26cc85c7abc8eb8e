import AlertRelay.Proofs.DispatchRuns
import AlertRelay.Proofs.StoredMoments

/-!
# Tables of first deliveries

A table that holds only rows which recording a delivery writes stays such a table whatever
dispatches do, and every row of it can be read: it gives back the delivery that was recorded.  A
dispatch whose delivery is in the table already leaves the table as it is.
-/

namespace AlertRelay

open Program

namespace DeliveryRecord

section Items

variable {alertId : Int} {destination : DestinationId} {messageId : String}
  {externalId : Option String} {recordedAt : Moment}

theorem textOr_recordedAt :
    Attribute.textOr (toItem alertId destination messageId externalId recordedAt) "recorded_at"
      .null = .ok (.text recordedAt.storedText) :=
  rfl

theorem textOr_externalId :
    Attribute.textOr (toItem alertId destination messageId externalId recordedAt) "external_id"
      .null = .ok (Json.ofText? (externalId.filter (· != ""))) := by
  unfold toItem
  cases destination <;> cases externalId.filter (· != "") <;> rfl

theorem momentOf_storedText (inCalendar : recordedAt.InCalendar) :
    momentOf (.text recordedAt.storedText) = .ok (some recordedAt) := by
  have read := Moment.ofStoredText_storedText inCalendar
  have nonempty : recordedAt.storedText ≠ "" := by
    intro empty
    rw [empty] at read
    cases read
  simp [momentOf, Json.isTruthy, nonempty, read]

theorem optionalText_ofText? (name : String) (text : Option String) :
    optionalText name (Json.ofText? (text.filter (· != ""))) =
      .valid (text.filter (· != "")) := by
  cases found : text.filter (· != "") with
  | none => rfl
  | some value =>
      have nonempty : value ≠ "" := by
        simpa using (Option.filter_eq_some_iff.mp found).2
      simp [optionalText, Json.ofText?, Json.isTruthy, nonempty, Scalar.text, Checked.map,
        Checked.within]

/-- The row of a delivery gives back the delivery. -/
theorem ofItem_toItem (inCalendar : recordedAt.InCalendar) :
    ofItem alertId destination (toItem alertId destination messageId externalId recordedAt) =
      .ok ⟨messageId, alertId, destination, externalId.filter (· != ""), .sent,
        some recordedAt⟩ := by
  have state : (Attribute.textOr (toItem alertId destination messageId externalId recordedAt)
      "state" (.text SendState.sent.name)).bind stateOf = .ok .sent :=
    rfl
  simp only [ofItem, except_bind_eq_ok, Checked.orFail_eq_ok, Checked.seq_eq_valid,
    Checked.map_eq_valid, Checked.within_eq_valid]
  exact ⟨_, textOr_recordedAt, _, textRequired_toItem .., _, textOr_externalId, _, state, _,
    momentOf_storedText inCalendar, _, _, ⟨_, rfl, rfl⟩, optionalText_ofText? _ _, rfl⟩

end Items

/-- The row is what recording a delivery writes, and the record is that of the delivery. -/
inductive IsStoredAs : DeliveryRecord → Json → Prop
  | written (alertId : Int) (destination : DestinationId) (messageId : String)
      (externalId : Option String) {now recordedAt : Moment}
      (stamped : Ledger.universal now = .ok recordedAt) :
      IsStoredAs
        ⟨messageId, alertId, destination, externalId.filter (· != ""), .sent, some recordedAt⟩
        (toItem alertId destination messageId externalId recordedAt)

theorem inCalendar_of_universal {now recordedAt : Moment}
    (stamped : Ledger.universal now = .ok recordedAt) : recordedAt.InCalendar := by
  rw [Ledger.universal] at stamped
  split at stamped
  · rename_i brought
    cases stamped
    exact Moment.inCalendar_of_toUniversal? brought
  · cases stamped

namespace IsStoredAs

variable {record other : DeliveryRecord} {row : Json}

theorem keyOf_eq (stored : record.IsStoredAs row) :
    Table.keyOf "delivery_key" row = deliveryKey record.alertId record.destinationId := by
  cases stored with
  | written => exact keyOf_toItem ..

theorem ofItem_eq (stored : record.IsStoredAs row) :
    ofItem record.alertId record.destinationId row = .ok record := by
  cases stored with
  | written _ _ _ _ stamped => exact ofItem_toItem (inCalendar_of_universal stamped)

theorem textRequired_eq (stored : record.IsStoredAs row) :
    Attribute.textRequired row "message_id" = .ok (.text record.messageId) := by
  cases stored with
  | written => exact textRequired_toItem ..

theorem isTruthy (stored : record.IsStoredAs row) : row.isTruthy = true := by
  cases stored with
  | written => rfl

/-- A row is that of one delivery only. -/
theorem unique (stored : record.IsStoredAs row) (storedOther : other.IsStoredAs row) :
    record = other := by
  have sameKey := stored.keyOf_eq.symm.trans storedOther.keyOf_eq
  obtain ⟨sameAlert, sameDestination⟩ := deliveryKey_inj.mp sameKey
  have read := stored.ofItem_eq
  rw [sameAlert, sameDestination, storedOther.ofItem_eq] at read
  exact (Except.ok.inj read).symm

end IsStoredAs
end DeliveryRecord

namespace Store

variable {store after : Store} {exchange : Exchange} {name : String}

/-- Every row of the table is what recording a delivery writes, under the key of the delivery. -/
structure IsRecorded (store : Store) (name : String) : Prop where
  keyed : (store.table name).keyName = "delivery_key"
  stored : ∀ {key row}, store.row? name key = some row → ∃ record : DeliveryRecord,
    record.IsStoredAs row ∧ key = deliveryKey record.alertId record.destinationId

theorem isRecorded_of_empty (empty : store.table name = ⟨"delivery_key", []⟩) :
    store.IsRecorded name where
  keyed := by
    rw [empty]
  stored held := by
    rw [row?, empty] at held
    cases held

/-- An exchange that writes only rows of deliveries adds nothing else to the table. -/
theorem IsRecorded.of_answers (recorded : store.IsRecorded name)
    (answers : store.Answers exchange after) (spares : exchange.request.SparesDeliveries)
    (written : ∀ call item, exchange.request = .service call →
      call.operation = .putItem name item Ledger.firstWrite →
      ∃ record : DeliveryRecord, record.IsStoredAs item) : after.IsRecorded name where
  keyed := (answers.keyName_eq spares).trans recorded.keyed
  stored := by
    intro key row held
    rcases answers.row?_eq recorded.keyed spares key with
      same | ⟨call, item, made, operation, place, _, present⟩
    · exact recorded.stored (same.symm.trans held)
    · obtain ⟨record, stored⟩ := written call item made operation
      obtain rfl := Option.some.inj (present.symm.trans held)
      exact ⟨record, stored, place.trans stored.keyOf_eq⟩

end Store

/-! ## Dispatches -/

namespace Concurrent

variable {ι : Type} [DecidableEq ι] {table : String} {jobs : ι → Job} {start : Store}
  {state : State ι}

/-- Whatever dispatches do, a table of recorded deliveries stays one. -/
theorem isRecorded_of_reaches (recorded : start.IsRecorded table)
    (reachable : Reaches (.start table jobs start) state) : state.store.IsRecorded table := by
  induction reachable with
  | refl => exact recorded
  | tail before step ih =>
      cases step with
      | answered waiting answers =>
          have stage := stage_of_waiting before waiting
          refine ih.of_answers answers stage.spares ?_
          rintro call item rfl operation
          obtain ⟨_, _, _, _, _, _, _, stamped, rfl⟩ := stage.row_of_putItem operation
          exact ⟨_, .written _ _ _ _ stamped⟩

end Concurrent

theorem isRecorded_of_leads {table : String} {job : Job} {exchanges : List Exchange}
    {rest : Program SendResult} {store after : Store}
    (leads : (job.program table).Leads exchanges rest) (through : store.Through exchanges after)
    (recorded : store.IsRecorded table) : after.IsRecorded table :=
  Concurrent.isRecorded_of_reaches recorded (Concurrent.reaches_alone leads through)

theorem Chain.isRecorded {table : String} {start final : Store} {attempts : List Attempt}
    (chain : Chain table start attempts final) (recorded : start.IsRecorded table) :
    final.IsRecorded table := by
  induction chain with
  | nil => exact recorded
  | cons made _ ih => exact ih (isRecorded_of_leads made.1 made.2 recorded)

/-! ## Dispatches of recorded deliveries -/

namespace Store

variable {store after : Store} {operation : Operation} {answer : Except Failure Json}
  {name : String}

/-- What is carried out leaves a table of deliveries alone, unless it stores a row that was not
there. -/
theorem table_carriedOut (keyed : (store.table name).keyName = "delivery_key")
    (spares : operation.SparesDeliveries) (admitted : store.admits operation)
    (occupied : ∀ item, operation = .putItem name item Ledger.firstWrite →
      (store.row? name (Table.keyOf "delivery_key" item)).isSome) :
    (store.carriedOut operation).table name = store.table name := by
  cases operation with
  | getItem => rfl
  | query => rfl
  | other => exact spares.elim
  | deleteItem other given options =>
      obtain ⟨endpoint, rfl⟩ := spares
      by_cases same : name = other
      · subst same
        exact (not_admits_endpoint keyed admitted).elim
      · exact table_setTable_of_ne _ _ same
  | putItem other item options =>
      obtain rfl : options = Ledger.firstWrite := spares
      by_cases same : name = other
      · subst same
        have present := occupied item rfl
        rw [row?_eq_none_of_admits_firstWrite keyed admitted] at present
        cases present
      · exact table_setTable_of_ne _ _ same

theorem Serves.table_eq (served : store.Serves operation answer after)
    (keyed : (store.table name).keyName = "delivery_key") (spares : operation.SparesDeliveries)
    (occupied : ∀ item, operation = .putItem name item Ledger.firstWrite →
      (store.row? name (Table.keyOf "delivery_key" item)).isSome) :
    after.table name = store.table name := by
  cases served with
  | failed => rfl
  | unacknowledged admitted => exact table_carriedOut keyed spares admitted occupied
  | answered admitted => exact table_carriedOut keyed spares admitted occupied
  | unknown => exact spares.elim

theorem Answers.table_eq {exchange : Exchange} (answers : store.Answers exchange after)
    (keyed : (store.table name).keyName = "delivery_key")
    (spares : exchange.request.SparesDeliveries)
    (occupied : ∀ call item, exchange.request = .service call →
      call.operation = .putItem name item Ledger.firstWrite →
      (store.row? name (Table.keyOf "delivery_key" item)).isSome) :
    after.table name = store.table name := by
  cases answers with
  | elsewhere => rfl
  | service served => exact served.table_eq keyed spares fun item => occupied _ item rfl

end Store

/-- If the job's message was built with the exchanges, then its delivery, as it is sent, has a row
in the delivery table. -/
def Job.HasRow (job : Job) (table : String) (store : Store) (past : List Exchange) : Prop :=
  ∀ sent payload isFirst rest,
    Dispatch.Built (job.deployment.site table) job.config job.message past sent payload isFirst
      rest →
    (store.row? table (deliveryKey job.message.alertId sent.destinationId)).isSome

theorem Job.HasRow.of_append {job : Job} {table : String} {store : Store}
    {past more : List Exchange} (hasRow : job.HasRow table store (past ++ more)) :
    job.HasRow table store past :=
  fun _ _ _ _ built => hasRow _ _ _ _ (built.append more)

namespace Concurrent

variable {ι : Type} [DecidableEq ι] {table : String} {jobs : ι → Job} {start : Store}
  {state : State ι}

/-- Dispatches of deliveries that are in the table leave the table as it is. -/
theorem table_eq_of_reaches (keyed : (start.table table).keyName = "delivery_key")
    (reachable : Reaches (.start table jobs start) state)
    (hasRow : ∀ i, (jobs i).HasRow table start (state.past i)) :
    state.store.table table = start.table table := by
  induction reachable with
  | refl => rfl
  | @tail middle _ before step ih =>
      cases step with
      | @answered j request next answer after waiting answers =>
          -- What was built before the step is still built after it, so it has its row already.
          have hasRowBefore (i : ι) : (jobs i).HasRow table start (middle.past i) := by
            obtain ⟨more, longer⟩ := past_advance middle j i ⟨request, answer⟩ (next answer) after
            exact (longer ▸ hasRow i).of_append
          have same := ih hasRowBefore
          have stage := stage_of_waiting before waiting
          refine (answers.table_eq (keyName_of_reaches keyed before) stage.spares ?_).trans same
          rintro call item rfl operation
          obtain ⟨_, _, _, _, _, delivered, _, _, rfl⟩ := stage.row_of_putItem operation
          obtain ⟨_, _, built, _⟩ := delivered
          rw [DeliveryRecord.keyOf_toItem, Store.row?, same]
          exact hasRowBefore j _ _ _ _ built

end Concurrent

/-- An attempt at a delivery that has a row leaves the table as it is. -/
theorem Attempt.Made.table_eq {table : String} {attempt : Attempt} (made : attempt.Made table)
    (keyed : (attempt.before.table table).keyName = "delivery_key")
    (hasRow : attempt.job.HasRow table attempt.before attempt.exchanges) :
    attempt.after.table table = attempt.before.table table :=
  Concurrent.table_eq_of_reaches keyed (Concurrent.reaches_alone made.1 made.2) fun _ => hasRow

/-- Attempts at deliveries that have rows at the start leave the table as it is. -/
theorem Chain.table_eq {table : String} {start final : Store} {attempts : List Attempt}
    (chain : Chain table start attempts final)
    (keyed : (start.table table).keyName = "delivery_key")
    (hasRow : ∀ attempt ∈ attempts, attempt.job.HasRow table start attempt.exchanges) :
    final.table table = start.table table := by
  induction chain with
  | nil => rfl
  | @cons attempt attempts final made _ ih =>
      have same := made.table_eq keyed (hasRow attempt List.mem_cons_self)
      refine (ih (made.keyName_eq keyed) fun other member => ?_).trans same
      intro sent payload isFirst rest built
      rw [Store.row?, same]
      exact hasRow other (List.mem_cons_of_mem _ member) sent payload isFirst rest built

end AlertRelay
