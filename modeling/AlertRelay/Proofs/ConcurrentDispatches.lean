import AlertRelay.Proofs.Surroundings
import Mathlib.Logic.Function.Basic
import Mathlib.Logic.Relation

/-!
# Concurrent dispatches

Any number of dispatches share one delivery table.  In each step one of them makes its next request
and is answered, so a dispatch may be overtaken between any two of its requests.  The service
carries out single operations, any of which may fail, and reads and writes of one dispatch are
separate steps.

A row of the delivery table is stored once: it is the row of a first delivery that succeeded, and
no step changes or removes it.
-/

namespace AlertRelay

open Program

/-- What the dispatches of a deployment work with, except for the delivery table. -/
structure Deployment where
  tables : TableClient
  signals : SignalSource
  types : List MessageType
  providers : List Provider

namespace Deployment

/-- A deployment with a way to a payload for every type of message. -/
def complete (tables : TableClient) (signals : SignalSource) (providers : List Provider) :
    Deployment :=
  ⟨tables, signals, MessageType.all, providers⟩

variable (deployment : Deployment)

/-- The site of a deployment, with its ledger in the delivery table. -/
def site (table : String) : Site :=
  ⟨⟨deployment.tables, table⟩, deployment.signals, deployment.types⟩

/-- The channels of a deployment. -/
def registry : Registry := Registry.ofProviders deployment.providers

end Deployment

/-- A message to send, with the deployment and the configuration that it is sent in. -/
structure Job where
  deployment : Deployment
  config : Config
  message : Message

namespace Job

variable (job : Job) (table : String)

/-- The dispatch of a job. -/
def program : Program SendResult :=
  Dispatch.send (job.deployment.site table) job.deployment.registry job.config job.message

/-- The job's message was built and provided to its channel, with the result. -/
def Provided (past : List Exchange) (sent : Message) (payload : Payload) (isFirst : Bool)
    (result : SendResult) : Prop :=
  Dispatch.Provided (job.deployment.site table) job.deployment.registry job.config job.message
    past sent payload isFirst result

/-- The job's message was built and delivered, with the result. -/
def Delivered (past : List Exchange) (sent : Message) (payload : Payload) (isFirst : Bool)
    (result : SendResult) : Prop :=
  Dispatch.Delivered (job.deployment.site table) job.deployment.registry job.config job.message
    past sent payload isFirst result

end Job

namespace Sample

def deployment : Deployment := .complete ⟨[], [], 10⟩ .supplied providers

/-- Two messages about one alert. -/
def pair (second : Bool) : Job := ⟨deployment, config, alert (if second then "2" else "1")⟩

end Sample

namespace Concurrent

variable {ι : Type} [DecidableEq ι]

/-- The tables, and for each dispatch its exchanges so far and the rest of it. -/
structure State (ι : Type) where
  store : Store
  past : ι → List Exchange
  rest : ι → Program SendResult

namespace State

/-- The state before the first request of any dispatch. -/
def start (table : String) (jobs : ι → Job) (store : Store) : State ι where
  store
  past _ := []
  rest i := (jobs i).program table

/-- The state after a dispatch was answered. -/
def advance (state : State ι) (i : ι) (exchange : Exchange) (later : Program SendResult)
    (after : Store) : State ι where
  store := after
  past := Function.update state.past i (state.past i ++ [exchange])
  rest := Function.update state.rest i later

end State

/-- One dispatch makes its next request and is answered. -/
inductive Step (state : State ι) : State ι → Prop
  | answered {i : ι} {request : Request} {next : request.Answer → Program SendResult}
      {answer : request.Answer} {after : Store} (waiting : state.rest i = .ask request next)
      (answers : state.store.Answers ⟨request, answer⟩ after) :
      Step state (state.advance i ⟨request, answer⟩ (next answer) after)

/-- The later state can be reached from the earlier one. -/
def Reaches (earlier later : State ι) : Prop := Relation.ReflTransGen Step earlier later

variable {table : String} {jobs : ι → Job} {start : Store} {state later : State ι}

/-- Every dispatch has come to where its exchanges lead. -/
theorem leads_of_reaches (reachable : Reaches (.start table jobs start) state) (i : ι) :
    ((jobs i).program table).Leads (state.past i) (state.rest i) := by
  induction reachable with
  | refl => exact .start _
  | tail _ step ih =>
      cases step with
      | @answered j request next answer after waiting answers =>
          by_cases same : i = j
          · subst same
            rw [waiting] at ih
            simp only [State.advance, Function.update_self]
            exact ih.append (.step (.start _))
          · simp only [State.advance, Function.update_of_ne same]
            exact ih

/-- The next request of a dispatch belongs to one of its stages. -/
theorem stage_of_waiting (reachable : Reaches (.start table jobs start) state) {i : ι}
    {request : Request} {next : request.Answer → Program SendResult}
    (waiting : state.rest i = .ask request next) :
    Dispatch.Stage ((jobs i).deployment.site table) (jobs i).deployment.registry (jobs i).config
      (jobs i).message (state.past i) request := by
  have leads := leads_of_reaches reachable i
  rw [waiting] at leads
  exact Dispatch.stage_of_asks_send ⟨next, leads⟩

theorem keyName_of_reaches (keyed : (start.table table).keyName = "delivery_key")
    (reachable : Reaches (.start table jobs start) state) :
    (state.store.table table).keyName = "delivery_key" := by
  induction reachable with
  | refl => exact keyed
  | tail before step ih =>
      cases step with
      | answered waiting answers =>
          have stage := stage_of_waiting before waiting
          exact (answers.keyName_eq stage.spares).trans ih

/-- A step keeps every row. -/
theorem row?_of_step (keyed : (start.table table).keyName = "delivery_key")
    (reachable : Reaches (.start table jobs start) state) (step : Step state later) {key : String}
    {row : Json} (stored : state.store.row? table key = some row) :
    later.store.row? table key = some row := by
  cases step with
  | answered waiting answers =>
      have stage := stage_of_waiting reachable waiting
      rcases answers.row?_eq (keyName_of_reaches keyed reachable) stage.spares key with
        same | ⟨_, _, _, _, _, absent, _⟩
      · exact same.trans stored
      · rw [absent] at stored
        cases stored

/-- A row stays as it was stored. -/
theorem row?_of_reaches (keyed : (start.table table).keyName = "delivery_key")
    (reachable : Reaches (.start table jobs start) state) (onward : Reaches state later)
    {key : String} {row : Json} (stored : state.store.row? table key = some row) :
    later.store.row? table key = some row := by
  induction onward with
  | refl => exact stored
  | tail before step ih => exact row?_of_step keyed (reachable.trans before) step ih

/-- A row is the row of a job when the job is about an alert, its channel gave a successful result
to a first delivery, and the row is stored under the key of the alert and the destination as sent,
with the id of the message. -/
def RowOf (table : String) (job : Job) (past : List Exchange) (key : String) (row : Json) : Prop :=
  job.message.type = .alert ∧
    ∃ sent payload result recordedAt, job.Provided table past sent payload true result ∧
      result.isOk = true ∧ key = deliveryKey job.message.alertId sent.destinationId ∧
      row = DeliveryRecord.toItem job.message.alertId sent.destinationId job.message.id
        result.externalId recordedAt

theorem RowOf.append {job : Job} {past : List Exchange} {key : String} {row : Json}
    (rowOf : RowOf table job past key row) (more : List Exchange) :
    RowOf table job (past ++ more) key row := by
  obtain ⟨isAlert, sent, payload, result, recordedAt, provided, success, atKey, stored⟩ := rowOf
  exact ⟨isAlert, sent, payload, result, recordedAt, provided.append more, success, atKey, stored⟩

theorem past_advance (state : State ι) (i j : ι) (exchange : Exchange)
    (remaining : Program SendResult) (after : Store) :
    ∃ more, (state.advance i exchange remaining after).past j = state.past j ++ more := by
  by_cases same : j = i
  · subst same
    exact ⟨[exchange], by simp [State.advance]⟩
  · exact ⟨[], by simp [State.advance, Function.update_of_ne same]⟩

/-- A row that was not there at the start is the row of one of the jobs. -/
theorem rowOf_of_reaches (keyed : (start.table table).keyName = "delivery_key")
    (reachable : Reaches (.start table jobs start) state) {key : String} {row : Json}
    (absent : start.row? table key = none) (stored : state.store.row? table key = some row) :
    ∃ i, RowOf table (jobs i) (state.past i) key row := by
  induction reachable with
  | refl =>
      have impossible := absent.symm.trans stored
      cases impossible
  | tail before step ih =>
      cases step with
      | @answered j request next answer after waiting answers =>
          have stage := stage_of_waiting before waiting
          rcases answers.row?_eq (keyName_of_reaches keyed before) stage.spares key with
            same | ⟨call, item, rfl, operation, atKey, _, written⟩
          · obtain ⟨i, rowOf⟩ := ih (same.symm.trans stored)
            obtain ⟨more, longer⟩ := past_advance _ j i ⟨request, answer⟩ (next answer) after
            exact ⟨i, longer ▸ rowOf.append more⟩
          · obtain ⟨sent, payload, result, _, recordedAt, delivered, success, _, rfl⟩ :=
              stage.row_of_putItem operation
            have sameRow := Option.some.inj (written.symm.trans stored)
            rw [DeliveryRecord.keyOf_toItem] at atKey
            have rowOf : RowOf table (jobs j) _ key row :=
              ⟨delivered.isAlert_of_first, sent, payload, result, recordedAt,
                delivered.provided success, success, atKey, sameRow.symm⟩
            obtain ⟨more, longer⟩ := past_advance _ j j ⟨.service call, answer⟩ (next answer) after
            exact ⟨j, longer ▸ rowOf.append more⟩

/-! ## Schedules -/

namespace State

/-- A dispatch makes its next request in the given surroundings, if it has not ended. -/
def turn (answer : (request : Request) → request.Answer) (state : State ι) (i : ι) : State ι :=
  match state.rest i with
  | .done _ => state
  | .fail _ => state
  | .ask request next =>
      let (given, after) := answerWith answer request state.store
      state.advance i ⟨request, given⟩ (next given) after

/-- Dispatches take turns in the order of a schedule. -/
def scheduled (answer : (request : Request) → request.Answer) (schedule : List ι)
    (state : State ι) : State ι :=
  schedule.foldl (turn answer) state

end State

theorem reaches_turn (answer : (request : Request) → request.Answer) (state : State ι) (i : ι) :
    Reaches state (state.turn answer i) := by
  cases waiting : state.rest i with
  | done value =>
      simp only [State.turn, waiting]
      exact .refl
  | fail failure =>
      simp only [State.turn, waiting]
      exact .refl
  | ask request next =>
      simp only [State.turn, waiting]
      exact .single (.answered waiting (answers_answerWith answer request state.store))

/-- Every schedule leads to a state that can be reached. -/
theorem reaches_scheduled (answer : (request : Request) → request.Answer) (schedule : List ι)
    (state : State ι) : Reaches state (state.scheduled answer schedule) := by
  induction schedule generalizing state with
  | nil => exact .refl
  | cons i rest ih => exact (reaches_turn answer state i).trans (ih _)

/-! ## First writes -/

/-- The first write of a delivery wins under every order of steps.  In every reachable state, a
stored row stays as it is in all states after it; a row that was not there at the start is the row
of a first delivery that succeeded; and a dispatch that ended after its channel gave a result ended
with that result. -/
theorem first_write_wins (keyed : (start.table table).keyName = "delivery_key")
    (reachable : Reaches (.start table jobs start) state) :
    (∀ later key row, Reaches state later → state.store.row? table key = some row →
      later.store.row? table key = some row) ∧
    (∀ key row, start.row? table key = none → state.store.row? table key = some row →
      ∃ i, RowOf table (jobs i) (state.past i) key row) ∧
    ∀ i sent payload isFirst result outcome,
      (jobs i).Provided table (state.past i) sent payload isFirst result ∨
        (jobs i).Delivered table (state.past i) sent payload isFirst result →
      state.rest i = ofExcept outcome → outcome = .ok result := by
  refine ⟨fun later key row onward => row?_of_reaches keyed reachable onward,
    fun key row => rowOf_of_reaches keyed reachable, ?_⟩
  intro i sent payload isFirst result outcome given ended
  have leads := leads_of_reaches reachable i
  rw [ended] at leads
  rcases given with provided | delivered
  · exact Dispatch.Provided.outcome_eq provided leads
  · exact Dispatch.Delivered.outcome_eq delivered leads

/-- Two dispatches at messages about one alert that take turns. -/
def race : State Bool :=
  (State.start Sample.deliveries Sample.pair Sample.tables).scheduled Sample.answer
    (List.replicate 30 [false, true]).flatten

/-- The row that is stored in the race is the row of one of the two dispatches. -/
theorem first_write_wins_of_two :
    ∃ i row, race.store.row? Sample.deliveries (deliveryKey 7 Sample.telephoneId) = some row ∧
      RowOf Sample.deliveries (Sample.pair i) (race.past i) (deliveryKey 7 Sample.telephoneId)
        row := by
  have stored :
      (race.store.row? Sample.deliveries (deliveryKey 7 Sample.telephoneId)).isSome = true := by
    decide +kernel
  obtain ⟨row, found⟩ := Option.isSome_iff_exists.mp stored
  have reachable : Reaches (.start Sample.deliveries Sample.pair Sample.tables) race :=
    reaches_scheduled Sample.answer _ _
  have keyed : (Sample.tables.table Sample.deliveries).keyName = "delivery_key" := by
    decide +kernel
  obtain ⟨_, rows, _⟩ := first_write_wins keyed reachable
  obtain ⟨i, rowOf⟩ := rows _ row (by decide +kernel) found
  exact ⟨i, row, found, rowOf⟩

end Concurrent
end AlertRelay
