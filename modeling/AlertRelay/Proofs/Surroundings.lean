import AlertRelay.Proofs.MessageContext
import AlertRelay.Proofs.SentMessages
import AlertRelay.Proofs.ServiceFailures

/-!
# Surroundings with tables

Surroundings in which the table service carries out what it admits and never fails.  Running a
program in them is one of its executions, and its exchanges lead from the tables before the run to
the tables after it.
-/

namespace AlertRelay

open Program

namespace Store

/-- What a service that never fails answers, and the tables after it. -/
def respond (store : Store) (operation : Operation) : Except Failure Json × Store :=
  if store.admits operation then store.perform operation
  else (.error (conflict operation.method), store)

/-- A service that never fails is one of the services. -/
theorem serves_respond (store : Store) (operation : Operation) :
    store.Serves operation (store.respond operation).1 (store.respond operation).2 := by
  rw [respond]
  split
  · rename_i admitted
    cases operation with
    | getItem name key options =>
        dsimp only [perform]
        split
        · rename_i item found
          refine .answered admitted ?_
          intro consistent
          simp [row?, found]
        · rename_i found
          refine .answered admitted ?_
          intro consistent
          simp [row?, found]
    | putItem name item options =>
        dsimp only [perform]
        split
        · exact .failed _ _
        · exact .answered admitted trivial
    | deleteItem name key options => exact .answered admitted trivial
    | query name options => exact .answered admitted trivial
    | other method arguments => exact .unknown _ _ _ _
  · exact .failed _ _

/-- The only failure of such a service is the refusal to write over an item. -/
theorem conflict_of_respond {store : Store} {operation : Operation} {failure : Failure}
    (failed : (store.respond operation).1 = .error failure) :
    failure = conflict operation.method := by
  rw [respond] at failed
  split at failed
  · cases operation with
    | getItem name key options =>
        dsimp only [perform] at failed
        split at failed <;> cases failed
    | putItem name item options =>
        dsimp only [perform] at failed
        split at failed <;> cases failed
        rfl
    | _ => cases failed
  · cases failed
    rfl

/-- Such a service answers with objects. -/
theorem isObject_of_respond {store : Store} {operation : Operation} {response : Json}
    (answered : (store.respond operation).1 = .ok response) :
    ∃ members, response = .object members := by
  rw [respond] at answered
  split at answered
  · cases operation with
    | getItem name key options =>
        dsimp only [perform] at answered
        split at answered <;> cases answered
        · exact ⟨_, rfl⟩
        · exact ⟨_, rfl⟩
    | putItem name item options =>
        dsimp only [perform] at answered
        split at answered <;> cases answered
        exact ⟨_, rfl⟩
    | deleteItem name key options =>
        cases answered
        exact ⟨_, rfl⟩
    | query name options =>
        cases answered
        dsimp only [Table.page]
        repeat' split
        all_goals exact ⟨_, rfl⟩
    | other method arguments =>
        cases answered
        exact ⟨_, rfl⟩
  · cases answered

end Store

/-- Answers to all requests but the calls of the table service, which the tables answer. -/
def answerWith (answer : (request : Request) → request.Answer) (request : Request)
    (store : Store) : request.Answer × Store :=
  match request with
  | .service call => store.respond call.operation
  | request => (answer request, store)

theorem answers_answerWith (answer : (request : Request) → request.Answer) (request : Request)
    (store : Store) :
    store.Answers ⟨request, (answerWith answer request store).1⟩
      (answerWith answer request store).2 := by
  cases request with
  | service call => exact .service (store.serves_respond call.operation)
  | _ => exact .elsewhere nofun

/-- The exchanges of a run in surroundings that hold tables lead to the tables after it. -/
theorem Store.through_run {α σ : Type} {answer : (request : Request) → σ → request.Answer × σ}
    (held : σ → Store)
    (answers : ∀ request state,
      (held state).Answers ⟨request, (answer request state).1⟩ (held (answer request state).2))
    (program : Program α) (state : σ) :
    (held state).Through (program.exchanges answer state) (held (program.run answer state).2) := by
  induction program generalizing state with
  | done value => exact .nil _
  | fail failure => exact .nil _
  | ask request next ih => exact .cons (answers request state) (ih _ _)

/-- The exchanges of a run lead to the tables after it. -/
theorem through_run {α : Type} (answer : (request : Request) → request.Answer)
    (program : Program α) (store : Store) :
    store.Through (program.exchanges (answerWith answer) store)
      (program.run (answerWith answer) store).2 :=
  Store.through_run id (answers_answerWith answer) program store

/-- Answers to all requests but the calls of the table service, which tables answer, and those
about the message context, which is held beside the tables. -/
def answerWithin (answer : (request : Request) → request.Answer) (request : Request)
    (state : Store × Context) : request.Answer × (Store × Context) :=
  match request with
  | .service call =>
      let (given, store) := state.1.respond call.operation
      (given, (store, state.2))
  | .context => (state.2, state)
  | .setContext other => ((), (state.1, other))
  | request => (answer request, state)

theorem tables_answerWithin (answer : (request : Request) → request.Answer) (request : Request)
    (state : Store × Context) :
    state.1.Answers ⟨request, (answerWithin answer request state).1⟩
      (answerWithin answer request state).2.1 := by
  cases request with
  | service call => exact .service (state.1.serves_respond call.operation)
  | _ => exact .elsewhere nofun

theorem context_answerWithin (answer : (request : Request) → request.Answer) (request : Request)
    (state : Store × Context) :
    state.2.Answers ⟨request, (answerWithin answer request state).1⟩
      (answerWithin answer request state).2.2 := by
  cases request with
  | context => exact .told
  | setContext other => exact .replaced other
  | _ => exact .elsewhere trivial

/-- Every exchange of a run holds the answer that the surroundings give. -/
theorem answer_of_mem_exchanges {α σ : Type}
    {answer : (request : Request) → σ → request.Answer × σ} {program : Program α} {state : σ}
    {exchange : Exchange} (member : exchange ∈ program.exchanges answer state) :
    ∃ reached, exchange.answer = (answer exchange.request reached).1 := by
  induction program generalizing state with
  | done value => cases member
  | fail failure => cases member
  | ask request next ih =>
      rcases List.mem_cons.mp member with rfl | later
      · exact ⟨state, rfl⟩
      · exact ih _ later

/-- A service that never fails refuses calls in its own way only. -/
theorem Store.isServed_respond (store : Store) (call : ServiceCall) :
    Exchange.IsServed ⟨.service call, (store.respond call.operation).1⟩ := by
  generalize given : (store.respond call.operation).1 = answer
  cases answer with
  | ok response => trivial
  | error failure =>
      rw [conflict_of_respond given]
      exact ⟨rfl, _, rfl⟩

/-- In surroundings with tables, the table service only fails in its own ways. -/
theorem isServed_of_mem_exchanges {α : Type} {answer : (request : Request) → request.Answer}
    {program : Program α} {store : Store} {exchange : Exchange}
    (member : exchange ∈ program.exchanges (answerWith answer) store) : exchange.IsServed := by
  obtain ⟨reached, given⟩ := answer_of_mem_exchanges member
  obtain ⟨request, answered⟩ := exchange
  cases request with
  | service call =>
      have responded : answered = (reached.respond call.operation).1 := given
      rw [responded]
      exact reached.isServed_respond call
  | _ => trivial

/-- Whether a run ended with a value that passes a test. -/
def passes {α : Type} (test : α → Bool) : Except Failure α → Bool
  | .ok value => test value
  | .error _ => false

theorem exists_of_passes {α : Type} {test : α → Bool} {outcome : Except Failure α}
    (passed : passes test outcome = true) : ∃ value, outcome = .ok value ∧ test value = true := by
  cases outcome with
  | ok value => exact ⟨value, rfl, passed⟩
  | error failure => cases passed

/-- Whether a run ended with a failure that passes a test. -/
def failsWith {α : Type} (test : Failure → Bool) : Except Failure α → Bool
  | .ok _ => false
  | .error failure => test failure

theorem exists_of_failsWith {α : Type} {test : Failure → Bool} {outcome : Except Failure α}
    (failed : failsWith test outcome = true) :
    ∃ failure, outcome = .error failure ∧ test failure = true := by
  cases outcome with
  | ok value => cases failed
  | error failure => exact ⟨failure, rfl, failed⟩

section Runs

variable {α σ : Type} {answer : (request : Request) → σ → request.Answer × σ}
  {program : Program α} {state : σ}

/-- A run that passes a test is an execution with a value that passes it. -/
theorem ends_of_passes {test : α → Bool}
    (passed : passes test (program.run answer state).1 = true) :
    ∃ value, program.Ends (program.exchanges answer state) (.ok value) ∧ test value = true := by
  obtain ⟨value, outcome, satisfied⟩ := exists_of_passes passed
  have ended := ends_run answer program state
  rw [outcome] at ended
  exact ⟨value, ended, satisfied⟩

theorem ends_of_failsWith {test : Failure → Bool}
    (failed : failsWith test (program.run answer state).1 = true) :
    ∃ failure, program.Ends (program.exchanges answer state) (.error failure) ∧
      test failure = true := by
  obtain ⟨failure, outcome, satisfied⟩ := exists_of_failsWith failed
  have ended := ends_run answer program state
  rw [outcome] at ended
  exact ⟨failure, ended, satisfied⟩

end Runs

/-! ## One alert -/

namespace Sample

/-- The name of the delivery table. -/
def deliveries : String := "deliveries"

/-- An empty delivery table. -/
def tables : Store := ⟨[(deliveries, ⟨"delivery_key", []⟩)], 10⟩

/-- The telephone of the user. -/
def telephone : Destination := ⟨Voice.type, [(Telephony.phoneField, "+15555550222")]⟩

def telephoneId : DestinationId := .contactMethod "cm-voice" (by decide)

/-- Where the user gets short messages. -/
def inbox : Destination := ⟨Sms.type, [(Telephony.phoneField, "+15555550111")]⟩

def inboxId : DestinationId := .contactMethod "cm-sms" (by decide)

/-- Answers about an alert with the priority label, a user with a telephone, and providers that
accept everything. -/
def answer : (request : Request) → request.Answer
  | .serviceInfo _ => .ok [.text "Payments", .integer 1]
  | .alert id => .ok ⟨id, "svc", "Database unreachable", "", .unacknowledged⟩
  | .alertMetadata _ => .ok (.object [("severity", .text "critical")])
  | .logEntry id => .ok ⟨id, 7, .acknowledged, "Acknowledged"⟩
  | .contactMethods userId => .ok [⟨"cm-voice", userId, telephone⟩]
  | .schedule id => .ok ⟨id.getD "", ""⟩
  | .onCallUsers _ => .ok []
  | .verificationCode _ => .ok (.integer 0)
  | .signalParameters _ => .ok (.text "{}")
  | .appendAlertSent .. => .ok ()
  | .appendServiceSent .. => .ok ()
  | .service _ => .ok (.object [])
  | .telephone _ => .ok (.text "CA1")
  | .post _ => .ok ⟨200, "", []⟩
  | .closeConnection => ()
  | .push _ => .ok ()
  | .deliver _ payload => .ok (.sent payload.id none)
  | .cancelled => false
  | .sleep _ => ()
  | .now => .ok ⟨⟨2024, 1, 1⟩, 12, 0, 0, 0, some 0⟩
  | .log _ => ()
  | .context => []
  | .setContext _ => ()

/-- A configuration with the priority label and telephone calls. -/
def config : Config where
  applicationName := Config.defaultApplicationName
  publicUrl := ""
  priorityKey := "severity"
  priorityValue := "critical"
  requestTimeout := .finite false 10 0
  webhookEnabled := true
  telephony := ⟨true, "AC0", "token", "+15555550100", false, false⟩
  gateway := .default
  push := .default

/-- The providers of a deployment that names no others. -/
def providers : List Provider := Provider.standard ⟨⟨[], [], 10⟩, "subscriptions"⟩

/-- The site of a deployment with a way to a payload for every type of message. -/
def site : Site := .complete ⟨⟨[], [], 10⟩, deliveries⟩ .supplied

/-- A message about the alert that is meant for the user's short messages. -/
def alert (id : String) : Message where
  id
  type := .alert
  destinationId := inboxId
  destination := inbox
  userId := some "u"
  serviceId := some "svc"
  alertId := 7
  alertStatus := none
  alertLogId := 0
  scheduleId := none
  verificationId := none
  sentAt := none

/-- A status update about the alert for the user's telephone. -/
def update : Message :=
  { alert "update" with
    type := .alertStatus
    destinationId := telephoneId
    destination := telephone
    alertLogId := 1 }

end Sample
end AlertRelay
