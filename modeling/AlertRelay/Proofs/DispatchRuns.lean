import AlertRelay.Proofs.ConcurrentDispatches

/-!
# Runs of dispatches

A run is a series of calls, each of which sends one message or a backlog of them.  Whatever the
calls, a run comes down to attempts one after the other, each of them a whole dispatch that starts
from the tables which the one before it left.  A row that was stored along a run is the row of the
attempt that stored it first.
-/

namespace AlertRelay

open Program

/-- One dispatch of a run: its exchanges, how it ended, and the tables before and after it. -/
structure Attempt where
  job : Job
  exchanges : List Exchange
  outcome : Except Failure SendResult
  before : Store
  after : Store

namespace Attempt

/-- The dispatch of the job took place as the attempt says. -/
def Made (table : String) (attempt : Attempt) : Prop :=
  (attempt.job.program table).Ends attempt.exchanges attempt.outcome ∧
    attempt.before.Through attempt.exchanges attempt.after

/-- The attempt built its message for sending, and the rest of its exchanges came after that. -/
def Built (table : String) (attempt : Attempt) (sent : Message) (payload : Payload)
    (isFirst : Bool) (rest : List Exchange) : Prop :=
  Dispatch.Built (attempt.job.deployment.site table) attempt.job.config attempt.job.message
    attempt.exchanges sent payload isFirst rest

/-- The attempt built its message and handed the payload over to the channels. -/
def IsHandedOver (table : String) (attempt : Attempt) : Prop :=
  ∃ sent payload isFirst rest, attempt.Built table sent payload isFirst rest

end Attempt

/-- Attempts one after the other, with the tables before the first and after the last. -/
inductive Chain (table : String) : Store → List Attempt → Store → Prop
  | nil (store : Store) : Chain table store [] store
  | cons {attempt : Attempt} {attempts : List Attempt} {final : Store}
      (made : attempt.Made table) (later : Chain table attempt.after attempts final) :
      Chain table attempt.before (attempt :: attempts) final

namespace Chain

variable {table : String} {start final : Store}

theorem append {middle : Store} {first second : List Attempt}
    (before : Chain table start first middle) (after : Chain table middle second final) :
    Chain table start (first ++ second) final := by
  induction before with
  | nil => exact after
  | cons made _ ih => exact .cons made (ih after)

theorem split {first second : List Attempt} (chain : Chain table start (first ++ second) final) :
    ∃ middle, Chain table start first middle ∧ Chain table middle second final := by
  induction first generalizing start with
  | nil => exact ⟨start, .nil _, chain⟩
  | cons attempt first ih =>
      cases chain with
      | cons made later =>
          obtain ⟨middle, before, after⟩ := ih later
          exact ⟨middle, .cons made before, after⟩

/-- The attempts before an attempt of a chain lead to the tables that it started from. -/
theorem until_attempt {earlier later : List Attempt} {attempt : Attempt}
    (chain : Chain table start (earlier ++ attempt :: later) final) :
    Chain table start earlier attempt.before ∧ attempt.Made table := by
  obtain ⟨middle, before, after⟩ := chain.split
  cases after with
  | cons made _ => exact ⟨before, made⟩

end Chain

/-! ## What an attempt does to the delivery table -/

namespace Concurrent

private theorem reaches_from {program rest : Program SendResult} {exchanges : List Exchange}
    {store after : Store} (leads : program.Leads exchanges rest)
    (through : store.Through exchanges after) (past : List Exchange) :
    Reaches (⟨store, fun _ => past, fun _ => program⟩ : State Unit)
      ⟨after, fun _ => past ++ exchanges, fun _ => rest⟩ := by
  induction leads generalizing store past with
  | start =>
      cases through
      simp only [List.append_nil]
      exact .refl
  | @step request next answer exchanges rest later ih =>
      cases through with
      | @cons _ middle _ _ _ answers onward =>
          have advanced :
              (⟨store, fun _ => past, fun _ => .ask request next⟩ : State Unit).advance ()
                ⟨request, answer⟩ (next answer) middle =
              ⟨middle, fun _ => past ++ [⟨request, answer⟩], fun _ => next answer⟩ := by
            simp only [State.advance, State.mk.injEq, true_and]
            constructor <;> funext _ <;> rfl
          have first : Step (⟨store, fun _ => past, fun _ => .ask request next⟩ : State Unit)
              ⟨middle, fun _ => past ++ [⟨request, answer⟩], fun _ => next answer⟩ :=
            advanced ▸ .answered rfl answers
          have others := ih onward (past ++ [⟨request, answer⟩])
          simp only [List.append_assoc, List.singleton_append] at others
          exact .head first others

/-- A dispatch on its own is one of the concurrent ones. -/
theorem reaches_alone {table : String} {job : Job} {exchanges : List Exchange}
    {rest : Program SendResult} {store after : Store}
    (leads : (job.program table).Leads exchanges rest) (through : store.Through exchanges after) :
    Reaches (.start table (fun _ : Unit => job) store)
      ⟨after, fun _ => exchanges, fun _ => rest⟩ :=
  reaches_from leads through []

end Concurrent

/-- A row that was stored while a dispatch made its exchanges is the row of its job. -/
theorem rowOf_of_leads {table : String} {job : Job} {exchanges : List Exchange}
    {rest : Program SendResult} {store after : Store}
    (leads : (job.program table).Leads exchanges rest) (through : store.Through exchanges after)
    (keyed : (store.table table).keyName = "delivery_key") {key : String} {row : Json}
    (absent : store.row? table key = none) (stored : after.row? table key = some row) :
    Concurrent.RowOf table job exchanges key row := by
  obtain ⟨_, rowOf⟩ :=
    Concurrent.rowOf_of_reaches keyed (Concurrent.reaches_alone leads through) absent stored
  exact rowOf

/-- A row stays as it is while a dispatch makes its exchanges. -/
theorem row?_of_leads {table : String} {job : Job} {exchanges : List Exchange}
    {rest : Program SendResult} {store after : Store}
    (leads : (job.program table).Leads exchanges rest) (through : store.Through exchanges after)
    (keyed : (store.table table).keyName = "delivery_key") {key : String} {row : Json}
    (stored : store.row? table key = some row) : after.row? table key = some row := by
  have atStart : Concurrent.Reaches (.start table (fun _ : Unit => job) store)
      (.start table (fun _ : Unit => job) store) :=
    .refl
  exact Concurrent.row?_of_reaches keyed atStart (Concurrent.reaches_alone leads through) stored

namespace Attempt

variable {table : String} {attempt : Attempt}

theorem Made.keyName_eq (made : attempt.Made table)
    (keyed : (attempt.before.table table).keyName = "delivery_key") :
    (attempt.after.table table).keyName = "delivery_key" :=
  Concurrent.keyName_of_reaches keyed (Concurrent.reaches_alone made.1 made.2)

/-- When an attempt reached a recipient, it had built its message. -/
theorem Made.isHandedOver_of_outbound (made : attempt.Made table) {exchange : Exchange}
    (member : exchange ∈ attempt.exchanges) (outbound : exchange.request.Outbound) :
    attempt.IsHandedOver table := by
  obtain ⟨before, after, inOrder, asks⟩ := Leads.asks_of_mem made.1 member
  obtain ⟨sent, payload, isFirst, given, built, _⟩ :=
    (Dispatch.stage_of_asks_send asks).built_of_outbound outbound
  refine ⟨sent, payload, isFirst, given ++ exchange :: after, ?_⟩
  rw [Attempt.Built, inOrder]
  exact built.append (exchange :: after)

/-- An attempt keeps every row. -/
theorem Made.row?_kept (made : attempt.Made table)
    (keyed : (attempt.before.table table).keyName = "delivery_key") {key : String} {row : Json}
    (stored : attempt.before.row? table key = some row) :
    attempt.after.row? table key = some row :=
  row?_of_leads made.1 made.2 keyed stored

end Attempt

namespace Chain

variable {table : String} {start final : Store} {attempts : List Attempt}

theorem keyName_eq (chain : Chain table start attempts final)
    (keyed : (start.table table).keyName = "delivery_key") :
    (final.table table).keyName = "delivery_key" := by
  induction chain with
  | nil => exact keyed
  | cons made _ ih => exact ih (made.keyName_eq keyed)

theorem row?_kept (chain : Chain table start attempts final)
    (keyed : (start.table table).keyName = "delivery_key") {key : String} {row : Json}
    (stored : start.row? table key = some row) : final.row? table key = some row := by
  induction chain with
  | nil => exact stored
  | cons made _ ih => exact ih (made.keyName_eq keyed) (made.row?_kept keyed stored)

/-- A row that was stored along a chain was stored by one of its attempts, as the row of its job
and the first one under its key. -/
theorem exists_rowOf (chain : Chain table start attempts final)
    (keyed : (start.table table).keyName = "delivery_key") {key : String} {row : Json}
    (absent : start.row? table key = none) (stored : final.row? table key = some row) :
    ∃ original ∈ attempts, original.before.row? table key = none ∧
      original.after.row? table key = some row ∧
      Concurrent.RowOf table original.job original.exchanges key row := by
  induction chain with
  | nil =>
      have impossible := absent.symm.trans stored
      cases impossible
  | @cons attempt attempts final made later ih =>
      have keyedAfter := made.keyName_eq keyed
      cases found : attempt.after.row? table key with
      | none =>
          obtain ⟨original, member, first⟩ := ih keyedAfter found stored
          exact ⟨original, List.mem_cons_of_mem _ member, first⟩
      | some held =>
          obtain rfl : held = row :=
            Option.some.inj ((later.row?_kept keyedAfter found).symm.trans stored)
          exact ⟨attempt, List.mem_cons_self, absent, found,
            rowOf_of_leads made.1 made.2 keyed absent found⟩

end Chain

/-! ## Calls -/

/-- What a deployment is asked to do under a configuration. -/
inductive Call where
  | send (config : Config) (message : Message)
  | sendPending (config : Config) (types : List MessageType) (messages : List Message)

namespace Call

variable (table : String) (deployment : Deployment)

/-- What a call does, apart from the value or the failure that it hands to its caller. -/
def program : Call → Program Unit
  | send config message =>
      (Dispatch.send (deployment.site table) deployment.registry config message).attempt.bind
        fun _ => .done ()
  | sendPending config types messages =>
      (Dispatch.sendPending (deployment.site table) deployment.registry config types
        messages).bind fun _ => .done ()

/-- The jobs of a call: the message, or the ready messages of the backlog. -/
def jobs : Call → List Job
  | send config message => [⟨deployment, config, message⟩]
  | sendPending config types messages =>
      (Backlog.split types messages).1.map fun message => ⟨deployment, config, message⟩

end Call

/-- The exchanges are those of the attempts, apart from reports after each of them. -/
inductive Comprises : List Exchange → List Attempt → Prop
  | nil {reports : List Exchange} (quiet : ∀ exchange ∈ reports, exchange.request.Quiet) :
      Comprises reports []
  | cons {attempt : Attempt} {attempts : List Attempt} {reports later : List Exchange}
      (quiet : ∀ exchange ∈ reports, exchange.request.Quiet)
      (others : Comprises later attempts) :
      Comprises (attempt.exchanges ++ (reports ++ later)) (attempt :: attempts)

theorem Comprises.next {attempt : Attempt} {attempts : List Attempt} {later : List Exchange}
    (others : Comprises later attempts) :
    Comprises (attempt.exchanges ++ later) (attempt :: attempts) :=
  @Comprises.cons attempt attempts [] later (by simp) others

theorem Comprises.append {exchanges reports : List Exchange} {attempts : List Attempt}
    (comprises : Comprises exchanges attempts)
    (quiet : ∀ exchange ∈ reports, exchange.request.Quiet) :
    Comprises (exchanges ++ reports) attempts := by
  induction comprises with
  | nil quietBefore =>
      refine .nil fun exchange member => ?_
      rcases List.mem_append.mp member with before | after
      · exact quietBefore exchange before
      · exact quiet exchange after
  | cons quietBetween _ ih =>
      simp only [List.append_assoc]
      exact .cons quietBetween ih

theorem quiet_of_ends_log {level : LogLevel} {component name : String}
    {details : List (String × Json)} {reports : List Exchange} {result : Except Failure Unit}
    (ended : (log level component name details).Ends reports result) :
    ∀ exchange ∈ reports, exchange.request.Quiet := by
  obtain ⟨rfl, _⟩ := ends_log.mp ended
  intro exchange member
  obtain rfl := List.mem_singleton.mp member
  trivial

/-- Reports leave all tables alone. -/
theorem Store.Through.eq_of_quiet {store after : Store} {exchanges : List Exchange}
    (through : store.Through exchanges after)
    (quiet : ∀ exchange ∈ exchanges, exchange.request.Quiet) : after = store := by
  induction through with
  | nil => rfl
  | cons answers _ ih =>
      rw [ih fun exchange member => quiet exchange (List.mem_cons_of_mem _ member)]
      cases answers with
      | service served => exact (quiet _ List.mem_cons_self).elim
      | elsewhere noCall => rfl

section Attempts

variable {table : String} {deployment : Deployment} {config : Config} {store after : Store}
  {exchanges : List Exchange}

private theorem exists_attempt {message : Message} {outcome : Except Failure SendResult}
    (ended : (Dispatch.send (deployment.site table) deployment.registry config message).Ends
      exchanges outcome)
    (through : store.Through exchanges after) :
    ∃ attempt : Attempt, attempt.Made table ∧ attempt.job = ⟨deployment, config, message⟩ ∧
      attempt.exchanges = exchanges ∧ attempt.before = store ∧ attempt.after = after :=
  ⟨⟨⟨deployment, config, message⟩, exchanges, outcome, store, after⟩, ⟨ended, through⟩, rfl, rfl,
    rfl, rfl⟩

/-- Sending messages one after the other comes down to an attempt at each of them. -/
theorem exists_attempts_of_sendAll {batch : Batch} {messages : List Message}
    {outcome : Except Failure Batch}
    (ended : (Dispatch.sendAll (deployment.site table) deployment.registry config batch
      messages).Ends exchanges outcome)
    (through : store.Through exchanges after) :
    ∃ attempts : List Attempt,
      attempts.map Attempt.job = messages.map (fun message => ⟨deployment, config, message⟩) ∧
      Comprises exchanges attempts ∧ Chain table store attempts after := by
  induction messages generalizing batch exchanges store with
  | nil =>
      obtain ⟨rfl, _⟩ := ends_done.mp ended
      obtain rfl : after = store := by
        cases through
        rfl
      exact ⟨[], rfl, .nil (by simp), .nil _⟩
  | cons message rest ih =>
      rcases ends_bind.mp ended with
        ⟨_, noEnd, _⟩ | ⟨sent, afterSent, inner, rfl, endedAttempt, endedRest⟩
      · simp at noEnd
      obtain ⟨result, endedSend, same⟩ := ends_attempt.mp endedAttempt
      cases same
      obtain ⟨middle, throughSent, throughRest⟩ := through.split
      obtain ⟨attempt, made, job, rfl, rfl, rfl⟩ := exists_attempt endedSend throughSent
      cases inner with
      | ok result =>
          obtain ⟨attempts, jobs, comprises, chain⟩ := ih endedRest throughRest
          exact ⟨attempt :: attempts, by simp [job, jobs], comprises.next, .cons made chain⟩
      | error failure =>
          rcases ends_bind.mp endedRest with
            ⟨_, noEnd, _⟩ | ⟨reports, later, _, rfl, logged, endedLater⟩
          · simp at noEnd
          have quiet := quiet_of_ends_log logged
          obtain ⟨between, throughReports, throughLater⟩ := throughRest.split
          obtain rfl := throughReports.eq_of_quiet quiet
          obtain ⟨attempts, jobs, comprises, chain⟩ := ih endedLater throughLater
          exact ⟨attempt :: attempts, by simp [job, jobs], .cons quiet comprises,
            .cons made chain⟩

private theorem ends_before_reports {α β : Type} {program : Program α} {next : α → Program β}
    {result : Except Failure β} (reports : ∀ value, (next value).Makes Request.Quiet)
    (ended : (program.bind next).Ends exchanges result) :
    ∃ first second outcome, exchanges = first ++ second ∧ program.Ends first outcome ∧
      ∀ exchange ∈ second, exchange.request.Quiet := by
  rcases ends_bind.mp ended with
    ⟨failure, endedProgram, _⟩ | ⟨first, second, value, rfl, endedProgram, endedNext⟩
  · exact ⟨exchanges, [], .error failure, by simp, endedProgram, by simp⟩
  · exact ⟨first, second, .ok value, rfl, endedProgram,
      fun exchange member => (reports value).of_mem endedNext member⟩

/-- A call comes down to attempts at its jobs. -/
theorem exists_attempts {call : Call} {result : Except Failure Unit}
    (ended : (call.program table deployment).Ends exchanges result)
    (through : store.Through exchanges after) :
    ∃ attempts : List Attempt, attempts.map Attempt.job = call.jobs deployment ∧
      Comprises exchanges attempts ∧ Chain table store attempts after := by
  cases call with
  | send config message =>
      rcases ends_bind.mp ended with
        ⟨_, noEnd, _⟩ | ⟨sent, rest, inner, rfl, endedAttempt, endedDone⟩
      · simp at noEnd
      obtain ⟨outcome, endedSend, same⟩ := ends_attempt.mp endedAttempt
      obtain ⟨rfl, _⟩ := ends_done.mp endedDone
      obtain ⟨attempt, made, job, rfl, rfl, rfl⟩ :=
        exists_attempt endedSend (List.append_nil sent ▸ through)
      have noReports : Comprises [] [] := .nil (by simp)
      exact ⟨[attempt], by simp [job, Call.jobs], noReports.next, .cons made (.nil _)⟩
  | sendPending config types messages =>
      obtain ⟨sent, closing, outcome, rfl, endedPending, quietClosing⟩ :=
        ends_before_reports (fun _ => .done ()) ended
      obtain ⟨details, steps⟩ :=
        Dispatch.sendPending_eq (deployment.site table) deployment.registry config types messages
      rw [steps] at endedPending
      obtain ⟨sentAll, reports, outcomeAll, rfl, endedAll, quietReports⟩ :=
        ends_before_reports
          (fun batch => makes_bind (makes_log.mpr trivial) fun _ => .done batch) endedPending
      obtain ⟨middle, throughSent, throughClosing⟩ := through.split
      obtain rfl := throughClosing.eq_of_quiet quietClosing
      obtain ⟨between, throughAll, throughReports⟩ := throughSent.split
      obtain rfl := throughReports.eq_of_quiet quietReports
      obtain ⟨attempts, jobs, comprises, chain⟩ := exists_attempts_of_sendAll endedAll throughAll
      exact ⟨attempts, jobs, (comprises.append quietReports).append quietClosing, chain⟩

end Attempts

/-- Calls were executed one after the other, whatever the values and failures that they handed to
their caller. -/
inductive Executed (table : String) (deployment : Deployment) :
    Store → List Call → Store → Prop
  | nil (store : Store) : Executed table deployment store [] store
  | cons {store middle final : Store} {call : Call} {calls : List Call}
      {exchanges : List Exchange} {result : Except Failure Unit}
      (ended : (call.program table deployment).Ends exchanges result)
      (through : store.Through exchanges middle)
      (later : Executed table deployment middle calls final) :
      Executed table deployment store (call :: calls) final

/-- A run of calls: each call was executed, and came down to attempts at its jobs.  Whatever calls
were executed make one, by `Executed.exists_run`. -/
inductive Run (table : String) (deployment : Deployment) :
    Store → List Call → List Attempt → Store → Prop
  | nil (store : Store) : Run table deployment store [] [] store
  | cons {store middle final : Store} {call : Call} {calls : List Call}
      {exchanges : List Exchange} {result : Except Failure Unit} {attempts others : List Attempt}
      (ended : (call.program table deployment).Ends exchanges result)
      (through : store.Through exchanges middle)
      (jobs : attempts.map Attempt.job = call.jobs deployment)
      (comprises : Comprises exchanges attempts) (chain : Chain table store attempts middle)
      (later : Run table deployment middle calls others final) :
      Run table deployment store (call :: calls) (attempts ++ others) final

/-- Whatever calls were executed, they make a run. -/
theorem Executed.exists_run {table : String} {deployment : Deployment} {start final : Store}
    {calls : List Call} (executed : Executed table deployment start calls final) :
    ∃ attempts, Run table deployment start calls attempts final := by
  induction executed with
  | nil store => exact ⟨[], .nil store⟩
  | cons ended through _ ih =>
      obtain ⟨others, later⟩ := ih
      obtain ⟨attempts, jobs, comprises, chain⟩ := exists_attempts ended through
      exact ⟨attempts ++ others, .cons ended through jobs comprises chain later⟩

namespace Run

variable {table : String} {deployment : Deployment} {start final : Store} {calls : List Call}
  {attempts : List Attempt}

theorem chain (run : Run table deployment start calls attempts final) :
    Chain table start attempts final := by
  induction run with
  | nil => exact .nil _
  | cons _ _ _ _ chain _ ih => exact chain.append ih

/-- All attempts of a run are made by its deployment. -/
theorem deployment_eq (run : Run table deployment start calls attempts final) :
    ∀ attempt ∈ attempts, attempt.job.deployment = deployment := by
  induction run with
  | nil => simp
  | @cons _ _ _ call _ _ _ attempts others _ _ jobs _ _ _ ih =>
      intro attempt member
      rcases List.mem_append.mp member with inCall | inLater
      · have job : attempt.job ∈ call.jobs deployment := jobs ▸ List.mem_map_of_mem inCall
        cases call with
        | send config message =>
            rw [List.mem_singleton.mp job]
        | sendPending config types messages =>
            obtain ⟨_, _, same⟩ := List.mem_map.mp job
            rw [← same]
      · exact ih attempt inLater

/-- An attempt is what a call to send its message comes down to. -/
theorem send {config : Config} {message : Message} {attempt : Attempt}
    (made : attempt.Made table) (job : attempt.job = ⟨deployment, config, message⟩)
    (later : Run table deployment attempt.after calls attempts final) :
    Run table deployment attempt.before (.send config message :: calls) (attempt :: attempts)
      final := by
  obtain ⟨ended, through⟩ := made
  have endedCall : ((Call.send config message).program table deployment).Ends
      (attempt.exchanges ++ []) (.ok ()) := by
    refine ends_bind.mpr (.inr ⟨_, _, attempt.outcome, rfl, ?_, .start _⟩)
    rw [job] at ended
    exact ends_attempt.mpr ⟨_, ended, rfl⟩
  have noReports : Comprises [] [] := .nil (by simp)
  have chain : Chain table attempt.before [attempt] attempt.after :=
    .cons ⟨ended, through⟩ (.nil _)
  exact .cons endedCall (by simpa using through) (by simp [job, Call.jobs]) noReports.next chain
    later

end Run

/-- The attempt at a job in surroundings with tables. -/
def Attempt.inSurroundings (answer : (request : Request) → request.Answer) (table : String)
    (job : Job) (store : Store) : Attempt where
  job
  exchanges := (job.program table).exchanges (answerWith answer) store
  outcome := ((job.program table).run (answerWith answer) store).1
  before := store
  after := ((job.program table).run (answerWith answer) store).2

theorem Attempt.made_inSurroundings (answer : (request : Request) → request.Answer)
    (table : String) (job : Job) (store : Store) :
    (inSurroundings answer table job store).Made table :=
  ⟨ends_run (answerWith answer) (job.program table) store,
    through_run answer (job.program table) store⟩

namespace Sample

/-- The first attempt of a run: the one at the message about the alert. -/
def first : Attempt :=
  .inSurroundings answer deliveries ⟨deployment, config, alert "first"⟩ tables

/-- The second attempt of the run: the one at the status update. -/
def second : Attempt := .inSurroundings answer deliveries ⟨deployment, config, update⟩ first.after

/-- The run in which the status update is sent after the message about the alert. -/
theorem run_first_second :
    Run deliveries deployment tables [.send config (alert "first"), .send config update]
      ([first] ++ second :: []) second.after :=
  .send (Attempt.made_inSurroundings _ _ _ _) rfl
    (.send (Attempt.made_inSurroundings _ _ _ _) rfl (.nil _))

end Sample
end AlertRelay
