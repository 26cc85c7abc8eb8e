import AlertRelay.Program.Basic

/-!
# Executions of programs

An execution lists the requests that a program has made with the answers that it was given.  The
answers are arbitrary, so a statement about all executions holds in all surroundings.  Three views
of an execution are used throughout: what remains of the program after some exchanges, which
request it makes next, and how it ends.  Each view follows the composition of programs, which is
what the rules for `bind`, `attempt` and `rescue` say.
-/

namespace AlertRelay

/-- A request with the answer that it was given. -/
structure Exchange where
  request : Request
  answer : request.Answer

namespace Program

variable {α β : Type}

/-- After the exchanges, the rest remains of the program. -/
inductive Leads : Program α → List Exchange → Program α → Prop
  | start (program : Program α) : Leads program [] program
  | step {request : Request} {next : request.Answer → Program α} {answer : request.Answer}
      {exchanges : List Exchange} {rest : Program α}
      (later : Leads (next answer) exchanges rest) :
      Leads (.ask request next) (⟨request, answer⟩ :: exchanges) rest

/-- After the exchanges, the program makes the request. -/
def Asks (program : Program α) (past : List Exchange) (request : Request) : Prop :=
  ∃ next, program.Leads past (.ask request next)

/-- With the exchanges, the program ends with the value or the failure. -/
def Ends (program : Program α) (exchanges : List Exchange) (result : Except Failure α) : Prop :=
  program.Leads exchanges (ofExcept result)

/-- Whatever the answers, the program makes no other requests than the allowed ones. -/
inductive Makes (allowed : Request → Prop) : Program α → Prop
  | done (value : α) : Makes allowed (.done value)
  | fail (failure : Failure) : Makes allowed (.fail failure)
  | ask {request : Request} {next : request.Answer → Program α} (first : allowed request)
      (later : ∀ answer, Makes allowed (next answer)) : Makes allowed (.ask request next)

/-- Given expected answers, what the program ends with has the property. -/
inductive Yields (expected : Exchange → Prop) (holds : Except Failure α → Prop) :
    Program α → Prop
  | done {value : α} (satisfied : holds (.ok value)) : Yields expected holds (.done value)
  | fail {failure : Failure} (satisfied : holds (.error failure)) :
      Yields expected holds (.fail failure)
  | ask {request : Request} {next : request.Answer → Program α}
      (later : ∀ answer, expected ⟨request, answer⟩ → Yields expected holds (next answer)) :
      Yields expected holds (.ask request next)

/-- Whatever the answers, a value that the program ends with has the property. -/
def Returns (holds : α → Prop) (program : Program α) : Prop :=
  program.Yields (fun _ => True) fun
    | .ok value => holds value
    | .error _ => True

/-- Given expected answers, a failure that the program ends with has the property. -/
def Fails (expected : Exchange → Prop) (holds : Failure → Prop) (program : Program α) : Prop :=
  program.Yields expected fun
    | .ok _ => True
    | .error failure => holds failure

/-- Given expected answers, a value that the program ends with has the first property, and a failure
has the second one. -/
def Gives (expected : Exchange → Prop) (holds : α → Prop) (fault : Failure → Prop)
    (program : Program α) : Prop :=
  program.Yields expected fun
    | .ok value => holds value
    | .error failure => fault failure

/-! ## Composition as written in programs -/

@[simp]
theorem pure_eq_done (value : α) : (pure value : Program α) = .done value :=
  rfl

@[simp]
theorem monad_bind_eq (program : Program α) (next : α → Program β) :
    program >>= next = program.bind next :=
  rfl

@[simp]
theorem ofExcept_ok_bind (value : α) (next : α → Program β) :
    (ofExcept (.ok value)).bind next = next value :=
  rfl

/-! ## What remains -/

@[simp]
theorem leads_done {value : α} {exchanges : List Exchange} {rest : Program α} :
    (done value).Leads exchanges rest ↔ exchanges = [] ∧ rest = .done value := by
  constructor
  · intro leads
    cases leads
    exact ⟨rfl, rfl⟩
  · rintro ⟨rfl, rfl⟩
    exact .start _

@[simp]
theorem leads_fail {failure : Failure} {exchanges : List Exchange} {rest : Program α} :
    (fail failure).Leads exchanges rest ↔ exchanges = [] ∧ rest = .fail failure := by
  constructor
  · intro leads
    cases leads
    exact ⟨rfl, rfl⟩
  · rintro ⟨rfl, rfl⟩
    exact .start _

theorem leads_ask {request : Request} {next : request.Answer → Program α}
    {exchanges : List Exchange} {rest : Program α} :
    (ask request next).Leads exchanges rest ↔
      (exchanges = [] ∧ rest = .ask request next) ∨
        ∃ answer later,
          exchanges = ⟨request, answer⟩ :: later ∧ (next answer).Leads later rest := by
  constructor
  · intro leads
    cases leads with
    | start => exact .inl ⟨rfl, rfl⟩
    | step later => exact .inr ⟨_, _, rfl, later⟩
  · rintro (⟨rfl, rfl⟩ | ⟨answer, later, rfl, leads⟩)
    · exact .start _
    · exact .step leads

theorem Leads.append {program middle rest : Program α} {first second : List Exchange}
    (before : program.Leads first middle) (after : middle.Leads second rest) :
    program.Leads (first ++ second) rest := by
  induction before with
  | start => exact after
  | step _ ih => exact .step (ih after)

theorem Leads.split {program rest : Program α} {first second : List Exchange}
    (leads : program.Leads (first ++ second) rest) :
    ∃ middle, program.Leads first middle ∧ middle.Leads second rest := by
  induction first generalizing program with
  | nil => exact ⟨program, .start _, leads⟩
  | cons exchange first ih =>
      cases leads with
      | step later =>
          obtain ⟨middle, before, after⟩ := ih later
          exact ⟨middle, .step before, after⟩

/-- The exchanges determine what remains. -/
theorem Leads.unique {program first second : Program α} {exchanges : List Exchange}
    (leadsFirst : program.Leads exchanges first) (leadsSecond : program.Leads exchanges second) :
    first = second := by
  induction leadsFirst with
  | start =>
      cases leadsSecond
      rfl
  | step _ ih =>
      cases leadsSecond with
      | step later => exact ih later

theorem Leads.bind {program rest : Program α} {exchanges : List Exchange}
    (leads : program.Leads exchanges rest) (next : α → Program β) :
    (program.bind next).Leads exchanges (rest.bind next) := by
  induction leads with
  | start => exact .start _
  | step _ ih => exact .step ih

theorem Leads.attempt {program rest : Program α} {exchanges : List Exchange}
    (leads : program.Leads exchanges rest) :
    program.attempt.Leads exchanges rest.attempt := by
  induction leads with
  | start => exact .start _
  | step _ ih => exact .step ih

/-- A composed program is still in its first part, or has gone on with the value of it. -/
theorem leads_bind {program : Program α} {next : α → Program β} {exchanges : List Exchange}
    {rest : Program β} :
    (program.bind next).Leads exchanges rest ↔
      (∃ middle, program.Leads exchanges middle ∧ rest = middle.bind next) ∨
        ∃ first second value, exchanges = first ++ second ∧
          program.Leads first (.done value) ∧ (next value).Leads second rest := by
  constructor
  · intro leads
    induction program generalizing exchanges with
    | done value => exact .inr ⟨[], exchanges, value, rfl, .start _, leads⟩
    | fail failure =>
        rw [Program.bind, leads_fail] at leads
        exact .inl ⟨.fail failure, by simp [leads.1], leads.2⟩
    | ask request continuation ih =>
        rw [Program.bind, leads_ask] at leads
        rcases leads with ⟨rfl, rfl⟩ | ⟨answer, later, rfl, leads⟩
        · exact .inl ⟨_, .start _, rfl⟩
        · rcases ih answer leads with
            ⟨middle, before, rfl⟩ | ⟨first, second, value, rfl, before, after⟩
          · exact .inl ⟨middle, .step before, rfl⟩
          · exact .inr ⟨_, second, value, rfl, .step before, after⟩
  · rintro (⟨middle, leads, rfl⟩ | ⟨first, second, value, rfl, before, after⟩)
    · exact leads.bind next
    · exact (before.bind next).append after

theorem leads_attempt {program : Program α} {exchanges : List Exchange}
    {rest : Program (Except Failure α)} :
    program.attempt.Leads exchanges rest ↔
      ∃ middle, program.Leads exchanges middle ∧ rest = middle.attempt := by
  constructor
  · intro leads
    induction program generalizing exchanges with
    | done value =>
        rw [Program.attempt, leads_done] at leads
        exact ⟨.done value, by simp [leads.1], leads.2⟩
    | fail failure =>
        rw [Program.attempt, leads_done] at leads
        exact ⟨.fail failure, by simp [leads.1], leads.2⟩
    | ask request continuation ih =>
        rw [Program.attempt, leads_ask] at leads
        rcases leads with ⟨rfl, rfl⟩ | ⟨answer, later, rfl, leads⟩
        · exact ⟨_, .start _, rfl⟩
        · obtain ⟨middle, before, rfl⟩ := ih answer leads
          exact ⟨middle, .step before, rfl⟩
  · rintro ⟨middle, leads, rfl⟩
    exact leads.attempt

/-! ## How a program ends -/

@[simp]
theorem ends_done {value : α} {exchanges : List Exchange} {result : Except Failure α} :
    (done value).Ends exchanges result ↔ exchanges = [] ∧ result = .ok value := by
  cases result <;> simp [Ends, ofExcept]

@[simp]
theorem ends_fail {failure : Failure} {exchanges : List Exchange} {result : Except Failure α} :
    (fail failure).Ends exchanges result ↔ exchanges = [] ∧ result = .error failure := by
  cases result <;> simp [Ends, ofExcept]

@[simp]
theorem ends_ofExcept {given result : Except Failure α} {exchanges : List Exchange} :
    (ofExcept given).Ends exchanges result ↔ exchanges = [] ∧ result = given := by
  cases given <;> simp [ofExcept]

@[simp]
theorem ends_ask {request : Request} {next : request.Answer → Program α}
    {exchanges : List Exchange} {result : Except Failure α} :
    (ask request next).Ends exchanges result ↔
      ∃ answer later, exchanges = ⟨request, answer⟩ :: later ∧ (next answer).Ends later result := by
  cases result <;> simp [Ends, ofExcept, leads_ask]

theorem ends_bind {program : Program α} {next : α → Program β} {exchanges : List Exchange}
    {result : Except Failure β} :
    (program.bind next).Ends exchanges result ↔
      (∃ failure, program.Ends exchanges (.error failure) ∧ result = .error failure) ∨
        ∃ first second value, exchanges = first ++ second ∧
          program.Ends first (.ok value) ∧ (next value).Ends second result := by
  rw [Ends, leads_bind]
  constructor
  · rintro (⟨middle, leads, rest⟩ | later)
    · -- The rest of the composition has ended, so the first part has ended as well.
      cases middle with
      | done value =>
          refine .inr ⟨exchanges, [], value, by simp, leads, ?_⟩
          rw [Ends, rest]
          exact .start _
      | fail failure =>
          refine .inl ⟨failure, leads, ?_⟩
          cases result with
          | ok value => simp [ofExcept, Program.bind] at rest
          | error other => simpa [ofExcept, Program.bind] using rest
      | ask request continuation => cases result <;> simp [ofExcept, Program.bind] at rest
    · exact .inr later
  · rintro (⟨failure, leads, rfl⟩ | later)
    · exact .inl ⟨.fail failure, leads, rfl⟩
    · exact .inr later

theorem ends_bind_ok {program : Program α} {next : α → Program β} {exchanges : List Exchange}
    {value : β} :
    (program.bind next).Ends exchanges (.ok value) ↔
      ∃ first second middle, exchanges = first ++ second ∧
        program.Ends first (.ok middle) ∧ (next middle).Ends second (.ok value) := by
  simp [ends_bind]

@[simp]
theorem ends_attempt {program : Program α} {exchanges : List Exchange}
    {result : Except Failure (Except Failure α)} :
    program.attempt.Ends exchanges result ↔
      ∃ inner, program.Ends exchanges inner ∧ result = .ok inner := by
  rw [Ends, leads_attempt]
  constructor
  · rintro ⟨middle, leads, rest⟩
    cases middle with
    | done value =>
        refine ⟨.ok value, leads, ?_⟩
        cases result <;> simp_all [ofExcept, Program.attempt]
    | fail failure =>
        refine ⟨.error failure, leads, ?_⟩
        cases result <;> simp_all [ofExcept, Program.attempt]
    | ask request continuation => cases result <;> simp [ofExcept, Program.attempt] at rest
  · rintro ⟨inner, leads, rfl⟩
    exact ⟨ofExcept inner, leads, by cases inner <;> rfl⟩

theorem ends_rescue {program : Program α} {handle : Failure → Program α}
    {exchanges : List Exchange} {result : Except Failure α} :
    (program.rescue handle).Ends exchanges result ↔
      (∃ value, program.Ends exchanges (.ok value) ∧ result = .ok value) ∨
        ∃ first second failure, exchanges = first ++ second ∧
          program.Ends first (.error failure) ∧ (handle failure).Ends second result := by
  rw [rescue, ends_bind]
  constructor
  · rintro (⟨failure, ended, _⟩ | ⟨first, second, inner, rfl, ended, later⟩)
    · simp at ended
    · obtain ⟨inner, ended, same⟩ := ends_attempt.mp ended
      cases same
      cases inner with
      | ok value =>
          obtain ⟨rfl, rfl⟩ := ends_done.mp later
          exact .inl ⟨value, by simpa using ended, rfl⟩
      | error failure => exact .inr ⟨first, second, failure, rfl, ended, later⟩
  · rintro (⟨value, ended, rfl⟩ | ⟨first, second, failure, rfl, ended, later⟩)
    · exact .inr ⟨exchanges, [], .ok value, by simp, by simpa using ended, by simp⟩
    · exact .inr ⟨first, second, .error failure, rfl, by simpa using ended, later⟩

@[simp]
theorem ends_request {request : Request} {exchanges : List Exchange}
    {result : Except Failure request.Answer} :
    (Program.request request).Ends exchanges result ↔
      ∃ answer, exchanges = [⟨request, answer⟩] ∧ result = .ok answer := by
  rw [Program.request, ends_ask]
  constructor
  · rintro ⟨answer, later, rfl, ended⟩
    obtain ⟨rfl, rfl⟩ := ends_done.mp ended
    exact ⟨answer, rfl, rfl⟩
  · rintro ⟨answer, rfl, rfl⟩
    exact ⟨answer, [], rfl, by simp⟩

@[simp]
theorem ends_log {level : LogLevel} {component name : String} {details : List (String × Json)}
    {exchanges : List Exchange} {result : Except Failure Unit} :
    (log level component name details).Ends exchanges result ↔
      exchanges = [⟨.log ⟨level, component, name, details⟩, ()⟩] ∧ result = .ok () := by
  rw [log, ends_ask]
  constructor
  · rintro ⟨answer, later, rfl, ended⟩
    obtain ⟨rfl, rfl⟩ := ends_done.mp ended
    exact ⟨rfl, rfl⟩
  · rintro ⟨rfl, rfl⟩
    exact ⟨(), [], rfl, by simp⟩

theorem ends_log_bind {level : LogLevel} {component name : String}
    {details : List (String × Json)} {next : Unit → Program α} {exchanges : List Exchange}
    {result : Except Failure α} :
    ((log level component name details).bind next).Ends exchanges result ↔
      ∃ later, exchanges = ⟨.log ⟨level, component, name, details⟩, ()⟩ :: later ∧
        (next ()).Ends later result := by
  rw [ends_bind]
  constructor
  · rintro (⟨_, noEnd, _⟩ | ⟨_, later, _, rfl, logged, ended⟩)
    · simp at noEnd
    · obtain ⟨rfl, _⟩ := ends_log.mp logged
      exact ⟨later, rfl, ended⟩
  · rintro ⟨later, rfl, ended⟩
    exact .inr ⟨[_], later, (), rfl, by simp, ended⟩

/-- Two executions from the same answers end together. -/
theorem Ends.unique {program : Program α} {first second later further : List Exchange}
    {one two : Except Failure α} (ended : program.Ends first one) (other : program.Ends second two)
    (same : first ++ later = second ++ further) : first = second ∧ one = two := by
  induction program generalizing first second with
  | done value =>
      obtain ⟨rfl, rfl⟩ := ends_done.mp ended
      obtain ⟨rfl, rfl⟩ := ends_done.mp other
      exact ⟨rfl, rfl⟩
  | fail failure =>
      obtain ⟨rfl, rfl⟩ := ends_fail.mp ended
      obtain ⟨rfl, rfl⟩ := ends_fail.mp other
      exact ⟨rfl, rfl⟩
  | ask request next ih =>
      obtain ⟨answer, firstRest, rfl, endedRest⟩ := ends_ask.mp ended
      obtain ⟨given, secondRest, rfl, otherRest⟩ := ends_ask.mp other
      injection same with head tail
      cases head
      obtain ⟨rfl, rfl⟩ := ih answer endedRest otherRest tail
      exact ⟨rfl, rfl⟩

/-- A composition goes on with the value that its first part ended with. -/
theorem Ends.onward {program : Program α} {next : α → Program β}
    {first rest exchanges more : List Exchange} {value : α} {outcome : Except Failure β}
    (ended : program.Ends first (.ok value)) (whole : (program.bind next).Ends exchanges outcome)
    (split : first ++ rest = exchanges ++ more) :
    ∃ second, exchanges = first ++ second ∧ rest = second ++ more ∧
      (next value).Ends second outcome := by
  rcases ends_bind.mp whole with ⟨failure, failing, _⟩ | ⟨before, second, other, rfl, done, later⟩
  · cases (ended.unique failing split).2
  · rw [List.append_assoc] at split
    obtain ⟨rfl, same⟩ := ended.unique done split
    cases same
    exact ⟨second, rfl, List.append_cancel_left split, later⟩

/-! ## The next request -/

@[simp]
theorem asks_done {value : α} {past : List Exchange} {request : Request} :
    ¬ (done value).Asks past request := by
  simp [Asks]

@[simp]
theorem asks_fail {failure : Failure} {past : List Exchange} {request : Request} :
    ¬ (fail failure : Program α).Asks past request := by
  simp [Asks]

@[simp]
theorem asks_ofExcept {given : Except Failure α} {past : List Exchange} {request : Request} :
    ¬ (ofExcept given).Asks past request := by
  cases given <;> simp [ofExcept]

theorem asks_ask {request asked : Request} {next : request.Answer → Program α}
    {past : List Exchange} :
    (ask request next).Asks past asked ↔
      (past = [] ∧ asked = request) ∨
        ∃ answer later, past = ⟨request, answer⟩ :: later ∧ (next answer).Asks later asked := by
  constructor
  · rintro ⟨continuation, leads⟩
    rcases leads_ask.mp leads with ⟨rfl, same⟩ | ⟨answer, later, rfl, after⟩
    · cases same
      exact .inl ⟨rfl, rfl⟩
    · exact .inr ⟨answer, later, rfl, continuation, after⟩
  · rintro (⟨rfl, rfl⟩ | ⟨answer, later, rfl, continuation, leads⟩)
    · exact ⟨next, .start _⟩
    · exact ⟨continuation, .step leads⟩

theorem asks_bind {program : Program α} {next : α → Program β} {past : List Exchange}
    {request : Request} :
    (program.bind next).Asks past request ↔
      program.Asks past request ∨
        ∃ first second value, past = first ++ second ∧
          program.Ends first (.ok value) ∧ (next value).Asks second request := by
  constructor
  · rintro ⟨continuation, leads⟩
    rcases leads_bind.mp leads with
      ⟨middle, inFirst, rest⟩ | ⟨first, second, value, rfl, before, after⟩
    · cases middle with
      | done value => exact .inr ⟨past, [], value, by simp, inFirst, continuation, rest ▸ .start _⟩
      | fail failure => simp [Program.bind] at rest
      | ask asked inner =>
          simp only [Program.bind] at rest
          cases rest
          exact .inl ⟨inner, inFirst⟩
    · exact .inr ⟨first, second, value, rfl, before, continuation, after⟩
  · rintro (⟨continuation, leads⟩ | ⟨first, second, value, rfl, ended, continuation, leads⟩)
    · exact ⟨_, leads.bind next⟩
    · exact ⟨continuation, leads_bind.mpr (.inr ⟨first, second, value, rfl, ended, leads⟩)⟩

@[simp]
theorem asks_attempt {program : Program α} {past : List Exchange} {request : Request} :
    program.attempt.Asks past request ↔ program.Asks past request := by
  constructor
  · rintro ⟨continuation, leads⟩
    obtain ⟨middle, inner, rest⟩ := leads_attempt.mp leads
    cases middle with
    | done value => simp [Program.attempt] at rest
    | fail failure => simp [Program.attempt] at rest
    | ask asked next =>
        simp only [Program.attempt] at rest
        cases rest
        exact ⟨next, inner⟩
  · rintro ⟨continuation, leads⟩
    exact ⟨_, leads.attempt⟩

@[simp]
theorem asks_log {level : LogLevel} {component name : String} {details : List (String × Json)}
    {past : List Exchange} {request : Request} :
    (log level component name details).Asks past request ↔
      past = [] ∧ request = .log ⟨level, component, name, details⟩ := by
  simp [log, asks_ask]

/-- Every exchange answers a request that the program made after the exchanges before it. -/
theorem Leads.asks_of_append {program rest : Program α} {before after : List Exchange}
    {exchange : Exchange} (leads : program.Leads (before ++ exchange :: after) rest) :
    program.Asks before exchange.request := by
  obtain ⟨middle, first, later⟩ := leads.split
  cases later with
  | step _ => exact ⟨_, first⟩

theorem Leads.asks_of_mem {program rest : Program α} {exchanges : List Exchange}
    (leads : program.Leads exchanges rest) {exchange : Exchange} (made : exchange ∈ exchanges) :
    ∃ before after, exchanges = before ++ exchange :: after ∧
      program.Asks before exchange.request := by
  obtain ⟨before, after, rfl⟩ := List.append_of_mem made
  exact ⟨before, after, rfl, leads.asks_of_append⟩

/-! ## Runs -/

section Run

variable {σ : Type} (answer : (request : Request) → σ → request.Answer × σ)

/-- The exchanges of a program that runs against surroundings with a state. -/
def exchanges : Program α → σ → List Exchange
  | .done _, _ => []
  | .fail _, _ => []
  | .ask request next, state =>
      let (given, state) := answer request state
      ⟨request, given⟩ :: exchanges (next given) state

/-- A program that runs ends with the exchanges of its run. -/
theorem ends_run (program : Program α) (state : σ) :
    program.Ends (program.exchanges answer state) (program.run answer state).1 := by
  induction program generalizing state with
  | done value => exact .start _
  | fail failure => exact .start _
  | ask request next ih => exact .step (ih _ _)

/-- A composition runs its parts one after the other, in the state that the first one leaves. -/
theorem run_bind (program : Program α) (next : α → Program β) (state : σ) :
    (program.bind next).run answer state =
      match program.run answer state with
      | (.ok value, after) => (next value).run answer after
      | (.error failure, after) => (.error failure, after) := by
  induction program generalizing state with
  | done value => rfl
  | fail failure => rfl
  | ask request continuation ih => exact ih _ _

theorem run_attempt (program : Program α) (state : σ) :
    program.attempt.run answer state =
      (.ok (program.run answer state).1, (program.run answer state).2) := by
  induction program generalizing state with
  | done value => rfl
  | fail failure => rfl
  | ask request continuation ih => exact ih _ _

/-- What every exchange of a run leaves alone is the same after the run. -/
theorem run_kept {τ : Type} (held : σ → τ) {program : Program α} {state : σ}
    {spared : Request → Prop}
    (keeps : ∀ request before, spared request → held (answer request before).2 = held before)
    (all : ∀ exchange ∈ program.exchanges answer state, spared exchange.request) :
    held (program.run answer state).2 = held state := by
  induction program generalizing state with
  | done value => rfl
  | fail failure => rfl
  | ask request continuation ih =>
      have first : held (answer request state).2 = held state :=
        keeps request state (all _ List.mem_cons_self)
      rw [← first]
      exact ih _ fun exchange later => all exchange (List.mem_cons_of_mem _ later)

end Run

/-! ## All requests -/

section Makes

variable {allowed : Request → Prop}

@[simp]
theorem makes_done {value : α} : (done value).Makes allowed :=
  .done value

@[simp]
theorem makes_fail {failure : Failure} : (fail failure : Program α).Makes allowed :=
  .fail failure

@[simp]
theorem makes_ofExcept {given : Except Failure α} : (ofExcept given).Makes allowed := by
  cases given with
  | ok value => exact .done value
  | error failure => exact .fail failure

/-- What goes on after a computation goes on with its value. -/
theorem makes_ofExcept_bind {given : Except Failure α} {next : α → Program β}
    (later : ∀ value, given = .ok value → (next value).Makes allowed) :
    ((ofExcept given).bind next).Makes allowed := by
  cases given with
  | ok value => exact later value rfl
  | error failure => exact .fail failure

@[simp]
theorem makes_ask {request : Request} {next : request.Answer → Program α} :
    (ask request next).Makes allowed ↔
      allowed request ∧ ∀ answer, (next answer).Makes allowed := by
  constructor
  · intro makes
    cases makes with
    | ask first later => exact ⟨first, later⟩
  · rintro ⟨first, later⟩
    exact .ask first later

@[simp]
theorem makes_request {request : Request} :
    (Program.request request).Makes allowed ↔ allowed request := by
  simp [Program.request]

@[simp]
theorem makes_log {level : LogLevel} {component name : String} {details : List (String × Json)} :
    (log level component name details).Makes allowed ↔
      allowed (.log ⟨level, component, name, details⟩) := by
  simp [log]

theorem makes_bind {program : Program α} {next : α → Program β}
    (first : program.Makes allowed) (later : ∀ value, (next value).Makes allowed) :
    (program.bind next).Makes allowed := by
  induction first with
  | done value => exact later value
  | fail failure => exact .fail failure
  | ask first _ ih => exact .ask first ih

@[simp]
theorem makes_attempt {program : Program α} :
    program.attempt.Makes allowed ↔ program.Makes allowed := by
  induction program with
  | done value => simp [Program.attempt]
  | fail failure => simp [Program.attempt]
  | ask request continuation ih => simp [Program.attempt, ih]

theorem makes_rescue {program : Program α} {handle : Failure → Program α}
    (first : program.Makes allowed) (later : ∀ failure, (handle failure).Makes allowed) :
    (program.rescue handle).Makes allowed := by
  refine makes_bind (makes_attempt.mpr first) fun inner => ?_
  cases inner with
  | ok value => exact .done value
  | error failure => exact later failure

theorem Makes.mono {program : Program α} {more : Request → Prop} (makes : program.Makes allowed)
    (included : ∀ request, allowed request → more request) : program.Makes more := by
  induction makes with
  | done value => exact .done value
  | fail failure => exact .fail failure
  | ask first _ ih => exact .ask (included _ first) ih

theorem Makes.asks {program : Program α} {past : List Exchange} {request : Request}
    (makes : program.Makes allowed) (asks : program.Asks past request) : allowed request := by
  induction makes generalizing past with
  | done value => simp at asks
  | fail failure => simp at asks
  | ask first _ ih =>
      rcases asks_ask.mp asks with ⟨_, rfl⟩ | ⟨answer, later, _, asksLater⟩
      · exact first
      · exact ih answer asksLater

theorem Makes.of_mem {program rest : Program α} {exchanges : List Exchange}
    (makes : program.Makes allowed) (leads : program.Leads exchanges rest) {exchange : Exchange}
    (made : exchange ∈ exchanges) : allowed exchange.request := by
  obtain ⟨before, after, _, asks⟩ := leads.asks_of_mem made
  exact makes.asks asks

end Makes

/-! ## All results -/

section Yields

variable {expected : Exchange → Prop} {holds wanted : Except Failure α → Prop}

theorem Yields.of_ends {program : Program α} {exchanges : List Exchange}
    {result : Except Failure α} (yields : program.Yields expected holds)
    (ended : program.Ends exchanges result)
    (answered : ∀ exchange ∈ exchanges, expected exchange) : holds result := by
  induction yields generalizing exchanges with
  | done satisfied =>
      obtain ⟨_, same⟩ := ends_done.mp ended
      rw [same]
      exact satisfied
  | fail satisfied =>
      obtain ⟨_, same⟩ := ends_fail.mp ended
      rw [same]
      exact satisfied
  | ask _ ih =>
      obtain ⟨answer, later, rfl, endedLater⟩ := ends_ask.mp ended
      exact ih answer (answered _ List.mem_cons_self) endedLater fun exchange member =>
        answered exchange (List.mem_cons_of_mem _ member)

/-- What holds of every end of a program, given expected answers, is what it yields. -/
theorem yields_of_forall_ends {program : Program α}
    (all : ∀ exchanges result, program.Ends exchanges result →
      (∀ exchange ∈ exchanges, expected exchange) → holds result) :
    program.Yields expected holds := by
  induction program with
  | done value => exact .done (all [] (.ok value) (by simp) (by simp))
  | fail failure => exact .fail (all [] (.error failure) (by simp) (by simp))
  | ask request next ih =>
      refine .ask fun answer answered => ih answer fun exchanges result ended answeredLater => ?_
      refine all (⟨request, answer⟩ :: exchanges) result
        (ends_ask.mpr ⟨answer, exchanges, rfl, ended⟩) fun exchange made => ?_
      rcases List.mem_cons.mp made with rfl | later
      · exact answered
      · exact answeredLater exchange later

theorem Yields.bind {program : Program α} {next : α → Program β}
    {others : Except Failure β → Prop} (yields : program.Yields expected holds)
    (onward : ∀ value, holds (.ok value) → (next value).Yields expected others)
    (failed : ∀ failure, holds (.error failure) → others (.error failure)) :
    (program.bind next).Yields expected others := by
  induction yields with
  | done satisfied => exact onward _ satisfied
  | fail satisfied => exact .fail (failed _ satisfied)
  | ask _ ih => exact .ask ih

theorem Yields.attempt {program : Program α} {others : Except Failure (Except Failure α) → Prop}
    (yields : program.Yields expected holds)
    (inner : ∀ result, holds result → others (.ok result)) :
    program.attempt.Yields expected others := by
  induction yields with
  | done satisfied => exact .done (inner _ satisfied)
  | fail satisfied => exact .done (inner _ satisfied)
  | ask _ ih => exact .ask ih

theorem Yields.rescue {program : Program α} {handle : Failure → Program α}
    (first : program.Yields expected holds) (kept : ∀ value, holds (.ok value) → wanted (.ok value))
    (handled : ∀ failure, holds (.error failure) → (handle failure).Yields expected wanted) :
    (program.rescue handle).Yields expected wanted := by
  have attempted : program.attempt.Yields expected fun
      | .ok result => holds result
      | .error _ => False :=
    first.attempt fun _ satisfied => satisfied
  refine attempted.bind (fun result satisfied => ?_) fun _ => False.elim
  cases result with
  | ok value => exact .done (kept value satisfied)
  | error failure => exact handled failure satisfied

theorem yields_ofExcept {given : Except Failure α} (satisfied : holds given) :
    (ofExcept given).Yields expected holds := by
  cases given with
  | ok value => exact .done satisfied
  | error failure => exact .fail satisfied

theorem yields_eq (given : Except Failure α) : (ofExcept given).Yields expected (· = given) :=
  yields_ofExcept rfl

theorem yields_true (program : Program α) : program.Yields expected fun _ => True := by
  induction program with
  | done value => exact .done trivial
  | fail failure => exact .fail trivial
  | ask request next ih => exact .ask fun answer _ => ih answer

/-- What comes last decides how a composition ends. -/
theorem yields_bind {program : Program α} {next : α → Program β}
    {others : Except Failure β → Prop} (later : ∀ value, (next value).Yields expected others)
    (failed : ∀ failure, others (.error failure)) : (program.bind next).Yields expected others :=
  (yields_true program).bind (fun value _ => later value) fun failure _ => failed failure

end Yields

section Returns

variable {holds : α → Prop}

theorem Returns.done {value : α} (satisfied : holds value) : (done value).Returns holds :=
  Yields.done satisfied

theorem Returns.fail (failure : Failure) : (fail failure : Program α).Returns holds :=
  Yields.fail trivial

theorem returns_bind {program : Program α} {next : α → Program β} {wanted : β → Prop}
    (later : ∀ value, (next value).Returns wanted) : (program.bind next).Returns wanted :=
  yields_bind later fun _ => trivial

theorem returns_ofExcept {given : Except Failure α}
    (satisfied : ∀ value, given = .ok value → holds value) : (ofExcept given).Returns holds := by
  cases given with
  | ok value => exact .done (satisfied value rfl)
  | error failure => exact .fail failure

theorem Returns.rescue {program : Program α} {handle : Failure → Program α}
    (first : program.Returns holds) (handled : ∀ failure, (handle failure).Returns holds) :
    (program.rescue handle).Returns holds :=
  Yields.rescue first (fun _ satisfied => satisfied) fun failure _ => handled failure

theorem Returns.yields {program : Program α} (returns : program.Returns holds)
    (expected : Exchange → Prop) :
    program.Yields expected fun result => ∀ value, result = .ok value → holds value := by
  induction returns with
  | done satisfied =>
      refine .done ?_
      rintro value ⟨⟩
      exact satisfied
  | fail _ =>
      refine .fail ?_
      rintro value ⟨⟩
  | ask _ ih => exact .ask fun answer _ => ih answer trivial

theorem Returns.of_ends {program : Program α} {exchanges : List Exchange} {value : α}
    (returns : program.Returns holds) (ended : program.Ends exchanges (.ok value)) :
    holds value :=
  Yields.of_ends returns ended fun _ _ => trivial

end Returns

section Fails

variable {expected : Exchange → Prop} {holds : Failure → Prop}

theorem Fails.done (value : α) : (done value).Fails expected holds :=
  Yields.done trivial

theorem Fails.fail {failure : Failure} (satisfied : holds failure) :
    (fail failure : Program α).Fails expected holds :=
  Yields.fail satisfied

theorem Fails.bind {program : Program α} {next : α → Program β}
    (first : program.Fails expected holds) (later : ∀ value, (next value).Fails expected holds) :
    (program.bind next).Fails expected holds :=
  Yields.bind first (fun value _ => later value) fun _ satisfied => satisfied

theorem Gives.bind {program : Program α} {next : α → Program β} {wanted : α → Prop}
    (gives : program.Gives expected wanted holds)
    (later : ∀ value, wanted value → (next value).Fails expected holds) :
    (program.bind next).Fails expected holds :=
  Yields.bind gives later fun _ failed => failed

theorem fails_ofExcept {given : Except Failure α}
    (satisfied : ∀ failure, given = .error failure → holds failure) :
    (ofExcept given).Fails expected holds := by
  cases given with
  | ok value => exact .done value
  | error failure => exact .fail (satisfied failure rfl)

theorem fails_rescue {program : Program α} {handle : Failure → Program α}
    (handled : ∀ failure, (handle failure).Fails expected holds) :
    (program.rescue handle).Fails expected holds :=
  (yields_true program).rescue (fun _ _ => trivial) fun failure _ => handled failure

end Fails

end Program
end AlertRelay
