import AlertRelay.Proofs.DispatchStages
import AlertRelay.Proofs.Entries

/-!
# The context of a message

A dispatch binds the variables of its message and removes them when it leaves.  Nothing in between
touches the context, so every variable has its earlier value again, however the dispatch ends.
-/

namespace AlertRelay

open Program

/-! ## Variables after binding and leaving -/

namespace Context

/-- Every variable is bound once at most. -/
def Distinct (context : Context) : Prop := (context.map Prod.fst).Nodup

variable {context previous bound : Context} {name : String}

/-- A variable has the value that it was bound to last. -/
theorem lookup_bind (context bound : Context) (name : String) :
    (bind context bound).lookup name = (bound.reverse.lookup name).or (context.lookup name) :=
  lookup_setEntries bound name

theorem Distinct.filter (distinct : context.Distinct) (isKept : String × Json → Bool) :
    Distinct (context.filter isKept) :=
  (List.filter_sublist.map _).nodup distinct

/-- Leaving gives the bound variables their earlier values and keeps the others. -/
theorem lookup_leave (distinct : previous.Distinct) (context bound : Context) (name : String) :
    (leave context previous bound).lookup name =
      if (bound.map Prod.fst).contains name then previous.lookup name
      else context.lookup name := by
  rw [leave, lookup_bind, lookup_reverse (distinct.filter _), unbind,
    lookup_filter fun name => (bound.map Prod.fst).contains name,
    lookup_filter fun name => !(bound.map Prod.fst).contains name]
  cases (bound.map Prod.fst).contains name <;> simp

/-- Variables that are bound and then left have their earlier values. -/
theorem lookup_leave_bind (distinct : previous.Distinct) (bound : Context) (name : String) :
    (leave (bind previous bound) previous bound).lookup name = previous.lookup name := by
  rw [lookup_leave distinct]
  split
  · rfl
  · rename_i unbound
    have absent : name ∉ (List.reverse bound).map Prod.fst := by simpa using unbound
    rw [lookup_bind, lookup_of_not_mem absent]
    rfl

end Context

/-! ## Surroundings that hold the context -/

/-- The request neither asks for the message context nor replaces it. -/
def Request.SparesContext : Request → Prop
  | .context => False
  | .setContext _ => False
  | _ => True

namespace Request

variable {request : Request}

theorem Routine.sparesContext (routine : request.Routine) : request.SparesContext := by
  cases request <;> first | exact routine.elim | trivial

theorem Reading.sparesContext (reading : request.Reading) : request.SparesContext := by
  cases request <;> first | exact reading.elim | trivial

theorem Noting.sparesContext (noting : request.Noting) : request.SparesContext := by
  cases request <;> first | exact noting.elim | trivial

theorem Outbound.sparesContext (outbound : request.Outbound) : request.SparesContext := by
  cases request <;> first | exact outbound.elim | trivial

theorem Subscribing.sparesContext (subscribing : request.Subscribing) : request.SparesContext := by
  cases request <;> first | exact subscribing.elim | trivial

theorem Carrying.sparesContext (carrying : request.Carrying) : request.SparesContext := by
  rcases carrying with routine | outbound | subscribing
  · exact routine.sparesContext
  · exact outbound.sparesContext
  · exact subscribing.sparesContext

end Request

namespace Context

/-- What surroundings with a message context answer, and the context after it. -/
inductive Answers (context : Context) : Exchange → Context → Prop
  | told : Answers context ⟨.context, context⟩ context
  | replaced (other : Context) : Answers context ⟨.setContext other, ()⟩ other
  | elsewhere {exchange : Exchange} (spares : exchange.request.SparesContext) :
      Answers context exchange context

inductive Through : Context → List Exchange → Context → Prop
  | nil (context : Context) : Through context [] context
  | cons {context middle after : Context} {exchange : Exchange} {exchanges : List Exchange}
      (answers : context.Answers exchange middle) (later : Through middle exchanges after) :
      Through context (exchange :: exchanges) after

variable {context after : Context}

theorem answers_context {told : Context} :
    context.Answers ⟨.context, told⟩ after ↔ told = context ∧ after = context := by
  constructor
  · intro answers
    cases answers with
    | told => exact ⟨rfl, rfl⟩
    | elsewhere never => exact never.elim
  · rintro ⟨rfl, rfl⟩
    exact .told

theorem answers_setContext {other : Context} {answer : Unit} :
    context.Answers ⟨.setContext other, answer⟩ after ↔ after = other := by
  constructor
  · intro answers
    cases answers with
    | replaced => rfl
    | elsewhere never => exact never.elim
  · rintro rfl
    exact .replaced _

@[simp]
theorem through_nil : context.Through [] after ↔ after = context := by
  constructor
  · rintro ⟨⟩
    rfl
  · rintro rfl
    exact .nil _

theorem through_cons {exchange : Exchange} {exchanges : List Exchange} :
    context.Through (exchange :: exchanges) after ↔
      ∃ middle, context.Answers exchange middle ∧ middle.Through exchanges after := by
  constructor
  · rintro (_ | ⟨answers, later⟩)
    exact ⟨_, answers, later⟩
  · rintro ⟨middle, answers, later⟩
    exact .cons answers later

theorem Through.split {first second : List Exchange}
    (through : context.Through (first ++ second) after) :
    ∃ middle, context.Through first middle ∧ middle.Through second after := by
  induction first generalizing context with
  | nil => exact ⟨context, .nil _, through⟩
  | cons exchange first ih =>
      obtain ⟨next, answers, later⟩ := through_cons.mp through
      obtain ⟨middle, before, rest⟩ := ih later
      exact ⟨middle, .cons answers before, rest⟩

theorem Answers.eq_of_spares {exchange : Exchange} (answers : context.Answers exchange after)
    (spares : exchange.request.SparesContext) : after = context := by
  cases answers with
  | told => exact spares.elim
  | replaced => exact spares.elim
  | elsewhere => rfl

theorem Through.eq_of_spares {exchanges : List Exchange} (through : context.Through exchanges after)
    (spares : ∀ exchange ∈ exchanges, exchange.request.SparesContext) : after = context := by
  induction through with
  | nil => rfl
  | cons answers _ ih =>
      rw [ih fun exchange member => spares exchange (List.mem_cons_of_mem _ member)]
      exact answers.eq_of_spares (spares _ List.mem_cons_self)

/-- A program within a context of its own runs with its variables bound, and what it ends in is
left for the context before it. -/
theorem Through.withContext {α : Type} {bound : Context} {program : Program α}
    {exchanges : List Exchange} {outcome : Except Failure α}
    (through : context.Through exchanges after)
    (ended : (Program.withContext bound program).Ends exchanges outcome) :
    ∃ inner middle,
      exchanges = ⟨.context, context⟩ :: ⟨.setContext (bind context bound), ()⟩ ::
        (inner ++ [⟨.context, middle⟩, ⟨.setContext (leave middle context bound), ()⟩]) ∧
      program.Ends inner outcome ∧ (bind context bound).Through inner middle ∧
      after = leave middle context bound := by
  obtain ⟨previous, inner, current, rfl, endedInner⟩ :=
    Dispatch.exchanges_of_ends_withContext ended
  -- The context is asked for and replaced at both ends.
  obtain ⟨_, asked, entering⟩ := through_cons.mp through
  obtain ⟨rfl, rfl⟩ := answers_context.mp asked
  obtain ⟨_, entered, inside⟩ := through_cons.mp entering
  obtain rfl := answers_setContext.mp entered
  obtain ⟨middle, within, leaving⟩ := inside.split
  obtain ⟨_, askedAgain, closing⟩ := through_cons.mp leaving
  obtain ⟨rfl, rfl⟩ := answers_context.mp askedAgain
  obtain ⟨_, left, closed⟩ := through_cons.mp closing
  obtain rfl := answers_setContext.mp left
  exact ⟨inner, _, rfl, endedInner, within, through_nil.mp closed⟩

/-- A program that spares the context, within a context of its own, restores the one before it. -/
theorem Through.restored {α : Type} {bound : Context} {program : Program α}
    {exchanges : List Exchange} {outcome : Except Failure α}
    (through : context.Through exchanges after) (distinct : context.Distinct)
    (spares : program.Makes Request.SparesContext)
    (ended : (Program.withContext bound program).Ends exchanges outcome) (name : String) :
    after.lookup name = context.lookup name := by
  obtain ⟨inner, middle, _, endedInner, within, rfl⟩ := through.withContext ended
  have kept := within.eq_of_spares fun exchange made => spares.of_mem endedInner made
  rw [kept]
  exact lookup_leave_bind distinct bound name

/-- The exchanges of a run in surroundings that hold the context. -/
theorem through_run {α σ : Type} {answer : (request : Request) → σ → request.Answer × σ}
    (held : σ → Context)
    (answers : ∀ request state,
      (held state).Answers ⟨request, (answer request state).1⟩ (held (answer request state).2))
    (program : Program α) (state : σ) :
    (held state).Through (program.exchanges answer state) (held (program.run answer state).2) := by
  induction program generalizing state with
  | done value => exact .nil _
  | fail failure => exact .nil _
  | ask request next ih => exact .cons (answers request state) (ih _ _)

end Context

namespace Dispatch

theorem sparesContext_sendSteps (site : Site) (providers : List Provider) (config : Config)
    (message : Message) :
    (sendSteps site (.ofProviders providers) config message).Makes Request.SparesContext :=
  makes_sendSteps (fun _ routine => routine.sparesContext) (fun _ reading => reading.sparesContext)
    (fun _ noting => noting.sparesContext)
    (fun payload => (Registry.makes_send providers payload config).mono fun _ carrying =>
      carrying.1.sparesContext)
    fun _ => trivial

/-- However a dispatch ends, the variables of the context have the values from before it. -/
theorem context_restored {site : Site} {providers : List Provider} {config : Config}
    {message : Message} {exchanges : List Exchange} {outcome : Except Failure SendResult}
    (ended : (send site (.ofProviders providers) config message).Ends exchanges outcome)
    {before after : Context} (distinct : before.Distinct)
    (through : before.Through exchanges after) (name : String) :
    after.lookup name = before.lookup name :=
  through.restored distinct (sparesContext_sendSteps site providers config message) ended name

end Dispatch
end AlertRelay
