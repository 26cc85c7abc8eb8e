import AlertRelay.Program.Request

/-!
# Programs of requests

A program ends with a value or a failure, or makes a request and goes on with the answer.  What a
program does is thereby data: it can be run against any surroundings, and every statement about
all surroundings is a statement about the tree.
-/

namespace AlertRelay

/-- A program that makes requests and ends with a value or a failure. -/
inductive Program (α : Type) where
  | done (value : α)
  | fail (failure : Failure)
  | ask (request : Request) (next : request.Answer → Program α)

namespace Program

variable {α β σ : Type}

/-- Go on with the value of a program. -/
def bind (program : Program α) (next : α → Program β) : Program β :=
  match program with
  | .done value => next value
  | .fail failure => .fail failure
  | .ask request continuation => .ask request fun answer => (continuation answer).bind next

instance : Monad Program where
  pure := .done
  bind := bind

/-- The program that ends with the value or the failure of another one as a value. -/
def attempt : Program α → Program (Except Failure α)
  | .done value => .done (.ok value)
  | .fail failure => .done (.error failure)
  | .ask request continuation => .ask request fun answer => (continuation answer).attempt

/-- End with a result. -/
def ofExcept : Except Failure α → Program α
  | .ok value => .done value
  | .error failure => .fail failure

/-- End with checked data of a model. -/
def ofChecked (model : String) (data : Checked α) : Program α := ofExcept (data.orFail model)

/-- Make a request and go on with its answer. -/
def request (request : Request) : Program request.Answer := .ask request .done

/-- Handle the failures of a program. -/
def rescue (program : Program α) (handle : Failure → Program α) : Program α :=
  program.attempt.bind fun
    | .ok value => .done value
    | .error failure => handle failure

/-- Run a program against surroundings with a state. -/
def run (answer : (request : Request) → σ → request.Answer × σ) :
    Program α → σ → Except Failure α × σ
  | .done value, state => (.ok value, state)
  | .fail failure, state => (.error failure, state)
  | .ask request continuation, state =>
      let (given, state) := answer request state
      (continuation given).run answer state

/-- Log an event of a component. -/
def log (level : LogLevel) (component name : String) (details : List (String × Json)) :
    Program Unit :=
  .ask (.log ⟨level, component, name, details⟩) .done

/-- Run a program with variables bound in the message context, and restore the context after it,
also when the program fails. -/
def withContext (bound : Context) (program : Program α) : Program α := do
  let previous ← request .context
  request (.setContext (Context.bind previous bound))
  let result ← program.attempt
  let current ← request .context
  request (.setContext (Context.leave current previous bound))
  ofExcept result

end Program
end AlertRelay
