import AlertRelay.Json.Value

/-!
# The message context

While a message is being sent, the context holds its id, its type and its destination for all log
events.  Leaving a message restores what was bound before.
-/

namespace AlertRelay

/-- Variables bound for log events. -/
abbrev Context := List (String × Json)

namespace Context

/-- The variable that holds the message id. -/
def callbackVariable : String := "callback_id"

/-- Bind variables, each in place of an earlier value. -/
def bind (context : Context) (bound : Context) : Context :=
  bound.foldl (fun context entry => setEntry context entry.1 entry.2) context

/-- Remove variables. -/
def unbind (context : Context) (names : List String) : Context :=
  context.filter fun entry => !names.contains entry.1

/-- The context after leaving a block that bound some variables over a previous context. -/
def leave (context previous bound : Context) : Context :=
  let names := bound.map Prod.fst
  (context.unbind names).bind (previous.filter fun entry => names.contains entry.1)

/-- The variables of a message; absent ones are not bound. -/
def ofMessage (messageId : Json) (messageType destinationType userId : Json) (extra : Context) :
    Context :=
  let present := [("message_type", messageType), ("dest_type", destinationType),
    ("user_id", userId)].filter fun entry =>
      match entry.2 with
      | .null => false
      | _ => true
  bind ((callbackVariable, messageId) :: present) extra

/-- The id of the innermost message. -/
def callbackId (context : Context) : Json := (context.lookup callbackVariable).getD .null

end Context
end AlertRelay
