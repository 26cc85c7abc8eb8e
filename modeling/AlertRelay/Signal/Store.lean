import AlertRelay.Table.Attribute
import AlertRelay.Table.Client

/-!
# Parameters of signal messages

The parameters are stored as the text of a JSON object under the id of the message.
-/

namespace AlertRelay

/-- The signal parameters in a table. -/
structure SignalStore where
  tables : TableClient
  table : String

namespace SignalStore

def component : String := "stores"

/-- The text in an item, which has to be JSON. -/
def checkedText (messageId : String) (item : Json) : Program String := do
  match ← Program.ofExcept (Attribute.textOr item "params" (.text "")) with
  | .text raw =>
      match Json.parse raw with
      | .ok _ => pure raw
      | .error (.tooDeep container) => .fail (.malformedJson (.tooDeep container) raw)
      | .error _ => do
          Program.log .error component "signal_params_malformed" [("message_id", .text messageId)]
          .fail (.signalMalformed messageId)
  | other => .fail (.shape (.noJsonText other.typeName))

/-- The text of the parameters of a message. -/
def parameters (store : SignalStore) (messageId : String) : Program String := do
  let key := Json.object [("message_id", Attribute.ofText messageId)]
  let outcome ← store.tables.getItem store.table key []
  if outcome.isSuccess then
    match ← Program.ofExcept (Attribute.itemOf outcome.data) with
    | some item => checkedText messageId item
    | none => .fail (.signalMissing messageId)
  else .fail (.unread "get signal params" outcome.message)

end SignalStore

/-- Where signal parameters come from: from the table or from the surroundings. -/
inductive SignalSource where
  | stored (store : SignalStore)
  | supplied

/-- The parameters of a message, which should be a text. -/
def SignalSource.parameters (source : SignalSource) (id : Identifier) : Program Json :=
  match source with
  | .stored store => Json.text <$> store.parameters id.text
  | .supplied => (Program.request (.signalParameters id)).bind Program.ofExcept

end AlertRelay
