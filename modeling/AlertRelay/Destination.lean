import AlertRelay.Schema.Scalar

/-!
# Destinations

A destination is where a message goes; its identity is the contact method of a user or the
notification channel that owns it.
-/

namespace AlertRelay

/-- Texts by name as they are written: halves of surrogate pairs in names are replaced, so names may
become the same, of which the last one counts. -/
def writtenTexts (entries : List (String × String)) : List (String × String) :=
  setEntries [] (entries.map fun entry => (Surrogate.replaced entry.1, entry.2))

/-- Texts by name as a JSON object. -/
def textMapJson (entries : List (String × String)) : Json :=
  .object ((writtenTexts entries).map fun entry => (entry.1, .text entry.2))

/-- A channel type with named arguments, such as a phone number or an address. -/
structure Destination where
  kind : String
  arguments : List (String × String)
deriving DecidableEq

namespace Destination

/-- The value of an argument, empty when it is absent. -/
def argument (destination : Destination) (name : String) : String :=
  (destination.arguments.lookup name).getD ""

/-- The type with the arguments in parentheses, in the order in which they were given. -/
def text (destination : Destination) : String :=
  let arguments := destination.arguments.map fun entry => entry.1 ++ "=" ++ entry.2
  destination.kind ++ "(" ++ String.intercalate "," arguments ++ ")"

def toJson (destination : Destination) : Json :=
  .object [("type", .text destination.kind), ("args", textMapJson destination.arguments)]

def read (data : Json) : Checked Destination :=
  (Scalar.record "Destination" data).andThen fun members =>
    Destination.mk
      <$> members.required "type" Scalar.text
      <*> members.withDefault "args" [] Scalar.textMap

end Destination

/-- The owner of a destination; owners have non-empty names. -/
inductive DestinationId where
  | contactMethod (id : String) (nonempty : id ≠ "")
  | channel (id : String) (nonempty : id ≠ "")
deriving DecidableEq

namespace DestinationId

/-- The identity with exactly one of the two names; an empty name counts as absent. -/
def ofNames? (ofMethod ofChannel : Option String) : Option DestinationId :=
  let method := ofMethod.getD ""
  let channelName := ofChannel.getD ""
  if nonempty : method ≠ "" then
    if channelName = "" then some (.contactMethod method nonempty) else none
  else if nonempty : channelName ≠ "" then some (.channel channelName nonempty)
  else none

/-- The name of the contact method. -/
def contactMethodId? : DestinationId → Option String
  | contactMethod id _ => some id
  | channel _ _ => none

/-- The name of the channel. -/
def channelId? : DestinationId → Option String
  | contactMethod _ _ => none
  | channel id _ => some id

def isContactMethod (id : DestinationId) : Bool := id.contactMethodId?.isSome

/-- The name behind a mark for its kind. -/
def text : DestinationId → String
  | contactMethod id _ => "cm:" ++ id
  | channel id _ => "nc:" ++ id

def toJson (id : DestinationId) : Json :=
  .object
    [("cm_id", Json.ofText? id.contactMethodId?), ("channel_id", Json.ofText? id.channelId?)]

/-- The rule that an identity has exactly one name. -/
def oneNameRule : String :=
  "exactly one of cm_id or channel_id must be set on a destination id"

def read (data : Json) : Checked DestinationId :=
  (Scalar.record "DestinationID" data).andThen fun members =>
    (Prod.mk
      <$> members.optional "cm_id" Scalar.text
      <*> members.optional "channel_id" Scalar.text).andThen fun names =>
        Checked.ofReading data <|
          match ofNames? names.1 names.2 with
          | some id => .ok id
          | none => .error (.ruleBroken oneNameRule)

end DestinationId
end AlertRelay
