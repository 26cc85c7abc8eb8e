import AlertRelay.Channel.Telephony
import AlertRelay.Json.Equality

/-!
# The priority policy

Telephone calls are reserved for alerts whose metadata holds the priority label.  A message about
such an alert is promoted to the first telephone contact of its user, and no other alert rings a
telephone.  The policy is off unless the label has a key and a value.
-/

namespace AlertRelay
namespace Priority

def component : String := "priority"

/-- A message after the policy, and whether it must not be sent. -/
structure Decision where
  message : Message
  isSuppressed : Bool

/-- Whether the destination is a telephone. -/
def isVoice (destination : Destination) : Bool := destination.kind == Voice.type

/-- The message redirected to a contact method. -/
def redirect (message : Message) (method : ContactMethod) : Program Message :=
  let data := Json.object [("cm_id", .text method.id)]
  (Program.ofChecked "DestinationID" (DestinationId.read data)).bind fun id =>
    .done { message with destination := method.destination, destinationId := id }

/-- Promote a message of a user to the user's first telephone contact; without one, and when the
contacts cannot be looked up, the message stays as it is. -/
def promote (message : Message) (userId : String) : Program Message :=
  .ask (.contactMethods userId) fun
    | .error failure => do
        Program.log .warning component "priority_contact_lookup_failed"
          [("user_id", .text userId), ("error", .text failure.text)]
        pure message
    | .ok methods =>
        match methods.find? fun method => isVoice method.destination with
        | some method => do
            Program.log .info component "priority_promoted_to_voice"
              [("user_id", .text userId), ("from_dest_type", .text message.destination.kind),
                ("contact_method_id", .text method.id)]
            redirect message method
        | none => do
            Program.log .info component "priority_no_voice_contact_method"
              [("user_id", .text userId)]
            pure message

/-- What the policy decides about a message about an alert with the priority label. -/
def prefer (message : Message) : Program Decision :=
  let userId := message.userId.getD ""
  if isVoice message.destination || userId = "" then .done ⟨message, false⟩
  else (promote message userId).bind fun promoted => .done ⟨promoted, false⟩

/-- Apply the policy to a message about an alert with the given metadata, which has to have
members. -/
def apply (key value : String) (metadata : Json) (message : Message) : Program Decision :=
  if key = "" ∨ value = "" then .done ⟨message, false⟩
  else
    match metadata with
    | .object members =>
        if ((members.lookup key).getD .null).same (.text value) then prefer message
        else .done ⟨message, isVoice message.destination⟩
    | other => .fail (.shape (.noMembers other.typeName))

end Priority
end AlertRelay
