import AlertRelay.Delivery.Record
import AlertRelay.Outcome.Basic

/-!
# Send results

The result of one attempt to send a message.  A temporary failure is tried again later, a
permanent one never.
-/

namespace AlertRelay

structure SendResult where
  messageId : String
  state : SendState
  externalId : Option String
  details : String
deriving DecidableEq

namespace SendResult

def isOk (result : SendResult) : Bool := result.state.isOk

/-- A message that the provider accepted; an empty provider id counts as absent. -/
def sent (messageId : String) (externalId : Option String) : SendResult :=
  ⟨messageId, .sent, externalId.filter (· != ""), ""⟩

def failedTemporarily (messageId details : String) : SendResult :=
  ⟨messageId, .failedTemporarily, none, details⟩

def failedPermanently (messageId details : String) : SendResult :=
  ⟨messageId, .failedPermanently, none, details⟩

/-- A message that the provider accepted, with the provider id as it came; it must be a text
unless it counts as absent. -/
def sentWith (messageId : String) (externalId : Json) (details : String) : Checked SendResult :=
  if externalId.isTruthy then
    (((Scalar.text externalId).within "external_id").map fun id =>
      ⟨messageId, .sent, some id, details⟩)
  else .valid ⟨messageId, .sent, none, details⟩

/-- The result of a message whose provider call had an outcome: only a transient error is worth
another attempt. -/
def ofOutcome (messageId : String) (outcome : Outcome) : Checked SendResult :=
  match outcome.status with
  | .success => sentWith messageId ((outcome.data.member? "external_id").getD .null) ""
  | .transientError => .valid (failedTemporarily messageId outcome.message)
  | _ => .valid (failedPermanently messageId outcome.message)

def toJson (result : SendResult) : Json :=
  .object
    [("message_id", .text result.messageId),
      ("state", .text result.state.name),
      ("external_id", Json.ofText? result.externalId),
      ("details", .text result.details)]

def read (data : Json) : Checked SendResult :=
  (Scalar.record "SendResult" data).andThen fun members =>
    SendResult.mk
      <$> members.required "message_id" Scalar.text
      <*> members.required "state" SendState.read
      <*> members.optional "external_id" Scalar.text
      <*> members.withDefault "details" "" Scalar.text

end SendResult
end AlertRelay
