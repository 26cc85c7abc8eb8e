import AlertRelay.Json.Value

/-!
# Outcomes

The outcome of one call to a storage service or a provider.  Whether a failure is transient
decides whether a message is tried again.
-/

namespace AlertRelay

/-- The status of an outcome. -/
inductive OutcomeStatus where
  | success
  | transientError
  | permanentError
  | unauthorized
  | notFound
deriving DecidableEq

namespace OutcomeStatus

def name : OutcomeStatus → String
  | success => "success"
  | transientError => "transient_error"
  | permanentError => "permanent_error"
  | unauthorized => "unauthorized"
  | notFound => "not_found"

def all : List OutcomeStatus := [success, transientError, permanentError, unauthorized, notFound]

def ofName? (text : String) : Option OutcomeStatus := all.find? (·.name == text)

end OutcomeStatus

/-- The outcome of a call; `retryAfter` is in seconds. -/
structure Outcome where
  status : OutcomeStatus
  message : String
  data : Json
  errorCode : Option String
  retryAfter : Option Int

namespace Outcome

/-- The error code of a conditional write that lost against an existing item. -/
def conflictCode : String := "CONFLICT"

def isSuccess (outcome : Outcome) : Bool := outcome.status == .success

/-- Whether the failure may succeed when it is tried again. -/
def isTransient (outcome : Outcome) : Bool := outcome.status == .transientError

def isConflict (outcome : Outcome) : Bool := outcome.errorCode == some conflictCode

def success (data : Json) (message : String) : Outcome := ⟨.success, message, data, none, none⟩

def transientError (message : String) (errorCode : Option String) : Outcome :=
  ⟨.transientError, message, .null, errorCode, none⟩

def permanentError (message : String) (errorCode : Option String) : Outcome :=
  ⟨.permanentError, message, .null, errorCode, none⟩

def toJson (outcome : Outcome) : Json :=
  .object
    [("status", .text outcome.status.name),
      ("message", .text outcome.message),
      ("data", outcome.data),
      ("error_code", Json.ofText? outcome.errorCode),
      ("retry_after", (outcome.retryAfter.map Json.integer).getD .null),
      ("is_success", .bool outcome.isSuccess),
      ("is_transient", .bool outcome.isTransient),
      ("is_conflict", .bool outcome.isConflict)]

end Outcome
end AlertRelay
