import AlertRelay.Failure.Raised
import AlertRelay.Number.Digits
import AlertRelay.Outcome.Basic

/-!
# Classification of failures

Every channel classifies failures by the same rules, so that it does not depend on the channel
whether a message is tried again.
-/

namespace AlertRelay
namespace Outcome

/-- The pause after throttling, when none is given, in seconds. -/
def defaultPause : Int := 60

/-- The pause that an answer asks for, in seconds. -/
def pause (retryAfter : Option String) : Int :=
  ((retryAfter.bind fun value => readInt? 10 value.toList)).getD defaultPause

/-- The outcome that an HTTP status stands for. -/
def ofHttpStatus (status : Int) (detail : String) (retryAfter : Option String) : Outcome :=
  let suffix := if detail = "" then "" else s!": {detail}"
  if 200 ≤ status ∧ status < 300 then success .null s!"HTTP {status}"
  else if status = 429 then
    ⟨.transientError, s!"rate limited (HTTP 429){suffix}", .null, some "RATE_LIMITED",
      some (pause retryAfter)⟩
  else if status = 408 then
    transientError s!"request timeout (HTTP 408){suffix}" (some "TIMEOUT")
  else if status = 401 ∨ status = 403 then
    permanentError s!"authorization rejected (HTTP {status}){suffix}" (some "UNAUTHORIZED")
  else if status = 404 ∨ status = 410 then
    permanentError s!"destination gone (HTTP {status}){suffix}" (some "GONE")
  else if 500 ≤ status ∧ status < 600 then
    transientError s!"server error (HTTP {status}){suffix}" (some "SERVER_ERROR")
  else permanentError s!"request rejected (HTTP {status}){suffix}" (some s!"HTTP_{status}")

/-- The start of the text of an answer, without the blanks around the text. -/
def excerpt (response : HttpResponse) : String :=
  Surrogate.ofPoints ((Surrogate.points (trim response.text)).take 200)

/-- The outcome that an answer with an error status stands for. -/
def ofHttpResponse (response : HttpResponse) : Outcome :=
  ofHttpStatus response.status (excerpt response) (response.header? "Retry-After")

/-- The outcome of a failed HTTP exchange, which is transient unless an answer says otherwise. -/
def ofHttpFailure (failure : Failure) : Outcome :=
  let unclassified :=
    transientError s!"transport error: {failure.name}: {failure.text}" (some "TRANSPORT_ERROR")
  match failure with
  | .transport exchange =>
      if exchange.isTimeout then
        transientError s!"request timed out: {exchange.text}" (some "TIMEOUT")
      else if exchange.isConnectionError then
        transientError s!"connection error: {exchange.text}" (some "CONNECTION_ERROR")
      else
        match exchange.rejection? with
        | some response => ofHttpResponse response
        | none => unclassified
  | _ => unclassified

/-- The codes by which the table service asks for a slower pace. -/
def throttlingCodes : List String :=
  ["ThrottlingException", "ProvisionedThroughputExceededException", "RequestLimitExceeded"]

/-- The outcomes of the error codes that are not worth another attempt. -/
def serviceErrors : List (String × OutcomeStatus × String × String) :=
  [("ConditionalCheckFailedException", .permanentError, conflictCode,
      "conditional write rejected: item already exists"),
    ("AccessDeniedException", .permanentError, "FORBIDDEN", "access denied"),
    ("ResourceNotFoundException", .notFound, "NOT_FOUND", "table or resource not found"),
    ("ValidationException", .permanentError, "INVALID_REQUEST", "request failed validation"),
    ("InvalidParameterException", .permanentError, "INVALID_REQUEST",
      "invalid request parameter")]

/-- The outcome of an error code of the table service. -/
def ofServiceCode (code : Json) : Except Failure Outcome :=
  let unclassified :=
    transientError s!"AWS client error: {code.display}" (some "AWS_CLIENT_ERROR")
  match code with
  | .text name =>
      if throttlingCodes.contains name then
        .ok ⟨.transientError, s!"AWS throttled: {name}", .null, some "RATE_LIMITED",
          some defaultPause⟩
      else
        match serviceErrors.lookup name with
        | some (status, errorCode, message) =>
            .ok ⟨status, s!"AWS {message}", .null, some errorCode, none⟩
        | none => .ok unclassified
  | .list _ => .error (Failure.unhashable code)
  | .object _ => .error (Failure.unhashable code)
  | _ => .ok unclassified

/-- The outcome of a failed request to the table service; one that never reached the service may
succeed later. -/
def ofServiceFailure (failure : Failure) : Except Failure Outcome :=
  match failure with
  | .service refusal => ofServiceCode refusal.code
  | _ =>
      .ok (transientError s!"AWS connection error: {failure.name}: {failure.text}"
        (some "CONNECTION_ERROR"))

end Outcome
end AlertRelay
