import AlertRelay.Json.Reader
import AlertRelay.Json.Writer
import AlertRelay.Schema.Checked

/-!
# Failures

Everything that can go wrong outside of the library or inside of it, by cause.  Each failure has a
name and a text for reports.
-/

namespace AlertRelay

/-- The answer to an HTTP request. -/
structure HttpResponse where
  status : Int
  text : String
  headers : List (String × String)

/-- The value of a header; the case of header names does not matter, and the last one counts. -/
def HttpResponse.header? (response : HttpResponse) (name : String) : Option String :=
  (response.headers.reverse.find? fun entry => entry.1.toLower == name.toLower).map Prod.snd

/-- An HTTP exchange that failed, in some cases after the answer had arrived. -/
structure TransportFailure where
  name : String
  text : String
  response : Option HttpResponse

namespace TransportFailure

def isTimeout (failure : TransportFailure) : Bool :=
  ["Timeout", "ConnectTimeout", "ReadTimeout"].contains failure.name

def isConnectionError (failure : TransportFailure) : Bool :=
  ["ConnectionError", "ProxyError", "SSLError", "ConnectTimeout"].contains failure.name

/-- The answer that the failure consists in. -/
def rejection? (failure : TransportFailure) : Option HttpResponse :=
  if failure.name = "HTTPError" then failure.response else none

end TransportFailure

/-- A call that the telephony provider refused. -/
structure TelephonyFailure where
  status : Option Int
  code : Option Int
  message : String

/-- A request that the table service refused, with its answer. -/
structure ServiceFailure where
  response : Json
  operation : String

namespace ServiceFailure

/-- A part of the error in the answer, `Unknown` when it is absent. -/
def errorPart (failure : ServiceFailure) (name : String) : Json :=
  (((failure.response.member? "Error").bind (·.member? name))).getD (.text "Unknown")

def code (failure : ServiceFailure) : Json := failure.errorPart "Code"

/-- A note on the retries that the client has already made. -/
def retryNote (failure : ServiceFailure) : String :=
  match failure.response.member? "ResponseMetadata" with
  | some metadata =>
      match metadata.member? "RetryAttempts" with
      | some attempts =>
          if (metadata.member? "MaxAttemptsReached").any Json.isTruthy then
            s!" (reached max retries: {attempts.display})"
          else ""
      | none => ""
  | none => ""

def text (failure : ServiceFailure) : String :=
  let message := (failure.errorPart "Message").display
  s!"An error occurred ({failure.code.display}) when calling the {failure.operation} " ++
    s!"operation{failure.retryNote}: {message}"

end ServiceFailure

/-- What is wrong with the shape of stored data; `kind` names the kind of value that was found in
place of the expected one. -/
inductive ShapeFault where
  | noMembers (kind : String)
  | memberMissing (name : String)
  | textIndexed
  | listIndexed
  | notIndexed (kind : String)
  | objectSliced
  | noItems (kind : String)
  | noJsonText (kind : String)
  | noMomentText

namespace ShapeFault

/-- The name of the kind of fault. -/
def name : ShapeFault → String
  | noMembers _ => "AttributeError"
  | memberMissing _ => "KeyError"
  | _ => "TypeError"

/-- What is wrong, in words. -/
def text : ShapeFault → String
  | noMembers kind => s!"'{kind}' object has no attribute 'get'"
  | memberMissing name => quoted name
  | textIndexed => "string indices must be integers, not 'str'"
  | listIndexed => "list indices must be integers or slices, not str"
  | notIndexed kind => s!"'{kind}' object is not subscriptable"
  | objectSliced => "unhashable type: 'slice'"
  | noItems kind => s!"'{kind}' object is not iterable"
  | noJsonText kind => s!"the JSON object must be str, bytes or bytearray, not {kind}"
  | noMomentText => "fromisoformat: argument must be str"

end ShapeFault

/-- What is wrong with the arguments of a call; the callable is given by name. -/
inductive ArgumentFault where
  | missing (callable : String) (names : List String)
  /-- Too many arguments by place; the callable takes `least` to `most` of them. -/
  | tooMany (callable : String) (least most given : Nat)
  | repeated (callable name : String)
  | repeatedOption (callable name : String)
  | unexpected (callable name : String)

namespace ArgumentFault

/-- Names in quotes, with the word `and` before the last one. -/
def conjunction (names : List String) : String :=
  match names.map quoted with
  | [first, second] => first ++ " and " ++ second
  | shown =>
      match shown.dropLast, shown.getLast? with
      | [], _ => String.join shown
      | others, last => String.intercalate ", " others ++ ", and " ++ last.getD ""

/-- What is wrong, in words. -/
def text : ArgumentFault → String
  | missing callable names =>
      let ending := if names.length = 1 then "" else "s"
      s!"{callable}() missing {names.length} required positional argument{ending}: " ++
        conjunction names
  | tooMany callable least most given =>
      let range := if least = most then s!"{most}" else s!"from {least} to {most}"
      s!"{callable}() takes {range} positional arguments but {given} were given"
  | repeated callable name =>
      s!"{callable}() got multiple values for argument {quoted name}"
  | repeatedOption callable name =>
      s!"{callable}() got multiple values for keyword argument {quoted name}"
  | unexpected callable name =>
      s!"{callable}() got an unexpected keyword argument {quoted name}"

end ArgumentFault

/-- A failure, by cause.  The details of the failures of the dispatch and the provider layer are
data as it was found; texts show them in words. -/
inductive Failure where
  /-- An HTTP exchange failed. -/
  | transport (failure : TransportFailure)
  /-- The telephony provider refused a call or a message. -/
  | telephony (failure : TelephonyFailure)
  /-- The table service refused a request. -/
  | service (failure : ServiceFailure)
  /-- A request did not reach the table service. -/
  | serviceTransport (name text : String)
  /-- A push service refused a push message. -/
  | push (text : String) (status : Option Int)
  /-- The SMS gateway answered with an error status. -/
  | gateway (status : Int) (body : String)
  /-- A failure of the provider layer without further details. -/
  | provider (text : String)
  /-- A provider lacks configuration. -/
  | configuration (provider message : Json)
  /-- A provider has no form for a kind of payload. -/
  | unsupportedPayload (provider variant : Json)
  /-- No provider is registered for a destination type. -/
  | unknownDestination (kind : Json)
  /-- A destination argument is not valid. -/
  | invalidField (field reason value : Json)
  /-- A step of the dispatch failed. -/
  | dispatch (operation message : Json)
  /-- A record could not be looked up. -/
  | lookup (operation cause : Json)
  /-- A status update has no first delivery to refer to. -/
  | firstDeliveryMissing (alertId destination : Json)
  /-- The delivery table could not be read. -/
  | tracking (operation message : Json)
  /-- Data does not fit its model. -/
  | invalid (model : String) (first : Issue) (more : List Issue)
  /-- An environment variable cannot be decoded. -/
  | settings (field : String)
  /-- Two channels have one destination type. -/
  | duplicateChannel (kind : String)
  /-- The table service could not read from a table. -/
  | unread (operation message : String)
  /-- There are no parameters for a signal message. -/
  | signalMissing (messageId : String)
  /-- The parameters of a signal message are not JSON. -/
  | signalMalformed (messageId : String)
  /-- A value is none of the names of a set. -/
  | unknownName (value set : String)
  /-- A text is not in the form that it should have. -/
  | malformed (reason : String)
  /-- A text is not JSON. -/
  | malformedJson (fault : JsonFault) (text : String)
  /-- Stored data does not have the shape that it should have. -/
  | shape (fault : ShapeFault)
  /-- A call has the wrong arguments. -/
  | wrongArguments (fault : ArgumentFault)
  /-- A value is of a kind that an operation does not take. -/
  | wrongKind (reason : String)
  /-- A moment is out of the range of the calendar. -/
  | momentOutOfRange
  /-- Any other failure, of a collaborator. -/
  | foreign (name text : String)

namespace Failure

/-- The operation that needs a first delivery. -/
def firstDeliveryOperation : String := "lookup original notification"

/-- An operation with what went wrong in it. -/
def operationText (operation message : Json) : String :=
  if message.isTruthy then s!"{operation.display}: {message.display}" else operation.display

/-- The name of the kind of failure. -/
def name : Failure → String
  | transport failure => failure.name
  | telephony _ => "TwilioRestException"
  | service _ => "ClientError"
  | serviceTransport name _ => name
  | push .. => "WebPushException"
  | gateway .. => "GupshupError"
  | provider _ => "NotificationError"
  | configuration .. => "ProviderConfigurationError"
  | unsupportedPayload .. => "UnsupportedMessageError"
  | unknownDestination _ => "UnknownDestinationTypeError"
  | invalidField .. => "FieldValidationError"
  | dispatch .. => "DispatchError"
  | lookup .. => "LookupFailedError"
  | firstDeliveryMissing .. => "OriginalNotificationNotFoundError"
  | tracking .. => "TrackingError"
  | invalid .. => "ValidationError"
  | settings _ => "SettingsError"
  | duplicateChannel _ => "ValueError"
  | unread .. => "RuntimeError"
  | signalMissing _ => "LookupError"
  | signalMalformed _ => "ValueError"
  | unknownName .. => "ValueError"
  | malformed _ => "ValueError"
  | malformedJson fault _ =>
      match fault with
      | .malformed .. => "JSONDecodeError"
      | .tooManyDigits _ => "ValueError"
      | .tooDeep _ => "RecursionError"
  | shape fault => fault.name
  | wrongArguments _ => "TypeError"
  | wrongKind _ => "TypeError"
  | momentOutOfRange => "OverflowError"
  | foreign name _ => name

/-- What went wrong, in words. -/
def text : Failure → String
  | transport failure => failure.text
  | telephony failure =>
      let status := (failure.status.map toString).getD "None"
      s!"HTTP {status} error: {failure.message}"
  | service failure => failure.text
  | serviceTransport _ text => text
  | push text status =>
      s!"WebPushException: {text}" ++ (if status.isSome then ", Response " else "")
  | gateway status body => s!"gupshup request failed (HTTP {status}): {body}"
  | provider text => text
  | configuration source message => s!"{source.display}: {message.display}"
  | unsupportedPayload source variant =>
      s!"{source.display}: unsupported message type {variant.display}"
  | unknownDestination kind => s!"no provider registered for destination type {kind.display}"
  | invalidField field reason _ => s!"invalid {field.display}: {reason.display}"
  | dispatch operation message => operationText operation message
  | lookup operation cause => operationText operation cause
  | firstDeliveryMissing alertId destination =>
      operationText firstDeliveryOperation <| .text <|
        s!"could not find original notification for alert {alertId.display} to " ++
          destination.display
  | tracking operation message => operationText operation message
  | invalid model first more =>
      let count := more.length + 1
      let ending := if count = 1 then "" else "s"
      s!"{count} validation error{ending} for {model}" ++
        String.join ((first :: more).map Issue.text)
  | settings field =>
      s!"error parsing value for field \"{field}\" from source \"EnvSettingsSource\""
  | duplicateChannel kind => s!"duplicate provider for destination type {kind}"
  | unread operation message => s!"{operation}: {message}"
  | signalMissing messageId => s!"no signal params for message {messageId}"
  | signalMalformed messageId => s!"malformed signal params for message {messageId}"
  | unknownName value set => s!"{value} is not a valid {set}"
  | malformed reason => reason
  | malformedJson fault text => fault.message text
  | shape fault => fault.text
  | wrongArguments fault => fault.text
  | wrongKind reason => reason
  | momentOutOfRange => "date value out of range"
  | foreign _ text => text

/-- The operation during which the dispatch failed. -/
def operation? : Failure → Option Json
  | dispatch operation _ => some operation
  | lookup operation _ => some operation
  | firstDeliveryMissing .. => some (.text firstDeliveryOperation)
  | tracking operation _ => some operation
  | _ => none

/-- Whether the failure belongs to the dispatch. -/
def isDispatch (failure : Failure) : Bool := failure.operation?.isSome

/-- Whether the failure belongs to the provider layer. -/
def isProvider : Failure → Bool
  | provider _ => true
  | configuration .. => true
  | unsupportedPayload .. => true
  | unknownDestination _ => true
  | invalidField .. => true
  | _ => false

/-- The details that a failure carries besides its text. -/
def attributes : Failure → List (String × Json)
  | gateway status body => [("status_code", .integer status), ("body", .text body)]
  | configuration source _ => [("provider", source)]
  | unsupportedPayload source variant => [("provider", source), ("message_type", variant)]
  | unknownDestination kind => [("dest_type", kind)]
  | invalidField field reason value =>
      [("field_id", field), ("reason", reason), ("value", value)]
  | firstDeliveryMissing alertId destination =>
      [("operation", .text firstDeliveryOperation), ("alert_id", alertId), ("dest", destination)]
  | failure => (failure.operation?.map fun operation => ("operation", operation)).toList

end Failure

namespace Checked

/-- The value, or the failure of data that does not fit a model. -/
def orFail {α : Type} (model : String) : Checked α → Except Failure α
  | .valid value => .ok value
  | .invalid first more => .error (.invalid model first more)

end Checked
end AlertRelay
