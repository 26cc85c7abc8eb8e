import AlertRelay.Channel.Calls
import AlertRelay.Identifier
import AlertRelay.Log.Context
import AlertRelay.Log.Event
import AlertRelay.Payload
import AlertRelay.SendResult
import AlertRelay.Table.Call

/-!
# Requests to the surroundings

Everything that a dispatch asks of its surroundings: records of collaborators, tables, providers,
the clock, the log and the message context.  The type of a request determines the type of its
answer, and an answer that may be a failure says so.
-/

namespace AlertRelay

/-- A request to the surroundings. -/
inductive Request where
  /-- The parts of the record of a service, as they were found; they should be its name and its
  count of open alerts. -/
  | serviceInfo (id : Option String)
  | alert (id : Int)
  /-- The metadata of an alert, as it was found. -/
  | alertMetadata (id : Int)
  | logEntry (id : Int)
  /-- The contact methods of a user, in a stable order. -/
  | contactMethods (userId : String)
  | schedule (id : Option String)
  | onCallUsers (scheduleId : Option String)
  /-- A verification code, as it was found. -/
  | verificationCode (id : Option String)
  /-- The stored parameters of a signal message, as they were found. -/
  | signalParameters (id : Identifier)
  /-- Append to the log of an alert that a notification was sent. -/
  | appendAlertSent (alertId : Int) (messageId : String)
  /-- Append to the logs of a service's alerts that a notification was sent. -/
  | appendServiceSent (serviceId : Option String) (messageId : String)
  | service (call : ServiceCall)
  /-- Place a telephone call or send a short message; the answer is the id of what was created, as
  the provider gave it. -/
  | telephone (call : TelephonyCall)
  | post (request : HttpPost)
  /-- Close the connection that was opened for a single request. -/
  | closeConnection
  | push (request : PushRequest)
  /-- Hand a payload to a channel outside of this library. -/
  | deliver (channel : String) (payload : Payload)
  /-- Whether the sender has asked to stop. -/
  | cancelled
  /-- Wait for a number of seconds, which must be one that a clock can wait for. -/
  | sleep (seconds : Double)
  /-- The time of the clock. -/
  | now
  | log (event : LogEvent)
  | context
  | setContext (context : Context)

namespace Request

/-- The type of the answer to a request. -/
@[reducible]
def Answer : Request → Type
  | serviceInfo _ => Except Failure (List Json)
  | alert _ => Except Failure Alert
  | alertMetadata _ => Except Failure Json
  | logEntry _ => Except Failure LogEntry
  | contactMethods _ => Except Failure (List ContactMethod)
  | schedule _ => Except Failure Named
  | onCallUsers _ => Except Failure (List Named)
  | verificationCode _ => Except Failure Json
  | signalParameters _ => Except Failure Json
  | appendAlertSent .. => Except Failure Unit
  | appendServiceSent .. => Except Failure Unit
  | service _ => Except Failure Json
  | telephone _ => Except Failure Json
  | post _ => Except Failure HttpResponse
  | closeConnection => Unit
  | push _ => Except Failure Unit
  | deliver .. => Except Failure SendResult
  | cancelled => Bool
  | sleep _ => Unit
  | now => Except Failure Moment
  | log _ => Unit
  | context => Context
  | setContext _ => Unit

end Request
end AlertRelay
