import AlertRelay.Log.Masking

/-!
# The logging pipeline

What happens to an event between the place that logs it and the log.  Production writes one line
of JSON for each event; elsewhere a renderer for the console takes the record.
-/

namespace AlertRelay

/-- What writes the records. -/
inductive LogRenderer where
  | json
  | console
deriving DecidableEq

namespace LogRenderer

def name : LogRenderer → String
  | json => "JSONRenderer"
  | console => "ConsoleRenderer"

/-- The renderer of a deployment. -/
def choose (isProduction : Bool) : LogRenderer := if isProduction then json else console

end LogRenderer

namespace LogRecord

/-- The level that a logging method stands for. -/
def levelOfMethod (method : String) : String :=
  if method = "warn" then "warning" else if method = "exception" then "error" else method

/-- Members that ask for a trace of the running code, which does not go into the log. -/
def traceRequests : List String := ["stack_info", "exc_info"]

/-- All steps before the renderer. -/
def process (method revision deployment : String) (record : LogRecord) : LogRecord :=
  let leveled : LogRecord := setEntry record "level" (.text (levelOfMethod method))
  (leveled.stampDeployment revision deployment).shown.filter fun member =>
    !traceRequests.contains member.1

end LogRecord
end AlertRelay
