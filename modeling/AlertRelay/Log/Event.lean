import AlertRelay.Json.Value

/-!
# Log events

A log event has a name, a level and named details, and tells which component it comes from.
-/

namespace AlertRelay

inductive LogLevel where
  | debug
  | info
  | warning
  | error
deriving DecidableEq

def LogLevel.name : LogLevel → String
  | debug => "debug"
  | info => "info"
  | warning => "warning"
  | error => "error"

structure LogEvent where
  level : LogLevel
  component : String
  name : String
  details : List (String × Json)

/-- An event as it goes through the processing steps: an ordered record. -/
abbrev LogRecord := List (String × Json)

namespace LogRecord

/-- Set a member unless it is there. -/
def setDefault (record : LogRecord) (name : String) (value : Json) : LogRecord :=
  if (record.lookup name).isSome then record else record ++ [(name, value)]

/-- Set every member of a list unless it is there. -/
def setDefaults (record : LogRecord) (defaults : List (String × Json)) : LogRecord :=
  defaults.foldl (fun record entry => record.setDefault entry.1 entry.2) record

end LogRecord

/-- The event as a record, with the variables of the message context. -/
def LogEvent.record (event : LogEvent) (context : List (String × Json)) : LogRecord :=
  LogRecord.setDefaults
    (("event", Json.text event.name) :: ("level", Json.text event.level.name) ::
      ("component", Json.text event.component) :: event.details)
    context

end AlertRelay
