import AlertRelay.Configuration.Settings
import AlertRelay.Number.RealText
import AlertRelay.Outcome.Classify
import AlertRelay.Program.Basic

/-!
# The client of the table service

Calls that failed transiently are repeated after pauses that double each time.  A query goes
through all pages, so its answer does not depend on the size of a page.
-/

namespace AlertRelay

/-- Whether the failure belongs to a call of the table service, which reports it as an outcome. -/
def Failure.isServiceFailure : Failure → Bool
  | .service _ => true
  | .serviceTransport .. => true
  | _ => false

/-- How often a call is repeated after transient failures, and the pause before the first
repetition, both as they were given.  The pause must be one that a clock can wait for, also after it
was doubled: a number of seconds that is neither negative nor NaN and lies below 2 ^ 63 nanoseconds.
What a clock does with any other pause is left open. -/
structure Repetition where
  retries : Json
  backoff : Json

namespace Repetition

/-- The option that holds the count of repetitions. -/
def retriesOption : String := "max_retries"

/-- The option that holds the first pause. -/
def backoffOption : String := "backoff_factor"

/-- The repetition that options ask for: unless they say otherwise, twice and after half a
second. -/
def ofOptions (options : List (String × Json)) : Repetition where
  retries := (options.lookup retriesOption).getD (.integer 2)
  backoff := (options.lookup backoffOption).getD (.real (Double.ofQuotient false 1 2))

/-- The options that do not concern the repetition. -/
def otherOptions (options : List (String × Json)) : List (String × Json) :=
  options.filter fun option => option.1 != retriesOption && option.1 != backoffOption

/-- The failure that two kinds of values cannot be combined. -/
def mismatch (operator : String) (value : Json) : Failure :=
  .wrongKind s!"unsupported operand type(s) for {operator}: '{value.typeName}' and 'int'"

/-- The count of attempts: one more than the repetitions. -/
def attempts (repetition : Repetition) : Except Failure Nat :=
  let kind := repetition.retries.typeName
  match repetition.retries with
  | .integer count => .ok (count + 1).toNat
  | .bool value => .ok (if value then 2 else 1)
  | .real _ => .error (.wrongKind "'float' object cannot be interpreted as an integer")
  | .null => .error (mismatch "+" repetition.retries)
  | .object _ => .error (mismatch "+" repetition.retries)
  | _ => .error (.wrongKind s!"can only concatenate {kind} (not \"int\") to {kind}")

/-- The failure of a number that is too large for a real. -/
def tooLarge : Failure := .foreign "OverflowError" "int too large to convert to float"

/-- The least exponent of a power of two that is too large for a real. -/
def powerLimit : Nat := 1024

/-- The pause after a number of attempts before the last one; it doubles each time.  A real is
multiplied by the power of two as a real. -/
def pause (repetition : Repetition) (attempt : Nat) : Except Failure Json :=
  match repetition.backoff with
  | .integer seconds => .ok (.integer (seconds * Nat.pow 2 attempt))
  | .bool value => .ok (.integer (if value then Nat.pow 2 attempt else 0))
  | .real seconds =>
      if attempt < powerLimit then .ok (.real (seconds.doubled attempt)) else .error tooLarge
  | .text value => .ok (.text (String.join (List.replicate (Nat.pow 2 attempt) value)))
  | .list items => .ok (.list (List.replicate (Nat.pow 2 attempt) items).flatten)
  | _ => .error (mismatch "*" repetition.backoff)

/-- A pause in seconds, whether or not a clock can wait for it. -/
def seconds : Json → Except Failure Double
  | .integer value =>
      let number := Double.ofInt value
      if number.isFinite then .ok number else .error tooLarge
  | .real value => .ok value
  | .text value =>
      match Double.read? value.toList with
      | some number => .ok number
      | none => .error (.malformed s!"could not convert string to float: {quoted value}")
  | value =>
      .error (.wrongKind
        s!"float() argument must be a string or a real number, not '{value.typeName}'")

end Repetition

namespace ServiceCall

/-- The component that makes calls. -/
def component : String := "client"

/-- The outcome when not even one attempt is allowed. -/
def notAttempted (call : ServiceCall) : Outcome :=
  .transientError s!"{call.name} failed" (some "AWS_CLIENT_ERROR")

/-- Log a failure that is final. -/
def logFailure (call : ServiceCall) (outcome : Outcome) (failure : Failure) : Program Unit :=
  Program.log (if outcome.isConflict then .info else .error) component "aws_api_call_failed"
    [("service", .text call.service), ("method", .text call.method),
      ("error_code", Json.ofText? outcome.errorCode), ("error", .text failure.text)]

/-- Log a failure after which the call is repeated. -/
def logRetry (call : ServiceCall) (attempt : Nat) (failure : Failure) (pause : Json) :
    Program Unit :=
  Program.log .warning component "aws_api_retry"
    [("service", .text call.service), ("method", .text call.method),
      ("attempt", .integer (attempt + 1 : Nat)), ("error", .text failure.text),
      ("delay", pause)]

/-- Log a failure and wait before the call is repeated. -/
def waitAfter (call : ServiceCall) (repetition : Repetition) (attempt : Nat)
    (failure : Failure) : Program Unit := do
  let pause ← Program.ofExcept (repetition.pause attempt)
  call.logRetry attempt failure pause
  let seconds ← Program.ofExcept (Repetition.seconds pause)
  Program.request (.sleep seconds)

/-- Make the call up to `remaining` times; `attempt` counts the attempts already made. -/
def attempts (call : ServiceCall) (repetition : Repetition) (attempt : Nat) :
    (remaining : Nat) → Program Outcome
  | 0 => .done call.notAttempted
  | remaining + 1 =>
      .ask (.service call) fun
        | .ok response => .done (.success response s!"{call.name} succeeded")
        | .error failure =>
            if failure.isServiceFailure then
              match Outcome.ofServiceFailure failure with
              | .error fault => .fail fault
              | .ok outcome =>
                  if outcome.isTransient && remaining != 0 then
                    (call.waitAfter repetition attempt failure).bind fun _ =>
                      attempts call repetition (attempt + 1) remaining
                  else (call.logFailure outcome failure).bind fun _ => .done outcome
            else .fail failure

/-- Make the call, and repeat it after transient failures. -/
def execute (call : ServiceCall) (repetition : Repetition) : Program Outcome :=
  (Program.ofExcept repetition.attempts).bind fun count => call.attempts repetition 0 count

end ServiceCall

/-- Access to the tables, with a limit on the pages of one query. -/
structure TableClient where
  session : List (String × Json)
  client : List (String × Json)
  pageLimit : Nat

namespace TableClient

/-- The component that offers the tables. -/
def component : String := "dynamodb"

/-- Access to the tables of a deployment. -/
def ofSettings (cloud : CloudSettings) (pageLimit : Nat) : TableClient :=
  let region := ("region_name", Json.text cloud.region)
  let endpoint := (cloud.endpointUrl.filter (· != "")).map fun url =>
    ("endpoint_url", Json.text url)
  ⟨[region], region :: endpoint.toList, pageLimit⟩

/-- The call of an operation on a table. -/
def call (tables : TableClient) (operation : Operation) : ServiceCall :=
  ⟨"dynamodb", tables.session, tables.client, operation⟩

/-- The name of the function behind all operations, within its package. -/
def callable : String := "execute_aws_api_call"

/-- Check that options do not repeat what a call is given anyway. -/
def checkOptions (options : List (String × Json)) : Except ArgumentFault Unit :=
  let among (names : List String) : Option String :=
    (options.find? fun option => names.contains option.1).map Prod.fst
  match among ["TableName", "session_config", "client_config"],
    among ["service_name", "method"] with
  | some name, _ => .error (.repeatedOption ("integrations.aws.client." ++ callable) name)
  | none, some name => .error (.repeated callable name)
  | none, none => .ok ()

/-- Perform an operation. -/
def perform (tables : TableClient) (operation : Operation) : Program Outcome :=
  match checkOptions operation.options with
  | .error fault => .fail (.wrongArguments fault)
  | .ok () =>
      let sent := operation.withOptions (Repetition.otherOptions operation.options)
      (tables.call sent).execute (Repetition.ofOptions operation.options)

/-- Log that an operation on a table starts. -/
def logStart (operation : Operation) : Program Unit :=
  Program.log .debug component s!"dynamodb_{operation.method}_started"
    [("table", .text operation.table)]

/-- The items that a page holds; a page without items is empty. -/
def pageItems (page : Json) : Except Failure (List Json) :=
  let items := (page.member? "Items").getD (.list [])
  match items.elements? with
  | some elements => .ok elements
  | none => .error (.shape (.noItems items.typeName))

/-- The option that starts a page after a key. -/
def startOption : String := "ExclusiveStartKey"

/-- Where the next page starts, when there is one. -/
def nextPage? (page : Json) : Option Json :=
  (page.member? "LastEvaluatedKey").filter Json.isTruthy

/-- Go through the pages of a query, collecting their items. -/
def pages (tables : TableClient) (table : String) (items : List Json) :
    (limit : Nat) → (options : List (String × Json)) → Program Outcome
  | 0, _ => .done (.transientError s!"dynamodb.query of {table} has too many pages" none)
  | limit + 1, options =>
      (tables.perform (.query table options)).bind fun outcome =>
        if outcome.isSuccess then
          let page := if outcome.data.isTruthy then outcome.data else .object []
          match page with
          | .object _ =>
              match pageItems page with
              | .error failure => .fail failure
              | .ok found =>
                  match nextPage? page with
                  | some key =>
                      pages tables table (items ++ found) limit (setEntry options startOption key)
                  | none => .done (.success (.list (items ++ found)) "dynamodb.query succeeded")
          | other => .fail (.shape (.noMembers other.typeName))
        else .done outcome

/-- Query a table through all its pages. -/
def allPages (tables : TableClient) (table : String) (options : List (String × Json)) :
    Program Outcome := do
  let outcome ← tables.pages table [] tables.pageLimit options
  match outcome.isSuccess, outcome.data with
  | true, .list items => do
      Program.log .debug component "dynamodb_query_completed"
        [("table", .text table), ("item_count", .integer items.length)]
      pure outcome
  | _, _ => pure outcome

/-- Perform an operation, with access to the tables that may fail; a query goes through all its
pages. -/
def start (access : Except Failure TableClient) (operation : Operation) : Program Outcome := do
  logStart operation
  let tables ← Program.ofExcept access
  match operation with
  | .query table options => tables.allPages table options
  | operation => tables.perform operation

/-- Read the item under a key; the outcome holds the answer of the service. -/
def getItem (tables : TableClient) (table : String) (key : Json)
    (options : List (String × Json)) : Program Outcome :=
  start (.ok tables) (.getItem table key options)

/-- Write an item; under a condition, a rejected write is a conflict. -/
def putItem (tables : TableClient) (table : String) (item : Json)
    (options : List (String × Json)) : Program Outcome :=
  start (.ok tables) (.putItem table item options)

/-- Delete the item under a key, which need not exist. -/
def deleteItem (tables : TableClient) (table : String) (key : Json)
    (options : List (String × Json)) : Program Outcome :=
  start (.ok tables) (.deleteItem table key options)

/-- Query a table; the outcome holds the list of all items. -/
def query (tables : TableClient) (table : String) (options : List (String × Json)) :
    Program Outcome :=
  start (.ok tables) (.query table options)

end TableClient
end AlertRelay
