import AlertRelay.Failure.Basic

/-!
# Calls of the table service

A table holds items under keys.  Items and keys are JSON objects of typed attributes, and options
go along with a call as they are.
-/

namespace AlertRelay

/-- What is asked of a service. -/
inductive Operation where
  | getItem (table : String) (key : Json) (options : List (String × Json))
  | putItem (table : String) (item : Json) (options : List (String × Json))
  | deleteItem (table : String) (key : Json) (options : List (String × Json))
  | query (table : String) (options : List (String × Json))
  | other (method : String) (arguments : List (String × Json))

namespace Operation

/-- The name of the operation. -/
def method : Operation → String
  | getItem .. => "get_item"
  | putItem .. => "put_item"
  | deleteItem .. => "delete_item"
  | query .. => "query"
  | other method _ => method

/-- The arguments of the call. -/
def arguments : Operation → List (String × Json)
  | getItem table key options => ("TableName", .text table) :: ("Key", key) :: options
  | putItem table item options => ("TableName", .text table) :: ("Item", item) :: options
  | deleteItem table key options => ("TableName", .text table) :: ("Key", key) :: options
  | query table options => ("TableName", .text table) :: options
  | other _ arguments => arguments

/-- The table that an operation works on. -/
def table : Operation → String
  | getItem table .. => table
  | putItem table .. => table
  | deleteItem table .. => table
  | query table _ => table
  | other .. => ""

/-- The options of an operation, which for any other call are all of its arguments. -/
def options : Operation → List (String × Json)
  | getItem _ _ options => options
  | putItem _ _ options => options
  | deleteItem _ _ options => options
  | query _ options => options
  | other _ arguments => arguments

def withOptions (operation : Operation) (options : List (String × Json)) : Operation :=
  match operation with
  | getItem table key _ => getItem table key options
  | putItem table item _ => putItem table item options
  | deleteItem table key _ => deleteItem table key options
  | query table _ => query table options
  | other method _ => other method options

/-- The operation on a table that a name and named arguments stand for. -/
def ofArguments (name table : String) (arguments : List (String × Json)) :
    Except ArgumentFault Operation :=
  let required (part : String) (operation : Json → List (String × Json) → Operation) :
      Except ArgumentFault Operation :=
    match arguments.lookup part with
    | some value => .ok (operation value (arguments.filter (·.1 != part)))
    | none => .error (.missing name [part])
  if (arguments.lookup "table_name").isSome then .error (.repeated name "table_name")
  else
    match name with
    | "get_item" => required "Key" (.getItem table)
    | "put_item" => required "Item" (.putItem table)
    | "delete_item" => required "Key" (.deleteItem table)
    | _ => .ok (.query table arguments)

end Operation

/-- A call of a service by a client with the given settings. -/
structure ServiceCall where
  service : String
  session : List (String × Json)
  client : List (String × Json)
  operation : Operation

namespace ServiceCall

def method (call : ServiceCall) : String := call.operation.method

/-- The service and the operation. -/
def name (call : ServiceCall) : String := call.service ++ "." ++ call.method

end ServiceCall
end AlertRelay
