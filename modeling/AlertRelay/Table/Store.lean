import AlertRelay.Failure.Basic
import AlertRelay.Json.Equality
import AlertRelay.Table.Call

/-!
# Tables

The service's side of the calls: what each operation answers and how it changes the tables.  A
table keeps its items in the order in which they were first stored.
-/

namespace AlertRelay

/-- A table: the name of its key attribute and its items under their keys. -/
structure Table where
  keyName : String
  items : List (String × Json)

namespace Table

/-- The text of an attribute. -/
def attributeText (data : Json) : String :=
  match data.member? "S" with
  | some (.text text) => text
  | _ => ""

/-- The key of an item: the text of its key attribute. -/
def keyOf (keyName : String) (item : Json) : String :=
  ((item.member? keyName).map attributeText).getD ""

/-- The key that an operation asks for: the text of the first attribute, whatever its name. -/
def askedKey : Json → String
  | .object ((_, first) :: _) => attributeText first
  | _ => ""

/-- The attribute that holds the place of a page, in every table. -/
def placeName : String := "endpoint"

/-- A table with items, of which the last one under a key counts. -/
def ofItems (keyName : String) (items : List Json) : Table :=
  ⟨keyName, items.foldl (fun items item => setEntry items (keyOf keyName item) item) []⟩

def get? (table : Table) (key : String) : Option Json := table.items.lookup key

def put (table : Table) (key : String) (item : Json) : Table :=
  { table with items := setEntry table.items key item }

def delete (table : Table) (key : String) : Table :=
  { table with items := table.items.filter (·.1 != key) }

/-- The items whose user is the given attribute. -/
def ofUser (table : Table) (user : Json) : List (String × Json) :=
  table.items.filter fun entry => ((entry.2.member? "user_id").getD .null).same user

/-- The entries after a key, all of them when there is no key. -/
def after (key : Option String) (entries : List (String × Json)) : List (String × Json) :=
  match key with
  | none => entries
  | some key => (entries.dropWhile (·.1 != key)).drop 1

/-- A page of the items of a user: at most `size` of them, and the last key of the page when more
remain. -/
def page (table : Table) (user : Json) (start : Option String) (size : Nat) : Json :=
  let remaining := after start (table.ofUser user)
  let entries := remaining.take size
  let items := ("Items", Json.list (entries.map Prod.snd))
  match entries.getLast? with
  | some last =>
      if entries.length < remaining.length then
        .object [items, ("LastEvaluatedKey",
          .object [(placeName, .object [("S", .text last.1)])])]
      else .object [items]
  | none => .object [items]

end Table

/-- Tables by name, with the number of items that a page holds. -/
structure Store where
  tables : List (String × Table)
  pageSize : Nat

namespace Store

/-- The table with a name; unknown tables are empty. -/
def table (store : Store) (name : String) : Table := (store.tables.lookup name).getD ⟨"", []⟩

def setTable (store : Store) (name : String) (table : Table) : Store :=
  { store with tables := setEntry store.tables name table }

/-- The refusal to write over an item. -/
def conflict (method : String) : Failure :=
  .service
    { response := .object [("Error", .object
        [("Code", .text "ConditionalCheckFailedException"),
          ("Message", .text "The conditional request failed")])]
      operation := method }

/-- The text of the key in the option that starts a page. -/
def startKey (options : List (String × Json)) : Option String :=
  ((options.lookup "ExclusiveStartKey").filter Json.isTruthy).map (Table.keyOf Table.placeName)

/-- The user that a query asks for, as an attribute. -/
def queriedUser (options : List (String × Json)) : Json :=
  ((options.lookup "ExpressionAttributeValues").bind (·.member? ":user_id")).getD .null

/-- The answer to an operation and the tables after it. -/
def perform (store : Store) (operation : Operation) : Except Failure Json × Store :=
  match operation with
  | .getItem name key _ =>
      match (store.table name).get? (Table.askedKey key) with
      | some item => (.ok (.object [("Item", item)]), store)
      | none => (.ok (.object []), store)
  | .putItem name item _ =>
      let table := store.table name
      let key := Table.keyOf table.keyName item
      if (table.get? key).isSome then (.error (conflict operation.method), store)
      else (.ok (.object []), store.setTable name (table.put key item))
  | .deleteItem name key _ =>
      (.ok (.object []),
        store.setTable name ((store.table name).delete (Table.askedKey key)))
  | .query name options =>
      let page := (store.table name).page (queriedUser options) (startKey options) store.pageSize
      (.ok page, store)
  | .other _ _ => (.ok (.object []), store)

end Store
end AlertRelay
