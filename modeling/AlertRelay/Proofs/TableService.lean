import AlertRelay.Delivery.Ledger
import AlertRelay.Proofs.Entries
import AlertRelay.Proofs.ProgramExecution
import AlertRelay.Table.Store

/-!
# The table service

What the table service may do with the operations of a program.  An operation that it admits is
carried out at once, and a consistent read tells the current row.  Any operation may fail, with or
without having been carried out, so an answer that got lost is one of the possible answers.  Reads
that are not consistent, and queries, may tell anything.

A write under the condition that its key is absent never replaces a row, and a key with another
attribute than the key attribute of the table is refused.
-/

namespace AlertRelay

namespace Table

/-- The place that a key names: the text of its only attribute, which has to be the key attribute
of the table. -/
def place? (table : Table) : Json → Option String
  | .object [(name, .object [("S", .text place)])] =>
      if name = table.keyName then some place else none
  | _ => none

/-- The condition that no item has the key of the item to be written. -/
def absence (table : Table) : String := "attribute_not_exists(" ++ table.keyName ++ ")"

/-- Whether the condition of a write holds; a write without a condition replaces what is there. -/
def allows (table : Table) (options : List (String × Json)) (key : String) : Bool :=
  match options.lookup "ConditionExpression" with
  | some (.text condition) => condition != table.absence || (table.get? key).isNone
  | _ => true

@[simp]
theorem keyName_put (table : Table) (key : String) (item : Json) :
    (table.put key item).keyName = table.keyName :=
  rfl

@[simp]
theorem keyName_delete (table : Table) (key : String) :
    (table.delete key).keyName = table.keyName :=
  rfl

@[simp]
theorem get?_put_self (table : Table) (key : String) (item : Json) :
    (table.put key item).get? key = some item := by
  simp [get?, put]

theorem get?_put_of_ne (table : Table) (item : Json) {key other : String}
    (different : other ≠ key) : (table.put key item).get? other = table.get? other :=
  lookup_setEntry_of_ne _ _ _ different

end Table

namespace Store

/-- The row under a key of a table. -/
def row? (store : Store) (name key : String) : Option Json := (store.table name).get? key

/-- Whether the service carries out an operation when it does not fail. -/
def admits (store : Store) : Operation → Bool
  | .getItem name key _ => ((store.table name).place? key).isSome
  | .putItem name item options =>
      let table := store.table name
      table.allows options (Table.keyOf table.keyName item)
  | .deleteItem name key _ => ((store.table name).place? key).isSome
  | .query .. => true
  | .other .. => false

/-- The tables after an operation was carried out. -/
def carriedOut (store : Store) : Operation → Store
  | .putItem name item _ =>
      let table := store.table name
      store.setTable name (table.put (Table.keyOf table.keyName item) item)
  | .deleteItem name key _ =>
      store.setTable name ((store.table name).delete (Table.askedKey key))
  | _ => store

/-- What a successful answer tells: a consistent read tells the current row. -/
def Tells (store : Store) (operation : Operation) (response : Json) : Prop :=
  match operation with
  | .getItem name key options =>
      options.lookup "ConsistentRead" = some (.bool true) →
        response = match store.row? name (Table.askedKey key) with
          | some item => .object [("Item", item)]
          | none => .object []
  | _ => True

/-- The answer that tells a row, or that there is none. -/
def told : Option Json → Json
  | some item => .object [("Item", item)]
  | none => .object []

/-- What the service may answer to an operation, and the tables after it. -/
inductive Serves (store : Store) : Operation → Except Failure Json → Store → Prop
  /-- The operation failed. -/
  | failed (operation : Operation) (failure : Failure) :
      Serves store operation (.error failure) store
  /-- The operation was carried out, but its answer got lost. -/
  | unacknowledged {operation : Operation} (admitted : store.admits operation)
      (failure : Failure) : Serves store operation (.error failure) (store.carriedOut operation)
  /-- The operation was carried out and answered. -/
  | answered {operation : Operation} (admitted : store.admits operation) {response : Json}
      (told : store.Tells operation response) :
      Serves store operation (.ok response) (store.carriedOut operation)
  /-- Operations outside of those on items may do anything. -/
  | unknown (method : String) (arguments : List (String × Json)) (answer : Except Failure Json)
      (after : Store) : Serves store (.other method arguments) answer after

/-- The tables around an exchange: a call of the service may change them, and no other request
does. -/
inductive Answers (store : Store) : Exchange → Store → Prop
  | service {call : ServiceCall} {answer : Except Failure Json} {after : Store}
      (served : store.Serves call.operation answer after) :
      Answers store ⟨.service call, answer⟩ after
  | elsewhere {exchange : Exchange} (noCall : ∀ call, exchange.request ≠ .service call) :
      Answers store exchange store

/-- The tables before and after a series of exchanges. -/
inductive Through : Store → List Exchange → Store → Prop
  | nil (store : Store) : Through store [] store
  | cons {store middle after : Store} {exchange : Exchange} {exchanges : List Exchange}
      (answers : store.Answers exchange middle) (later : Through middle exchanges after) :
      Through store (exchange :: exchanges) after

/-! ## Series of exchanges -/

theorem Through.split {store after : Store} {first second : List Exchange}
    (through : store.Through (first ++ second) after) :
    ∃ middle, store.Through first middle ∧ middle.Through second after := by
  induction first generalizing store with
  | nil => exact ⟨store, .nil _, through⟩
  | cons exchange first ih =>
      cases through with
      | cons answers later =>
          obtain ⟨middle, before, rest⟩ := ih later
          exact ⟨middle, .cons answers before, rest⟩

/-- Every exchange of a series was answered from the tables that the exchanges before it left. -/
theorem Through.answers_of_mem {store after : Store} {exchanges : List Exchange}
    (through : store.Through exchanges after) {exchange : Exchange}
    (member : exchange ∈ exchanges) :
    ∃ past later reached next, exchanges = past ++ exchange :: later ∧
      store.Through past reached ∧ reached.Answers exchange next := by
  obtain ⟨past, later, rfl⟩ := List.append_of_mem member
  obtain ⟨reached, before, rest⟩ := through.split
  cases rest with
  | cons answers _ => exact ⟨past, later, reached, _, rfl, before, answers⟩

/-! ## Tables by name -/

@[simp]
theorem table_setTable_self (store : Store) (name : String) (table : Table) :
    (store.setTable name table).table name = table := by
  simp [setTable, Store.table]

theorem table_setTable_of_ne (store : Store) (table : Table) {name other : String}
    (different : other ≠ name) : (store.setTable name table).table other = store.table other := by
  simp [setTable, Store.table, lookup_setEntry_of_ne _ _ _ different]

@[simp]
theorem keyName_carriedOut (store : Store) (operation : Operation) (name : String) :
    ((store.carriedOut operation).table name).keyName = (store.table name).keyName := by
  cases operation with
  | putItem other item options =>
      by_cases same : name = other
      · subst same
        simp [carriedOut]
      · simp [carriedOut, table_setTable_of_ne _ _ same]
  | deleteItem other key options =>
      by_cases same : name = other
      · subst same
        simp [carriedOut]
      · simp [carriedOut, table_setTable_of_ne _ _ same]
  | _ => rfl

end Store

namespace Operation

/-- Whether an operation leaves recorded deliveries alone: it writes under the condition that the
delivery is not recorded, and deletes push subscriptions only. -/
def SparesDeliveries : Operation → Prop
  | .getItem .. => True
  | .putItem _ _ options => options = Ledger.firstWrite
  | .deleteItem _ key _ => ∃ endpoint, key = .object [("endpoint", .object [("S", endpoint)])]
  | .query .. => True
  | .other .. => False

end Operation

namespace Store

variable {store after : Store} {operation : Operation} {answer : Except Failure Json}
  {name : String}

theorem Serves.keyName_eq (served : store.Serves operation answer after)
    (spares : operation.SparesDeliveries) :
    (after.table name).keyName = (store.table name).keyName := by
  cases served with
  | failed => rfl
  | unacknowledged => simp
  | answered => simp
  | unknown => exact spares.elim

/-- A place in a table of deliveries is never that of a push subscription. -/
theorem not_admits_endpoint {endpoint : Json} {options : List (String × Json)}
    (keyed : (store.table name).keyName = "delivery_key") :
    ¬ store.admits
      (.deleteItem name (.object [("endpoint", .object [("S", endpoint)])]) options) := by
  cases endpoint <;> simp [admits, Table.place?, keyed]

/-- A first write goes to a key without a row. -/
theorem row?_eq_none_of_admits_firstWrite {item : Json}
    (keyed : (store.table name).keyName = "delivery_key")
    (admitted : store.admits (.putItem name item Ledger.firstWrite)) :
    store.row? name (Table.keyOf "delivery_key" item) = none := by
  have condition : (store.table name).absence = "attribute_not_exists(delivery_key)" := by
    unfold Table.absence
    rw [keyed]
    decide
  simpa [admits, Table.allows, Ledger.firstWrite, condition, keyed, row?] using admitted

/-- What is carried out on a table of deliveries keeps every row, and adds at most the item of a
first write. -/
theorem row?_carriedOut (keyed : (store.table name).keyName = "delivery_key")
    (spares : operation.SparesDeliveries) (admitted : store.admits operation) (key : String) :
    (store.carriedOut operation).row? name key = store.row? name key ∨
      ∃ item, operation = .putItem name item Ledger.firstWrite ∧
        key = Table.keyOf "delivery_key" item ∧ store.row? name key = none ∧
          (store.carriedOut operation).row? name key = some item := by
  cases operation with
  | getItem => exact .inl rfl
  | query => exact .inl rfl
  | other => exact spares.elim
  | deleteItem other given options =>
      obtain ⟨endpoint, rfl⟩ := spares
      by_cases same : name = other
      · subst same
        exact (not_admits_endpoint keyed admitted).elim
      · exact .inl (by simp [carriedOut, row?, table_setTable_of_ne _ _ same])
  | putItem other item options =>
      obtain rfl : options = Ledger.firstWrite := spares
      by_cases same : name = other
      · subst same
        by_cases place : key = Table.keyOf "delivery_key" item
        · subst place
          exact .inr ⟨item, rfl, rfl, row?_eq_none_of_admits_firstWrite keyed admitted,
            by simp [carriedOut, row?, keyed]⟩
        · exact .inl (by simp [carriedOut, row?, keyed, Table.get?_put_of_ne _ _ place])
      · exact .inl (by simp [carriedOut, row?, table_setTable_of_ne _ _ same])

theorem Serves.row?_eq (served : store.Serves operation answer after)
    (keyed : (store.table name).keyName = "delivery_key") (spares : operation.SparesDeliveries)
    (key : String) :
    after.row? name key = store.row? name key ∨
      ∃ item, operation = .putItem name item Ledger.firstWrite ∧
        key = Table.keyOf "delivery_key" item ∧ store.row? name key = none ∧
          after.row? name key = some item := by
  cases served with
  | failed => exact .inl rfl
  | unacknowledged admitted => exact row?_carriedOut keyed spares admitted key
  | answered admitted => exact row?_carriedOut keyed spares admitted key
  | unknown => exact spares.elim

end Store
end AlertRelay
