import AlertRelay.Proofs.Building
import AlertRelay.Proofs.ChannelRequests
import Mathlib.Data.List.Nodup

/-!
# Footprints

In a world, the outcome of every request depends on the request alone, and for the table service
also on the rows that the operation addresses.  A footprint names what a dispatch may depend on in
the tables: the row of its delivery and the push subscriptions of one user.  A program that keeps to
a footprint does the same in situations that agree on the footprint, and leaves everything else as
it was.
-/

namespace AlertRelay

open Program

/-! ## Rows under different keys -/

namespace Table

variable {table : Table} {key : String} {item other : Json}

theorem row_unique (distinct : (table.items.map Prod.fst).Nodup)
    (member : (key, item) ∈ table.items) (otherMember : (key, other) ∈ table.items) :
    item = other :=
  congrArg Prod.snd (List.inj_on_of_nodup_map distinct member otherMember rfl)

theorem mem_of_get? (found : table.get? key = some item) : (key, item) ∈ table.items := by
  obtain ⟨before, after, split, _⟩ := List.lookup_eq_some_iff.mp found
  rw [split]
  exact List.mem_append_right _ List.mem_cons_self

theorem get?_of_mem (distinct : (table.items.map Prod.fst).Nodup)
    (member : (key, item) ∈ table.items) : table.get? key = some item :=
  lookup_of_mem distinct member

/-- Under different keys, the same rows are found under the same keys. -/
theorem get?_eq_of_mem_iff {second : Table} (distinct : (table.items.map Prod.fst).Nodup)
    (distinctSecond : (second.items.map Prod.fst).Nodup)
    (same : ∀ row, row ∈ table.items ↔ row ∈ second.items) (key : String) :
    table.get? key = second.get? key :=
  Option.ext fun _ =>
    ⟨fun found => get?_of_mem distinctSecond ((same _).mp (mem_of_get? found)),
      fun found => get?_of_mem distinct ((same _).mpr (mem_of_get? found))⟩

end Table

/-! ## Worlds -/

namespace Store

/-- The row under a key, together with the key. -/
def rowAt (store : Store) (name key : String) : List (String × Json) :=
  ((store.row? name key).map fun item => (key, item)).toList

/-- The rows that an operation addresses. -/
def addressed (store : Store) : Operation → List (String × Json)
  | .getItem name key _ => ((store.table name).place? key).elim [] (store.rowAt name)
  | .putItem name item _ => store.rowAt name (Table.keyOf (store.table name).keyName item)
  | .deleteItem name key _ => ((store.table name).place? key).elim [] (store.rowAt name)
  | .query name options => (store.table name).ofUser (queriedUser options)
  | .other _ _ => []

/-- The same tables, apart from the order of their rows. -/
def Same (first second : Store) : Prop :=
  ∀ name, (first.table name).keyName = (second.table name).keyName ∧
    ∀ key, first.row? name key = second.row? name key

end Store

/-- Surroundings in which the outcome of a request is a function of the request and, for a call of
the table service, of the rows that it addresses. -/
structure World where
  answer : (request : Request) → request.Answer
  /-- The answer to a call, and whether the operation is carried out if the service admits it; the
  answer may get lost on its way. -/
  serve : ServiceCall → List (String × Json) → Except Failure Json × Bool
  /-- Whether a note is taken down, whatever its answer is. -/
  takes : Request → Bool
  /-- A query that is answered tells only rows that it addresses. -/
  tells {call : ServiceCall} {name : String} {options rows : List (String × Json)} {page : Json}
    {items : List Json} :
    call.operation = .query name options → (serve call rows).1 = .ok page →
      TableClient.pageItems page = .ok items → ∀ item ∈ items, ∃ key, (key, item) ∈ rows

/-- The changing part of the surroundings; the notes are those in the logs of alerts. -/
structure Situation where
  store : Store
  context : Context
  notes : List Request

namespace World

variable (world : World)

/-- The tables after a call of the service. -/
def storeAfter (call : ServiceCall) (store : Store) : Store :=
  if (world.serve call (store.addressed call.operation)).2 && store.admits call.operation then
    store.carriedOut call.operation
  else store

/-- The situation after a request to take a note. -/
def noted (note : Request) (situation : Situation) : Situation :=
  if world.takes note then { situation with notes := situation.notes ++ [note] } else situation

/-- What the world answers, and the situation after it. -/
def respond (request : Request) (situation : Situation) : request.Answer × Situation :=
  match request with
  | .service call =>
      ((world.serve call (situation.store.addressed call.operation)).1,
        { situation with store := world.storeAfter call situation.store })
  | .context => (situation.context, situation)
  | .setContext context => ((), { situation with context })
  | .appendAlertSent alertId messageId =>
      (world.answer (.appendAlertSent alertId messageId),
        world.noted (.appendAlertSent alertId messageId) situation)
  | .appendServiceSent serviceId messageId =>
      (world.answer (.appendServiceSent serviceId messageId),
        world.noted (.appendServiceSent serviceId messageId) situation)
  | request => (world.answer request, situation)

/-- What can be expected of an exchange that starts from tables with no other subscriptions than the
given ones. -/
def Expects (start : Store) : Exchange → Prop
  | ⟨.service call, answer⟩ =>
      ∀ name options page items, call.operation = .query name options → answer = .ok page →
        TableClient.pageItems page = .ok items →
          ∀ item ∈ items, ∃ key,
            (key, item) ∈ (start.table name).ofUser (Store.queriedUser options)
  | ⟨.context, _⟩ => True
  | ⟨.setContext _, _⟩ => True
  | ⟨request, answer⟩ => answer = world.answer request

end World

namespace Request

/-- Neither a call of the table service nor about the message context. -/
def Elsewhere : Request → Prop
  | .service _ => False
  | .context => False
  | .setContext _ => False
  | _ => True

variable {request : Request}

theorem Routine.elsewhere (routine : request.Routine) : request.Elsewhere := by
  cases request <;> trivial

theorem Consulting.elsewhere (consulting : request.Consulting) : request.Elsewhere := by
  cases request <;> trivial

theorem Noting.elsewhere (noting : request.Noting) : request.Elsewhere := by
  cases request <;> trivial

end Request

/-! ## Footprints -/

/-- A text attribute equals no other value. -/
theorem Json.same_ofText {data : Json} {value : String} :
    data.same (Attribute.ofText value) = true ↔ data = Attribute.ofText value := by
  constructor
  · intro same
    cases data with
    | object members =>
        simp only [Json.same, Attribute.ofText, List.length_singleton, Bool.and_eq_true,
          beq_iff_eq] at same
        obtain ⟨single, members_same⟩ := same
        obtain ⟨⟨name, held⟩, rfl⟩ := List.length_eq_one_iff.mp single
        by_cases named : name = "S"
        · subst named
          simp only [Json.sameMembers, List.lookup_cons, beq_self_eq_true, Bool.and_true]
            at members_same
          rw [Json.same_text.mp members_same]
          rfl
        · have differs : (name == "S") = false := by simpa using named
          simp [Json.sameMembers, List.lookup_cons, differs] at members_same
    | null => simp [Json.same, Attribute.ofText, Json.isNull] at same
    | _ => simp [Json.same, Attribute.ofText, Json.sameNumber, Json.truthAsNumber] at same
  · rintro rfl
    simp [Json.same, Attribute.ofText, Json.sameMembers]

/-- What a dispatch may depend on in the tables: the row of one delivery and the push subscriptions
of one user. -/
structure Footprint where
  delivery : Option (Int × DestinationId)
  user : Option String
deriving DecidableEq

namespace Footprint

/-- The key is that of the delivery. -/
def HasKey (footprint : Footprint) (key : String) : Prop :=
  ∃ alertId destination, footprint.delivery = some (alertId, destination) ∧
    key = deliveryKey alertId destination

/-- Whether a subscription is one of the user's. -/
def owns (footprint : Footprint) (row : String × Json) : Bool :=
  footprint.user.any fun user =>
    ((row.2.member? "user_id").getD .null).same (Attribute.ofText user)

theorem owns_eq_true {footprint : Footprint} {row : String × Json} :
    footprint.owns row = true ↔ ∃ user, footprint.user = some user ∧
      (row.2.member? "user_id").getD .null = Attribute.ofText user := by
  simp [owns, Option.any_eq_true, Json.same_ofText]

/-- The footprints have neither the delivery nor the user in common. -/
structure Apart (first second : Footprint) : Prop where
  deliveries : ∀ delivery, first.delivery = some delivery → second.delivery ≠ some delivery
  users : ∀ user, first.user = some user → second.user ≠ some user

namespace Apart

variable {first second : Footprint}

theorem symm (apart : first.Apart second) : second.Apart first :=
  ⟨fun delivery own other => apart.deliveries delivery other own,
    fun user own other => apart.users user other own⟩

theorem not_hasKey (apart : first.Apart second) {key : String} (own : first.HasKey key) :
    ¬ second.HasKey key := by
  obtain ⟨alertId, destination, delivery, rfl⟩ := own
  rintro ⟨otherId, other, otherDelivery, same⟩
  obtain ⟨rfl, rfl⟩ := deliveryKey_inj.mp same
  exact apart.deliveries _ delivery otherDelivery

theorem owns_eq_false (apart : first.Apart second) {row : String × Json}
    (own : first.owns row = true) : second.owns row = false := by
  obtain ⟨user, ofUser, held⟩ := owns_eq_true.mp own
  refine Bool.eq_false_iff.mpr fun other => ?_
  obtain ⟨otherUser, ofOther, heldOther⟩ := owns_eq_true.mp other
  rw [held] at heldOther
  cases heldOther
  exact apart.users user ofUser ofOther

end Apart

section Tables

variable (footprint : Footprint) (ledger : Ledger) (subscriptions : SubscriptionStore)
  (start : Store)

/-- Tables of deliveries and of subscriptions, with no other subscriptions than at the start. -/
structure Grounded (store : Store) : Prop where
  deliveries : (store.table ledger.table).keyName = "delivery_key"
  browsers : (store.table subscriptions.table).keyName = "endpoint"
  remaining : (store.table subscriptions.table).items.Sublist
    (start.table subscriptions.table).items

/-- The tables are the same as far as the footprint reaches, and outside of the two tables. -/
structure Agree (first second : Store) : Prop where
  deliveries : ∀ key, footprint.HasKey key →
    first.row? ledger.table key = second.row? ledger.table key
  browsers : (first.table subscriptions.table).items.filter footprint.owns =
    (second.table subscriptions.table).items.filter footprint.owns
  others : ∀ name, name ≠ ledger.table → name ≠ subscriptions.table →
    first.table name = second.table name

/-- The tables are the same except where the footprint reaches. -/
structure Frame (before after : Store) : Prop where
  deliveries : ∀ key, ¬ footprint.HasKey key →
    after.row? ledger.table key = before.row? ledger.table key
  browsers : ∀ row, footprint.owns row = false →
    (row ∈ (after.table subscriptions.table).items ↔
      row ∈ (before.table subscriptions.table).items)
  others : ∀ name, name ≠ ledger.table → name ≠ subscriptions.table →
    after.table name = before.table name

/-- The operations of dispatches that keep to the footprint. -/
inductive Covers : Operation → Prop
  | delivery {alertId : Int} {destination : DestinationId}
      (own : footprint.delivery = some (alertId, destination)) (options : List (String × Json)) :
      Covers (.getItem ledger.table
        (.object [("delivery_key", Attribute.ofText (deliveryKey alertId destination))]) options)
  | signal (name messageId : String) (options : List (String × Json)) :
      Covers (.getItem name (.object [("message_id", Attribute.ofText messageId)]) options)
  | record {item : Json} (own : footprint.HasKey (Table.keyOf "delivery_key" item))
      (options : List (String × Json)) : Covers (.putItem ledger.table item options)
  | query {user : String} (own : footprint.user = some user) {options : List (String × Json)}
      (asked : Store.queriedUser options = Attribute.ofText user) :
      Covers (.query subscriptions.table options)
  | delete {endpoint : String}
      (own : ∀ item, (endpoint, item) ∈ (start.table subscriptions.table).items →
        footprint.owns (endpoint, item) = true)
      (options : List (String × Json)) :
      Covers (.deleteItem subscriptions.table (SubscriptionStore.endpointKey (.text endpoint))
        options)

/-- The requests of dispatches that keep to the footprint. -/
inductive Allows : Request → Prop
  | elsewhere {request : Request} (elsewhere : request.Elsewhere) : Allows request
  | service {call : ServiceCall}
      (covered : footprint.Covers ledger subscriptions start call.operation) :
      Allows (.service call)

end Tables

section Steps

variable {footprint : Footprint} {ledger : Ledger} {subscriptions : SubscriptionStore}
  {start first second third : Store} {operation : Operation}

theorem allows_of_routine (request : Request) (routine : request.Routine) :
    footprint.Allows ledger subscriptions start request :=
  .elsewhere routine.elsewhere

theorem Grounded.tables_ne (grounded : Grounded ledger subscriptions start first) :
    subscriptions.table ≠ ledger.table := by
  intro same
  have keyed := grounded.browsers
  rw [same, grounded.deliveries] at keyed
  exact absurd keyed (by decide)

theorem Agree.refl (store : Store) : footprint.Agree ledger subscriptions store store :=
  ⟨fun _ _ => rfl, rfl, fun _ _ _ => rfl⟩

theorem Agree.symm (agree : footprint.Agree ledger subscriptions first second) :
    footprint.Agree ledger subscriptions second first :=
  ⟨fun key own => (agree.deliveries key own).symm, agree.browsers.symm,
    fun name notLedger notBrowsers => (agree.others name notLedger notBrowsers).symm⟩

theorem Frame.refl (store : Store) : footprint.Frame ledger subscriptions store store :=
  ⟨fun _ _ => rfl, fun _ _ => .rfl, fun _ _ _ => rfl⟩

theorem Frame.trans (before : footprint.Frame ledger subscriptions first second)
    (after : footprint.Frame ledger subscriptions second third) :
    footprint.Frame ledger subscriptions first third :=
  ⟨fun key own => (after.deliveries key own).trans (before.deliveries key own),
    fun row own => (after.browsers row own).trans (before.browsers row own),
    fun name notLedger notBrowsers =>
      (after.others name notLedger notBrowsers).trans (before.others name notLedger notBrowsers)⟩

/-- The row of a subscription that the footprint owns is found among the owned ones. -/
theorem row?_of_own {store : Store} (grounded : Grounded ledger subscriptions start store)
    {endpoint : String}
    (own : ∀ item, (endpoint, item) ∈ (start.table subscriptions.table).items →
      footprint.owns (endpoint, item) = true) :
    store.row? subscriptions.table endpoint =
      ((store.table subscriptions.table).items.filter footprint.owns).lookup endpoint := by
  -- The rows left over are among those of the start, so a row under the endpoint is an owned one,
  -- and the filter drops others only.
  have inStart := grounded.remaining.subset
  rw [Store.row?, Table.get?]
  generalize (store.table subscriptions.table).items = items at inStart
  induction items with
  | nil => rfl
  | cons row rest ih =>
      obtain ⟨key, item⟩ := row
      have later := ih fun _ member => inStart (List.mem_cons_of_mem _ member)
      by_cases same : endpoint = key
      · subst same
        simp [own item (inStart List.mem_cons_self)]
      · have differs : (endpoint == key) = false := by simpa using same
        by_cases owned : footprint.owns (key, item) = true <;>
          simp [List.lookup_cons, differs, owned, later]

variable (groundedFirst : Grounded ledger subscriptions start first)
  (groundedSecond : Grounded ledger subscriptions start second)
  (agree : footprint.Agree ledger subscriptions first second)

include groundedFirst groundedSecond agree

theorem Agree.keyName_eq (name : String) :
    (first.table name).keyName = (second.table name).keyName := by
  by_cases isLedger : name = ledger.table
  · rw [isLedger, groundedFirst.deliveries, groundedSecond.deliveries]
  · by_cases isBrowsers : name = subscriptions.table
    · rw [isBrowsers, groundedFirst.browsers, groundedSecond.browsers]
    · rw [agree.others name isLedger isBrowsers]

theorem Agree.place?_eq (name : String) (key : Json) :
    (first.table name).place? key = (second.table name).place? key := by
  unfold Table.place?
  rw [agree.keyName_eq groundedFirst groundedSecond name]

variable (covers : footprint.Covers ledger subscriptions start operation)

include covers

/-- An operation addresses the same rows where the tables agree. -/
theorem Covers.addressed_eq : first.addressed operation = second.addressed operation := by
  have places := agree.place?_eq groundedFirst groundedSecond
  cases covers with
  | delivery own options =>
      have row := agree.deliveries _ ⟨_, _, own, rfl⟩
      simp [Store.addressed, Table.place?, groundedFirst.deliveries, groundedSecond.deliveries,
        Attribute.ofText, Store.rowAt, row]
  | signal name messageId options =>
      -- A table of deliveries or of subscriptions has no place for the key of a signal.
      by_cases isLedger : name = ledger.table
      · simp [Store.addressed, Table.place?, isLedger, groundedFirst.deliveries,
          groundedSecond.deliveries, Attribute.ofText]
      · by_cases isBrowsers : name = subscriptions.table
        · simp [Store.addressed, Table.place?, isBrowsers, groundedFirst.browsers,
            groundedSecond.browsers, Attribute.ofText]
        · have table := agree.others name isLedger isBrowsers
          unfold Store.addressed Store.rowAt Store.row?
          simp only [table]
  | record own options =>
      have row := agree.deliveries _ own
      simp [Store.addressed, groundedFirst.deliveries, groundedSecond.deliveries, Store.rowAt, row]
  | @query user own options asked =>
      have owned : footprint.owns = fun row =>
          ((row.2.member? "user_id").getD .null).same (Attribute.ofText user) := by
        funext row
        rw [owns, own, Option.any_some]
      rw [Store.addressed, Store.addressed, asked, Table.ofUser, Table.ofUser, ← owned]
      exact agree.browsers
  | @delete endpoint own options =>
      have row : first.row? subscriptions.table endpoint =
          second.row? subscriptions.table endpoint := by
        rw [row?_of_own groundedFirst own, row?_of_own groundedSecond own, agree.browsers]
      simp [Store.addressed, Table.place?, groundedFirst.browsers, groundedSecond.browsers,
        SubscriptionStore.endpointKey, Store.rowAt, row]

theorem Covers.admits_eq : first.admits operation = second.admits operation := by
  have places := agree.place?_eq groundedFirst groundedSecond
  cases covers with
  | delivery | signal | delete => simp only [Store.admits, places]
  | query => rfl
  | record own options =>
      have row := agree.deliveries _ own
      rw [Store.row?, Store.row?] at row
      dsimp only [Store.admits]
      rw [groundedFirst.deliveries, groundedSecond.deliveries]
      unfold Table.allows Table.absence
      rw [groundedFirst.deliveries, groundedSecond.deliveries, row]

/-- What an operation carries out keeps the agreement. -/
theorem Covers.agree_carriedOut : footprint.Agree ledger subscriptions
    (first.carriedOut operation) (second.carriedOut operation) := by
  have different := groundedFirst.tables_ne
  cases covers with
  | delivery | signal | query => exact agree
  | @record item own options =>
      dsimp only [Store.carriedOut]
      refine ⟨fun key ownKey => ?_, ?_, fun name notLedger notBrowsers => ?_⟩
      · rw [Store.row?, Store.row?, Store.table_setTable_self, Store.table_setTable_self,
          groundedFirst.deliveries, groundedSecond.deliveries]
        by_cases same : key = Table.keyOf "delivery_key" item
        · rw [same, Table.get?_put_self, Table.get?_put_self]
        · rw [Table.get?_put_of_ne _ _ same, Table.get?_put_of_ne _ _ same]
          exact agree.deliveries key ownKey
      · rw [Store.table_setTable_of_ne _ _ different, Store.table_setTable_of_ne _ _ different]
        exact agree.browsers
      · rw [Store.table_setTable_of_ne _ _ notLedger, Store.table_setTable_of_ne _ _ notLedger]
        exact agree.others name notLedger notBrowsers
  | delete own options =>
      dsimp only [Store.carriedOut]
      refine ⟨fun key ownKey => ?_, ?_, fun name notLedger notBrowsers => ?_⟩
      · rw [Store.row?, Store.row?, Store.table_setTable_of_ne _ _ different.symm,
          Store.table_setTable_of_ne _ _ different.symm]
        exact agree.deliveries key ownKey
      · rw [Store.table_setTable_self, Store.table_setTable_self, Table.delete, Table.delete,
          List.filter_comm, agree.browsers, List.filter_comm]
      · rw [Store.table_setTable_of_ne _ _ notBrowsers, Store.table_setTable_of_ne _ _ notBrowsers]
        exact agree.others name notLedger notBrowsers

omit groundedSecond agree

/-- What an operation carries out stays within the footprint. -/
theorem Covers.frame_carriedOut :
    footprint.Frame ledger subscriptions first (first.carriedOut operation) := by
  have different := groundedFirst.tables_ne
  cases covers with
  | delivery | signal | query => exact .refl first
  | @record item own options =>
      dsimp only [Store.carriedOut]
      refine ⟨fun key notOwn => ?_, fun row _ => ?_, fun name notLedger _ => ?_⟩
      · have other : key ≠ Table.keyOf "delivery_key" item := by
          rintro rfl
          exact notOwn own
        rw [Store.row?, Store.table_setTable_self, groundedFirst.deliveries,
          Table.get?_put_of_ne _ _ other]
        rfl
      · rw [Store.table_setTable_of_ne _ _ different]
      · rw [Store.table_setTable_of_ne _ _ notLedger]
  | @delete endpoint own options =>
      dsimp only [Store.carriedOut]
      refine ⟨fun key _ => ?_, fun row notOwn => ?_, fun name _ notBrowsers => ?_⟩
      · rw [Store.row?, Store.table_setTable_of_ne _ _ different.symm]
        rfl
      · rw [Store.table_setTable_self, Table.delete, List.mem_filter]
        refine ⟨And.left, fun member => ⟨member, ?_⟩⟩
        have other : row.1 ≠ endpoint := by
          rintro rfl
          rw [own row.2 (groundedFirst.remaining.subset member)] at notOwn
          cases notOwn
        simpa [SubscriptionStore.endpointKey, Table.askedKey, Table.attributeText, Json.member?]
          using other
      · rw [Store.table_setTable_of_ne _ _ notBrowsers]

theorem Covers.grounded_carriedOut :
    Grounded ledger subscriptions start (first.carriedOut operation) := by
  have different := groundedFirst.tables_ne
  refine ⟨by simpa using groundedFirst.deliveries, by simpa using groundedFirst.browsers, ?_⟩
  cases covers with
  | delivery | signal | query => exact groundedFirst.remaining
  | record own options =>
      dsimp only [Store.carriedOut]
      rw [Store.table_setTable_of_ne _ _ different]
      exact groundedFirst.remaining
  | delete own options =>
      dsimp only [Store.carriedOut]
      rw [Store.table_setTable_self]
      exact List.filter_sublist.trans groundedFirst.remaining

end Steps
end Footprint

/-! ## Programs that keep to a footprint -/

namespace Program

variable {α β : Type} {expected : Exchange → Prop} {allowed : Request → Prop}
  {holds : Except Failure α → Prop}

/-- Given expected answers, the program makes no other requests than the allowed ones, and what it
ends with has the property. -/
inductive Within (expected : Exchange → Prop) (allowed : Request → Prop)
    (holds : Except Failure α → Prop) : Program α → Prop
  | done {value : α} (satisfied : holds (.ok value)) : Within expected allowed holds (.done value)
  | fail {failure : Failure} (satisfied : holds (.error failure)) :
      Within expected allowed holds (.fail failure)
  | ask {request : Request} {next : request.Answer → Program α} (first : allowed request)
      (later : ∀ answer, expected ⟨request, answer⟩ →
        Within expected allowed holds (next answer)) :
      Within expected allowed holds (.ask request next)

/-- What a program requests in any case and what it yields go together. -/
theorem Makes.within {program : Program α} (makes : program.Makes allowed)
    (yields : program.Yields expected holds) : program.Within expected allowed holds := by
  induction makes with
  | done value =>
      cases yields with
      | done satisfied => exact .done satisfied
  | fail failure =>
      cases yields with
      | fail satisfied => exact .fail satisfied
  | ask first _ ih =>
      cases yields with
      | ask later => exact .ask first fun answer answered => ih answer (later answer answered)

theorem Makes.within_any {program : Program α} (makes : program.Makes allowed) :
    program.Within expected allowed fun _ => True :=
  makes.within (yields_true program)

theorem Within.bind {program : Program α} {next : α → Program β}
    {wanted : Except Failure β → Prop} (first : program.Within expected allowed holds)
    (later : ∀ value, holds (.ok value) → (next value).Within expected allowed wanted)
    (failed : ∀ failure, holds (.error failure) → wanted (.error failure)) :
    (program.bind next).Within expected allowed wanted := by
  induction first with
  | done satisfied => exact later _ satisfied
  | fail satisfied => exact .fail (failed _ satisfied)
  | ask first _ ih => exact .ask first ih

/-- After requests that are made in any case, the rest decides. -/
theorem Makes.bind_within {program : Program α} {next : α → Program β}
    {wanted : Except Failure β → Prop} (first : program.Makes allowed)
    (later : ∀ value, (next value).Within expected allowed wanted)
    (failed : ∀ failure, wanted (.error failure)) :
    (program.bind next).Within expected allowed wanted :=
  first.within_any.bind (fun value _ => later value) fun failure _ => failed failure

theorem Within.attempt {program : Program α} (within : program.Within expected allowed holds) :
    program.attempt.Within expected allowed fun _ => True := by
  induction within with
  | done _ => exact .done trivial
  | fail _ => exact .done trivial
  | ask first _ ih => exact .ask first ih

/-- A program whose answers are determined ends as it does when it runs on them. -/
theorem yields_run {answer : (request : Request) → request.Answer} {program : Program α}
    (makes : program.Makes fun request =>
      ∀ given, expected ⟨request, given⟩ → given = answer request) :
    program.Yields expected fun outcome =>
      outcome = (program.run (fun request (state : Unit) => (answer request, state)) ()).1 := by
  induction makes with
  | done value => exact .done rfl
  | fail failure => exact .fail rfl
  | ask first _ ih =>
      refine .ask fun given told => ?_
      rw [first given told]
      exact ih (answer _)

end Program

/-! ## Runs -/

namespace World

variable {world : World} {footprint : Footprint} {ledger : Ledger}
  {subscriptions : SubscriptionStore} {start : Store}

/-- What a step or a run does in two situations that agree on a footprint: it stays within the
footprint, keeps the agreement, and takes the same notes. -/
structure Alongside (footprint : Footprint) (ledger : Ledger) (subscriptions : SubscriptionStore)
    (start : Store) (before after partnerBefore partnerAfter : Situation) : Prop where
  grounded : Footprint.Grounded ledger subscriptions start after.store
  groundedPartner : Footprint.Grounded ledger subscriptions start partnerAfter.store
  frame : footprint.Frame ledger subscriptions before.store after.store
  agree : footprint.Agree ledger subscriptions after.store partnerAfter.store
  notes : ∃ added, after.notes = before.notes ++ added ∧
    partnerAfter.notes = partnerBefore.notes ++ added

section Steps

variable {situation partner : Situation}
  (grounded : Footprint.Grounded ledger subscriptions start situation.store)
  (groundedPartner : Footprint.Grounded ledger subscriptions start partner.store)
  (agree : footprint.Agree ledger subscriptions situation.store partner.store)

include grounded groundedPartner agree

/-- A request of the footprint is answered the same in situations that agree. -/
theorem alongside_respond {request : Request}
    (allowed : footprint.Allows ledger subscriptions start request) :
    (world.respond request situation).1 = (world.respond request partner).1 ∧
      Alongside footprint ledger subscriptions start situation (world.respond request situation).2
        partner (world.respond request partner).2 := by
  cases allowed with
  | elsewhere elsewhere =>
      have unchanged : Alongside footprint ledger subscriptions start situation situation partner
          partner :=
        ⟨grounded, groundedPartner, .refl _, agree, [], by simp⟩
      have noted (note : Request) : Alongside footprint ledger subscriptions start situation
          (world.noted note situation) partner (world.noted note partner) := by
        unfold World.noted
        split
        · exact ⟨grounded, groundedPartner, .refl _, agree, [note], rfl, rfl⟩
        · exact unchanged
      -- Only a note changes anything, and whether it is taken depends on the request alone.
      cases request with
      | service | context | setContext => exact elsewhere.elim
      | appendAlertSent | appendServiceSent => exact ⟨rfl, noted _⟩
      | _ => exact ⟨rfl, unchanged⟩
  | @service call covered =>
      have addressed := covered.addressed_eq grounded groundedPartner agree
      have admits := covered.admits_eq grounded groundedPartner agree
      refine ⟨by simp only [respond, addressed], ?_⟩
      dsimp only [respond, storeAfter]
      rw [addressed, admits]
      split
      · exact ⟨covered.grounded_carriedOut grounded, covered.grounded_carriedOut groundedPartner,
          covered.frame_carriedOut grounded,
          covered.agree_carriedOut grounded groundedPartner agree, [], by simp⟩
      · exact ⟨grounded, groundedPartner, .refl _, agree, [], by simp⟩

omit groundedPartner agree in
/-- The answers of a world are as expected. -/
theorem expects_respond {request : Request}
    (allowed : footprint.Allows ledger subscriptions start request) :
    world.Expects start ⟨request, (world.respond request situation).1⟩ := by
  cases allowed with
  | elsewhere elsewhere =>
      cases request with
      | service | context | setContext => exact elsewhere.elim
      | _ => rfl
  | @service call covered =>
      intro name options page items operation answered read item member
      rw [operation] at covered
      cases covered with
      | query own asked =>
          rw [respond, operation] at answered
          obtain ⟨key, inStore⟩ := world.tells operation answered read item member
          exact ⟨key, (grounded.remaining.filter _).subset inStore⟩

/-- A program that keeps to a footprint runs the same in situations that agree on it. -/
theorem alongside_run {α : Type} {holds : Except Failure α → Prop}
    {program : Program α}
    (within : program.Within (world.Expects start) (footprint.Allows ledger subscriptions start)
      holds) :
    (program.run world.respond situation).1 = (program.run world.respond partner).1 ∧
      Alongside footprint ledger subscriptions start situation
        (program.run world.respond situation).2 partner (program.run world.respond partner).2 := by
  induction within generalizing situation partner with
  | done | fail =>
      exact ⟨rfl, grounded, groundedPartner, .refl _, agree, [], by simp [run]⟩
  | @ask request next allowed _ ih =>
      -- One request keeps the agreement, so the rest of the program starts from agreement again.
      obtain ⟨same, step⟩ := alongside_respond grounded groundedPartner agree allowed
      obtain ⟨sameLater, later⟩ := ih (world.respond request situation).1
        (expects_respond grounded allowed) step.grounded step.groundedPartner step.agree
      dsimp only [run]
      rw [← same]
      obtain ⟨added, notes, notesPartner⟩ := step.notes
      obtain ⟨more, notesLater, notesLaterPartner⟩ := later.notes
      refine ⟨sameLater, later.grounded, later.groundedPartner, step.frame.trans later.frame,
        later.agree, added ++ more, ?_, ?_⟩
      · rw [notesLater, notes, List.append_assoc]
      · rw [notesLaterPartner, notesPartner, List.append_assoc]

end Steps
end World
end AlertRelay
