import AlertRelay.Proofs.QueryPages
import Mathlib.Logic.Relation

/-!
# Removed subscriptions

Removing the subscriptions of a user deletes the rows of the user one after the other and stops at
the first deletion that fails.  A deletion that fails leaves its row, so the rows before it are gone
and no others, and what such a call has left over is removed by a later one.
-/

namespace AlertRelay

open Program

/-! ## Acknowledged deletions -/

/-- Among the exchanges a deletion of the item under the key is answered. -/
def Acknowledged (exchanges : List Exchange) (key : String) : Prop :=
  ∃ call response, ⟨.service call, .ok response⟩ ∈ exchanges ∧ key ∈ call.operation.deletedKeys

theorem Acknowledged.mono {exchanges more : List Exchange} {key : String}
    (acknowledged : Acknowledged exchanges key) (included : exchanges ⊆ more) :
    Acknowledged more key := by
  obtain ⟨call, response, made, deletes⟩ := acknowledged
  exact ⟨call, response, included made, deletes⟩

theorem acknowledged_append {first second : List Exchange} {key : String} :
    Acknowledged (first ++ second) key ↔ Acknowledged first key ∨ Acknowledged second key := by
  constructor
  · rintro ⟨call, response, made, deletes⟩
    rcases List.mem_append.mp made with before | after
    · exact .inl ⟨call, response, before, deletes⟩
    · exact .inr ⟨call, response, after, deletes⟩
  · rintro (before | after)
    · exact before.mono (List.subset_append_left _ _)
    · exact after.mono (List.subset_append_right _ _)

theorem not_acknowledged_of_inquiring {exchanges : List Exchange} {key : String}
    (inquiring : ∀ exchange ∈ exchanges, exchange.request.Inquiring) :
    ¬ Acknowledged exchanges key := by
  rintro ⟨call, response, made, deletes⟩
  obtain ⟨name, options, query⟩ := inquiring _ made call rfl
  rw [query] at deletes
  cases deletes

namespace SubscriptionStore

section Deletion

variable {store : SubscriptionStore} {endpoint key : String} {exchanges : List Exchange}

theorem eq_deletion_of_mem {outcome : Except Failure Outcome} {call : ServiceCall}
    {answer : Except Failure Json}
    (ended : (store.deleteByEndpoint endpoint).Ends exchanges outcome)
    (made : ⟨.service call, answer⟩ ∈ exchanges) : call = store.deletion endpoint := by
  have makes : (store.deleteByEndpoint endpoint).Makes fun request =>
      request.Routine ∨ request = .service (store.deletion endpoint) :=
    makes_deleteByEndpoint (fun _ => .inl) (.inr rfl)
  exact makes.call_eq ended made

/-- The deletion of a subscription succeeds exactly when the service answers it. -/
theorem acknowledged_iff_isSuccess {deleted : Outcome}
    (ended : (store.deleteByEndpoint endpoint).Ends exchanges (.ok deleted)) :
    Acknowledged exchanges key ↔ deleted.isSuccess = true ∧ key = endpoint := by
  obtain ⟨first, second, outcome, rfl, performed, endedRest⟩ := ends_bind_ok.mp ended
  obtain ⟨attempts, rfl, endedStart⟩ := ends_log_bind.mp performed
  have endedPerform : (store.tables.perform (.deleteItem store.table
      (endpointKey (.text endpoint)) [])).Ends attempts (.ok outcome) := endedStart
  -- What follows the deletion reports it and does not change what it came to.
  have rest : deleted = outcome ∧ ∀ exchange ∈ second, exchange.request.Routine := by
    split at endedRest
    · obtain ⟨_, logged, suffix, rfl, shown, endedLog⟩ := ends_bind_ok.mp endedRest
      obtain ⟨rfl, _⟩ := ends_ofExcept.mp shown
      obtain ⟨last, rfl, endedDone⟩ := ends_log_bind.mp endedLog
      obtain ⟨rfl, same⟩ := ends_done.mp endedDone
      exact ⟨Except.ok.inj same, List.forall_mem_singleton.mpr trivial⟩
    · obtain ⟨rfl, same⟩ := ends_done.mp endedRest
      exact ⟨Except.ok.inj same, List.forall_mem_nil _⟩
  obtain ⟨rfl, routine⟩ := rest
  constructor
  · rintro ⟨call, response, made, deletes⟩
    rw [eq_deletion_of_mem ended made, deletedKeys_deletion] at deletes
    refine ⟨?_, List.mem_singleton.mp deletes⟩
    rcases List.mem_append.mp made with before | after
    · rcases List.mem_cons.mp before with same | attempted
      · cases same
      · obtain ⟨_, same⟩ := TableClient.outcome_of_answered endedPerform attempted
        cases same
        rfl
    · exact (routine _ after).elim
  · rintro ⟨success, rfl⟩
    have answered := TableClient.answered_of_ends_perform endedPerform success
    refine ⟨store.deletion key, deleted.data, ?_, ?_⟩
    · exact List.mem_append_left _ (List.mem_cons_of_mem _ answered)
    · rw [deletedKeys_deletion]
      exact List.mem_cons_self

theorem exists_outcome_of_served {outcome : Except Failure Outcome}
    (ended : (store.deleteByEndpoint endpoint).Ends exchanges outcome)
    (served : ∀ exchange ∈ exchanges, exchange.IsServed) : ∃ deleted, outcome = .ok deleted := by
  cases outcome with
  | ok deleted => exact ⟨deleted, rfl⟩
  | error failure =>
      have fails : (store.deleteByEndpoint endpoint).Fails Exchange.IsServed fun _ => False :=
        fails_deleteByEndpoint (fun _ => TableClient.fails_deleteItem_of_served rfl rfl) endpoint
      exact (not_ends_error_of_fails fails served ended).elim

end Deletion

/-! ## Rows one after the other -/

/-- The row holds its key, which is not empty, as its endpoint. -/
def IsKeyed (row : String × Json) : Prop := row.1 ≠ "" ∧ Table.keyOf "endpoint" row.2 = row.1

instance (row : String × Json) : Decidable (IsKeyed row) :=
  inferInstanceAs (Decidable (row.1 ≠ "" ∧ Table.keyOf "endpoint" row.2 = row.1))

theorem textOr_of_isKeyed {row : String × Json} (keyed : IsKeyed row) :
    Attribute.textOr row.2 "endpoint" .null = .ok (.text row.1) := by
  obtain ⟨key, item⟩ := row
  obtain ⟨nonempty, held⟩ := keyed
  dsimp only at *
  cases item with
  | object members =>
      rw [Table.keyOf, Json.member?] at held
      rw [Attribute.textOr, Attribute.getOr]
      cases found : members.lookup "endpoint" with
      | none =>
          rw [found] at held
          exact (nonempty held.symm).elim
      | some field =>
          rw [found, Option.map_some, Option.getD_some, Table.attributeText] at held
          split at held
          · rename_i text typed
            cases field with
            | object parts =>
                have value : parts.lookup "S" = some (.text text) := typed
                rw [← held]
                change Attribute.getOr (.object parts) "S" .null = .ok (.text text)
                rw [Attribute.getOr, value]
                rfl
            | _ => cases typed
          · exact (nonempty held.symm).elim
  | _ => exact (nonempty held.symm).elim

def removal (count : Nat) : Outcome := .success (.object [("removed", .integer count)]) "ok"

/-- The rows that are deleted, and the outcome: all of them with their count, or those up to the first
deletion that fails with its outcome. -/
inductive Deletions (store : SubscriptionStore) :
    Nat → List (String × Json) → List Exchange → List (String × Json) → Outcome → Prop
  | done {count : Nat} {exchanges : List Exchange}
      (routine : ∀ exchange ∈ exchanges, exchange.request.Routine) :
      Deletions store count [] exchanges [] (removal count)
  | deleted {count : Nat} {row : String × Json} {rest removed : List (String × Json)}
      {first second : List Exchange} {deleted outcome : Outcome}
      (ended : (store.deleteByEndpoint row.1).Ends first (.ok deleted))
      (success : deleted.isSuccess = true)
      (later : Deletions store (count + 1) rest second removed outcome) :
      Deletions store count (row :: rest) (first ++ second) (row :: removed) outcome
  | stopped {count : Nat} {row : String × Json} {rest : List (String × Json)}
      {exchanges : List Exchange} {deleted : Outcome}
      (ended : (store.deleteByEndpoint row.1).Ends exchanges (.ok deleted))
      (failed : deleted.isSuccess = false) :
      Deletions store count (row :: rest) exchanges [] deleted

section Deletions

variable {store : SubscriptionStore} {userId : String} {count : Nat}
  {rows removed : List (String × Json)} {exchanges : List Exchange} {outcome : Outcome}

theorem deletions_of_ends_removeItems {ending : Except Failure Outcome}
    (keyed : ∀ row ∈ rows, IsKeyed row)
    (ended : (store.removeItems userId count (rows.map Prod.snd)).Ends exchanges ending)
    (served : ∀ exchange ∈ exchanges, exchange.IsServed) :
    ∃ removed outcome, ending = .ok outcome ∧
      Deletions store count rows exchanges removed outcome := by
  induction rows generalizing count exchanges with
  | nil =>
      obtain ⟨last, rfl, endedDone⟩ := ends_log_bind.mp ended
      obtain ⟨rfl, rfl⟩ := ends_done.mp endedDone
      exact ⟨[], _, rfl, .done (List.forall_mem_singleton.mpr trivial)⟩
  | cons row rest ih =>
      obtain ⟨keyedRow, keyedRest⟩ := List.forall_mem_cons.mp keyed
      -- The row names its own key, so it is this row that is deleted.
      rw [List.map_cons, removeItems, textOr_of_isKeyed keyedRow] at ended
      have truthy : (Json.text row.1).isTruthy = true := by
        simpa [Json.isTruthy] using keyedRow.1
      simp only [monad_bind_eq, ofExcept_ok_bind, truthy, if_true] at ended
      rcases ends_bind.mp ended with
        ⟨failure, failing, _⟩ | ⟨first, second, deleted, rfl, deletes, endedRest⟩
      · obtain ⟨_, ⟨⟩⟩ := exists_outcome_of_served failing served
      split at endedRest
      · rename_i success
        obtain ⟨removed, outcome, rfl, later⟩ := ih keyedRest endedRest fun exchange made =>
          served exchange (List.mem_append_right _ made)
        exact ⟨row :: removed, outcome, rfl, .deleted deletes success later⟩
      · rename_i failing
        obtain ⟨rfl, rfl⟩ := ends_done.mp endedRest
        rw [List.append_nil]
        exact ⟨[], deleted, rfl, .stopped deletes (by simpa using failing)⟩

theorem Deletions.acknowledged_iff (deletions : Deletions store count rows exchanges removed outcome)
    {key : String} : Acknowledged exchanges key ↔ key ∈ removed.map Prod.fst := by
  induction deletions with
  | done routine =>
      have none := @not_acknowledged_of_inquiring _ key fun exchange made =>
        (routine exchange made).inquiring
      simp [none]
  | deleted ended success _ ih =>
      rw [acknowledged_append, ih, acknowledged_iff_isSuccess ended, List.map_cons, List.mem_cons]
      simp [success]
  | stopped ended failed =>
      rw [acknowledged_iff_isSuccess ended]
      simp [failed]

/-- Either all rows are deleted, or those before the row whose deletion fails. -/
theorem Deletions.all_or_stopped
    (deletions : Deletions store count rows exchanges removed outcome) :
    (removed = rows ∧ outcome = removal (count + rows.length)) ∨
      ∃ row rest earlier last, rows = removed ++ row :: rest ∧ exchanges = earlier ++ last ∧
        (store.deleteByEndpoint row.1).Ends last (.ok outcome) ∧ outcome.isSuccess = false := by
  induction deletions with
  | done routine => exact .inl ⟨rfl, rfl⟩
  | @deleted count row rest removed first second _ _ ended success _ ih =>
      rcases ih with ⟨same, rfl⟩ | ⟨next, after, earlier, last, rfl, rfl, stopped, failed⟩
      · have total : count + 1 + rest.length = count + (row :: rest).length := by
          rw [List.length_cons]
          omega
        exact .inl ⟨by rw [same], by rw [total]⟩
      · exact .inr ⟨next, after, first ++ earlier, last, rfl, (List.append_assoc _ _ _).symm,
          stopped, failed⟩
  | @stopped _ row rest exchanges _ ended failed =>
      exact .inr ⟨row, rest, [], exchanges, rfl, rfl, ended, failed⟩

theorem Deletions.sublist (deletions : Deletions store count rows exchanges removed outcome) :
    removed.Sublist rows := by
  induction deletions with
  | done => exact .slnil
  | deleted _ _ _ ih => exact ih.cons_cons _
  | stopped => exact List.nil_sublist _

/-- Besides what is routine, only deletions from the table are asked for. -/
theorem Deletions.calls (deletions : Deletions store count rows exchanges removed outcome)
    {exchange : Exchange} (made : exchange ∈ exchanges) :
    exchange.request.Inquiring ∨ ∃ call key options, exchange.request = .service call ∧
      call.operation = .deleteItem store.table key options := by
  have ofDeletion {endpoint : String} {within : List Exchange} {result : Except Failure Outcome}
      (ended : (store.deleteByEndpoint endpoint).Ends within result) (member : exchange ∈ within) :
      exchange.request.Inquiring ∨ ∃ call key options, exchange.request = .service call ∧
        call.operation = .deleteItem store.table key options := by
    obtain ⟨request, answer⟩ := exchange
    cases request with
    | service call => exact .inr ⟨call, _, _, rfl, by rw [eq_deletion_of_mem ended member]; rfl⟩
    | _ => exact .inl nofun
  induction deletions with
  | done routine => exact .inl (routine exchange made).inquiring
  | deleted ended _ _ ih =>
      rcases List.mem_append.mp made with first | second
      · exact ofDeletion ended first
      · exact ih second
  | stopped ended _ => exact ofDeletion ended made

end Deletions

end SubscriptionStore

/-! ## The rows that are left -/

theorem Table.mem_without {table : Table} (distinct : (table.items.map Prod.fst).Nodup)
    {removed : List (String × Json)} (stored : ∀ row ∈ removed, row ∈ table.items)
    {row : String × Json} :
    row ∈ (table.without (removed.map Prod.fst)).items ↔ row ∈ table.items ∧ row ∉ removed := by
  rw [Table.without, List.mem_filter]
  refine and_congr_right fun member => ?_
  rw [Bool.not_eq_true', List.contains_eq_mem, decide_eq_false_iff_not, not_iff_not]
  constructor
  · intro sameKey
    obtain ⟨other, isRemoved, same⟩ := List.mem_map.mp sameKey
    rwa [← List.inj_on_of_nodup_map distinct (stored other isRemoved) member same]
  · exact List.mem_map_of_mem

theorem Table.without_congr (table : Table) {first second : List String}
    (same : ∀ key, key ∈ first ↔ key ∈ second) : table.without first = table.without second := by
  rw [Table.without, Table.without]
  congr 1
  refine List.filter_congr fun row _ => ?_
  rw [Bool.eq_iff_iff]
  simp [same]

theorem Store.Serving.pageSize_eq {store after : Store} {exchanges : List Exchange}
    {deleted : List String} (serving : store.Serving exchanges deleted after) :
    after.pageSize = store.pageSize := by
  induction serving with
  | nil => rfl
  | elsewhere _ _ ih | failed _ _ ih => exact ih
  | @carriedOut store _ call _ _ _ _ _ _ _ ih =>
      rw [ih]
      cases call.operation <;> rfl

namespace SubscriptionStore

/-- The tables can be queried for the user, and every row of the table holds its key. -/
structure Removable (store : SubscriptionStore) (tables : Store) (userId : String) : Prop where
  distinct : ((tables.table store.table).items.map Prod.fst).Nodup
  keyed : ∀ row ∈ (tables.table store.table).items, IsKeyed row
  sized : 0 < tables.pageSize
  enough : (store.rowsOf tables userId).length < store.tables.pageLimit

/-- The rows are gone from the table, and nothing else has changed. -/
structure Removed (store : SubscriptionStore) (tables after : Store)
    (removed : List (String × Json)) : Prop where
  table : after.table store.table = (tables.table store.table).without (removed.map Prod.fst)
  rows : ∀ row, row ∈ (after.table store.table).items ↔
    row ∈ (tables.table store.table).items ∧ row ∉ removed
  elsewhere : ∀ name ≠ store.table, after.table name = tables.table name

/-- What comes of removing the subscriptions of a user. -/
inductive Removal (store : SubscriptionStore) (tables : Store) (userId : String)
    (exchanges : List Exchange) : Outcome → Store → Prop
  /-- The query failed, and nothing has changed. -/
  | unqueried {queried : Outcome} (asked : (store.queryUser userId).Ends exchanges (.ok queried))
      (failed : queried.isSuccess = false) : Removal store tables userId exchanges queried tables
  /-- All rows of the user are gone and counted. -/
  | all {after : Store} (removed : store.Removed tables after (store.rowsOf tables userId))
      (none : store.rowsOf after userId = []) :
      Removal store tables userId exchanges (removal (store.rowsOf tables userId).length) after
  /-- A deletion failed, and the rows before it are gone. -/
  | stopped {before rest : List (String × Json)} {row : String × Json}
      {earlier last : List Exchange} {deleted : Outcome} {after : Store}
      (rows : store.rowsOf tables userId = before ++ row :: rest)
      (removed : store.Removed tables after before) (split : exchanges = earlier ++ last)
      (ended : (store.deleteByEndpoint row.1).Ends last (.ok deleted))
      (failed : deleted.isSuccess = false) :
      Removal store tables userId exchanges deleted after

/-- The exchanges of a call lead from the tables before it to those after it.  A deletion that is not
answered removes nothing. -/
structure Called (store : SubscriptionStore) (userId : String) (tables : Store)
    (exchanges : List Exchange) (outcome : Except Failure Outcome) (after : Store) : Prop where
  ended : (store.removeUser userId).Ends exchanges outcome
  served : ∃ deleted, tables.Serving exchanges deleted after ∧
    ∀ key ∈ deleted, Acknowledged exchanges key

section Removal

variable {store : SubscriptionStore} {tables after : Store} {userId : String}
  {exchanges : List Exchange} {deleted : List String}

theorem isUsers_of_mem_rowsOf {row : String × Json} (member : row ∈ store.rowsOf tables userId) :
    row ∈ (tables.table store.table).items :=
  (List.mem_filter.mp member).1

/-- When the deleted keys are those of rows of the table, these rows are gone. -/
theorem removed_of_serving (removable : store.Removable tables userId)
    {removed : List (String × Json)} (stored : ∀ row ∈ removed, row ∈ store.rowsOf tables userId)
    (serving : tables.Serving exchanges deleted after)
    (calls : ∀ exchange ∈ exchanges, exchange.request.Inquiring ∨
      ∃ call key options, exchange.request = .service call ∧
        call.operation = .deleteItem store.table key options)
    (same : ∀ key, key ∈ deleted ↔ key ∈ removed.map Prod.fst) :
    store.Removed tables after removed := by
  obtain ⟨here, elsewhere⟩ := serving.table_eq calls
  rw [Table.without_congr _ same] at here
  constructor
  · exact here
  · intro row
    rw [here]
    exact Table.mem_without removable.distinct fun other member =>
      isUsers_of_mem_rowsOf (stored other member)
  · exact elsewhere

theorem inquiring_queryUser : (store.queryUser userId).Makes Request.Inquiring := by
  have asked : Store.queriedUser (queryOptions userId) = Attribute.ofText userId := rfl
  refine TableClient.makes_query (fun _ => Request.Routine.inquiring) (fun options _ => ?_) asked
  rintro call ⟨⟩
  exact ⟨store.table, _, rfl⟩

/-- When the first exchanges only ask and every deletion is answered, the deleted keys are those of
the answered deletions afterwards. -/
theorem mem_deleted_iff {querying removing : List Exchange} {key : String}
    (inquiring : ∀ exchange ∈ querying, exchange.request.Inquiring)
    (serving : tables.Serving removing deleted after)
    (acknowledged : ∀ other ∈ deleted, Acknowledged (querying ++ removing) other) :
    key ∈ deleted ↔ Acknowledged removing key := by
  constructor
  · intro member
    rcases acknowledged_append.mp (acknowledged key member) with before | after
    · exact (not_acknowledged_of_inquiring inquiring before).elim
    · exact after
  · rintro ⟨call, response, made, deletes⟩
    exact serving.mem_of_acknowledged made deletes

theorem removal_of_called (removable : store.Removable tables userId)
    {outcome : Except Failure Outcome} (called : store.Called userId tables exchanges outcome after) :
    ∃ given, outcome = .ok given ∧ store.Removal tables userId exchanges given after := by
  obtain ⟨ended, deleted, serving, acknowledged⟩ := called
  have plain : TableClient.IsPlain (queryOptions userId) := ⟨rfl, rfl⟩
  rcases ends_bind.mp ended with
    ⟨failure, failing, rfl⟩ | ⟨querying, removing, queried, rfl, asked, endedRest⟩
  · obtain ⟨_, ⟨⟩, _⟩ := TableClient.reports_of_ends_query plain rfl removable.distinct
      removable.sized removable.enough serving failing
  have inquiring : ∀ exchange ∈ querying, exchange.request.Inquiring :=
    fun exchange made => inquiring_queryUser.of_mem asked made
  obtain ⟨servingQuery, servingRest⟩ := serving.split_inquiring inquiring
  obtain ⟨_, ⟨⟩, told, _⟩ := TableClient.reports_of_ends_query plain rfl removable.distinct
    removable.sized removable.enough servingQuery asked
  split at endedRest
  · rename_i success
    have items : itemsOf queried = (store.rowsOf tables userId).map Prod.snd := by
      rw [itemsOf, told success]
      rfl
    rw [items] at endedRest
    obtain ⟨removed, given, rfl, deletions⟩ := deletions_of_ends_removeItems
      (fun row member => removable.keyed row (isUsers_of_mem_rowsOf member)) endedRest
      fun exchange made => servingRest.isServed made
    refine ⟨given, rfl, ?_⟩
    have same (key : String) : key ∈ deleted ↔ key ∈ removed.map Prod.fst := by
      rw [mem_deleted_iff inquiring servingRest acknowledged, deletions.acknowledged_iff]
    have gone := removed_of_serving removable (fun row member => deletions.sublist.subset member)
      servingRest (fun exchange made => deletions.calls made) same
    rcases deletions.all_or_stopped with ⟨rfl, rfl⟩ | ⟨row, rest, earlier, last, rows, rfl, stopped⟩
    · -- A row of the user that is left would have been among those that were deleted.
      rw [Nat.zero_add]
      refine .all gone (List.filter_eq_nil_iff.mpr fun row member isUsers => ?_)
      obtain ⟨wasStored, notRemoved⟩ := (gone.rows row).mp member
      exact notRemoved (List.mem_filter.mpr ⟨wasStored, isUsers⟩)
    · exact .stopped rows gone (List.append_assoc _ _ _).symm stopped.1 stopped.2
  · rename_i failing
    obtain ⟨rfl, rfl⟩ := ends_done.mp endedRest
    obtain ⟨rfl, _⟩ := servingRest.eq_of_inquiring (List.forall_mem_nil _)
    rw [List.append_nil]
    exact ⟨queried, rfl, .unqueried asked (by simpa using failing)⟩

/-! ## Calls one after the other -/

/-- The rows of everybody else. -/
def othersOf (store : SubscriptionStore) (tables : Store) (userId : String) :
    List (String × Json) :=
  (tables.table store.table).items.filter fun row =>
    !((row.2.member? "user_id").getD .null).same (Attribute.ofText userId)

theorem mem_othersOf {row : String × Json} :
    row ∈ store.othersOf tables userId ↔
      row ∈ (tables.table store.table).items ∧ row ∉ store.rowsOf tables userId := by
  rw [othersOf, rowsOf, Table.ofUser, List.mem_filter, List.mem_filter]
  refine and_congr_right fun stored => ?_
  simp [stored]

/-- Nothing but rows of the user is missing. -/
structure Remains (store : SubscriptionStore) (userId : String) (tables after : Store) : Prop where
  keyName : (after.table store.table).keyName = (tables.table store.table).keyName
  rows : (after.table store.table).items.Sublist (tables.table store.table).items
  others : store.othersOf after userId = store.othersOf tables userId
  elsewhere : ∀ name ≠ store.table, after.table name = tables.table name
  pageSize : after.pageSize = tables.pageSize

theorem Remains.refl (store : SubscriptionStore) (userId : String) (tables : Store) :
    store.Remains userId tables tables :=
  ⟨rfl, List.Sublist.refl _, rfl, fun _ _ => rfl, rfl⟩

theorem Remains.trans {middle : Store} (first : store.Remains userId tables middle)
    (second : store.Remains userId middle after) : store.Remains userId tables after where
  keyName := second.keyName.trans first.keyName
  rows := second.rows.trans first.rows
  others := second.others.trans first.others
  elsewhere name other := (second.elsewhere name other).trans (first.elsewhere name other)
  pageSize := second.pageSize.trans first.pageSize

theorem Remains.removable (remains : store.Remains userId tables after)
    (removable : store.Removable tables userId) : store.Removable after userId := by
  constructor
  · exact removable.distinct.sublist (remains.rows.map Prod.fst)
  · exact fun row member => removable.keyed row (remains.rows.subset member)
  · rw [remains.pageSize]
    exact removable.sized
  · exact Nat.lt_of_le_of_lt (remains.rows.filter _).length_le removable.enough

theorem Removed.remains (removable : store.Removable tables userId)
    {removed : List (String × Json)} (gone : store.Removed tables after removed)
    (stored : ∀ row ∈ removed, row ∈ store.rowsOf tables userId)
    (sized : after.pageSize = tables.pageSize) : store.Remains userId tables after := by
  have rows : (after.table store.table).items.Sublist (tables.table store.table).items := by
    rw [gone.table]
    exact List.filter_sublist
  constructor
  · rw [gone.table]
    rfl
  · exact rows
  · rw [othersOf, gone.table, Table.without, List.filter_filter]
    refine List.filter_congr fun row member => ?_
    rw [Bool.and_eq_left_iff_imp]
    intro isOthers
    have other : row ∈ store.othersOf tables userId := List.mem_filter.mpr ⟨member, isOthers⟩
    have kept := (Table.mem_without removable.distinct fun row isRemoved =>
      isUsers_of_mem_rowsOf (stored row isRemoved)).mpr
        ⟨member, fun isRemoved => (mem_othersOf.mp other).2 (stored row isRemoved)⟩
    exact (List.mem_filter.mp kept).2
  · exact gone.elsewhere
  · exact sized

theorem Called.remains (removable : store.Removable tables userId)
    {outcome : Except Failure Outcome}
    (called : store.Called userId tables exchanges outcome after) :
    store.Remains userId tables after := by
  obtain ⟨given, rfl, removal⟩ := removal_of_called removable called
  obtain ⟨_, serving, _⟩ := called.served
  cases removal with
  | unqueried _ _ => exact .refl _ _ _
  | all removed _ => exact removed.remains removable (fun _ member => member) serving.pageSize_eq
  | stopped rows removed _ _ _ =>
      refine removed.remains removable (fun row member => ?_) serving.pageSize_eq
      rw [rows]
      exact List.mem_append_left _ member

theorem Remains.of_calls {middle : Store} (removable : store.Removable tables userId)
    (calls : Relation.ReflTransGen
      (fun before next => ∃ exchanges outcome, store.Called userId before exchanges outcome next)
      tables middle) :
    store.Remains userId tables middle := by
  induction calls with
  | refl => exact .refl _ _ _
  | tail _ call ih =>
      obtain ⟨exchanges, outcome, called⟩ := call
      exact ih.trans (called.remains (ih.removable removable))

/-- A call that succeeds leaves the rows of everybody else. -/
theorem Called.table_eq (removable : store.Removable tables userId) {given : Outcome}
    (called : store.Called userId tables exchanges (.ok given) after)
    (success : given.isSuccess = true) :
    after.table store.table =
      ⟨(tables.table store.table).keyName, store.othersOf tables userId⟩ := by
  have remains := called.remains removable
  obtain ⟨_, ⟨⟩, removal⟩ := removal_of_called removable called
  cases removal with
  | unqueried _ failed | stopped _ _ _ _ failed =>
      rw [failed] at success
      cases success
  | all removed none =>
      have all : store.othersOf after userId = (after.table store.table).items := by
        refine List.filter_eq_self.mpr fun row member => ?_
        have other : row ∈ store.othersOf after userId :=
          mem_othersOf.mpr ⟨member, by rw [none]; exact List.not_mem_nil⟩
        exact (List.mem_filter.mp other).2
      rw [← remains.others, all, ← remains.keyName]

/-- Removing the subscriptions of a user removes all rows of the user or those before the first
deletion that fails.  However calls have failed before it, one that succeeds leaves the same tables
as if there had been no other. -/
theorem removed_up_to_failure (removable : store.Removable tables userId) :
    (∀ exchanges outcome after, store.Called userId tables exchanges outcome after →
      ∃ given, outcome = .ok given ∧ store.Removal tables userId exchanges given after) ∧
    ∀ middle, Relation.ReflTransGen
        (fun before next => ∃ exchanges outcome, store.Called userId before exchanges outcome next)
        tables middle →
      ∀ exchanges given after, store.Called userId middle exchanges (.ok given) after →
        given.isSuccess = true →
      ∀ others once onceAfter, store.Called userId tables others (.ok once) onceAfter →
        once.isSuccess = true →
      ∀ name, after.table name = onceAfter.table name := by
  constructor
  · intro exchanges outcome after called
    exact removal_of_called removable called
  · intro middle calls exchanges given after called success others once onceAfter calledOnce
      successOnce name
    have remains := Remains.of_calls removable calls
    by_cases same : name = store.table
    · subst same
      rw [called.table_eq (remains.removable removable) success,
        calledOnce.table_eq removable successOnce, remains.keyName, remains.others]
    · rw [(called.remains (remains.removable removable)).elsewhere name same,
        remains.elsewhere name same, (calledOnce.remains removable).elsewhere name same]

end Removal

end SubscriptionStore

/-! ## A deletion that fails -/

namespace Sample

/-- Answers of a service that does not get to delete the item under a key. -/
def answerRefusing (key : String) (request : Request) (store : Store) : request.Answer × Store :=
  match request with
  | .service call =>
      if call.operation.deletedKeys.contains key then
        (.error (.serviceTransport "EndpointConnectionError" "unreachable"), store)
      else store.respond call.operation
  | request => (answer request, store)

theorem exists_acknowledged_run {α : Type} (key : String) (program : Program α) (tables : Store) :
    ∃ deleted, tables.Serving (program.exchanges (answerRefusing key) tables) deleted
        (program.run (answerRefusing key) tables).2 ∧
      ∀ other ∈ deleted, Acknowledged (program.exchanges (answerRefusing key) tables) other := by
  induction program generalizing tables with
  | done value => exact ⟨[], .nil _, List.forall_mem_nil _⟩
  | fail failure => exact ⟨[], .nil _, List.forall_mem_nil _⟩
  | ask request next ih =>
      rw [exchanges, run]
      obtain ⟨deleted, later, acknowledged⟩ :=
        ih (answerRefusing key request tables).1 (answerRefusing key request tables).2
      have onward (exchange : Exchange) (other : String) (member : other ∈ deleted) :=
        (acknowledged other member).mono (List.subset_cons_self exchange _)
      cases request with
      | service call =>
          by_cases refused : call.operation.deletedKeys.contains key = true
          · have answered : answerRefusing key (.service call) tables = (.error _, tables) :=
              if_pos refused
            rw [answered] at later onward ⊢
            exact ⟨deleted, .failed ⟨rfl, _, rfl⟩ later, onward _⟩
          · have answered : answerRefusing key (.service call) tables =
                tables.respond call.operation := if_neg refused
            have own := tables.isServed_respond call
            rcases tables.respond_cases call.operation with
              ⟨response, responded, admitted, shows⟩ | ⟨failure, responded⟩
            · rw [answered, responded] at later onward ⊢
              rw [responded] at own
              refine ⟨_, .carriedOut admitted ?_ own later, fun other member => ?_⟩
              · rintro _ ⟨⟩
                exact shows
              · rcases List.mem_append.mp member with first | rest
                · exact ⟨call, response, List.mem_cons_self, first⟩
                · exact onward _ other rest
            · rw [answered, responded] at later onward ⊢
              rw [responded] at own
              exact ⟨deleted, .failed own later, onward _⟩
      | _ =>
          refine ⟨deleted, .elsewhere ?_ later, onward _⟩
          rintro _ ⟨⟩

/-- The rows of the uneven tables and one of another user. -/
def crowdedTables : Store :=
  ⟨[("subscriptions", ⟨"endpoint", (unevenTables.table "subscriptions").items ++
    [("/other", .object
      [("endpoint", Attribute.ofText "/other"), ("user_id", Attribute.ofText "v")])]⟩)], 2⟩

def removing (key : String) (tables : Store) : List Exchange :=
  (browserStore.removeUser "u").exchanges (answerRefusing key) tables

def removed (key : String) (tables : Store) : Except Failure Outcome × Store :=
  (browserStore.removeUser "u").run (answerRefusing key) tables

theorem called_removed (key : String) (tables : Store) :
    browserStore.Called "u" tables (removing key tables) (removed key tables).1
      (removed key tables).2 :=
  ⟨ends_run _ _ _, exists_acknowledged_run key _ tables⟩

end Sample

/-- A call that cannot delete the third of the user's rows has deleted two of them.  The next one
deletes the rest. -/
theorem removed_after_refusal :
    ∃ stopped given : Outcome,
      (Sample.removed "/3" Sample.crowdedTables).1 = .ok stopped ∧ stopped.isSuccess = false ∧
      Sample.browserStore.Removal Sample.crowdedTables "u"
        (Sample.removing "/3" Sample.crowdedTables) stopped
        (Sample.removed "/3" Sample.crowdedTables).2 ∧
      (Sample.removed "" (Sample.removed "/3" Sample.crowdedTables).2).1 = .ok given ∧
      given.isSuccess = true ∧
      ∀ name, (Sample.removed "" (Sample.removed "/3" Sample.crowdedTables).2).2.table name =
        (Sample.removed "" Sample.crowdedTables).2.table name := by
  have failed : passes (fun given => !given.isSuccess)
      (Sample.removed "/3" Sample.crowdedTables).1 = true := by
    decide +kernel
  have finished : passes Outcome.isSuccess
      (Sample.removed "" (Sample.removed "/3" Sample.crowdedTables).2).1 = true := by
    decide +kernel
  have atOnce : passes Outcome.isSuccess (Sample.removed "" Sample.crowdedTables).1 = true := by
    decide +kernel
  have keyed : ∀ row ∈ (Sample.crowdedTables.table "subscriptions").items,
      SubscriptionStore.IsKeyed row := by
    decide +kernel
  have removable : Sample.browserStore.Removable Sample.crowdedTables "u" :=
    ⟨by decide +kernel, keyed, by decide, by decide +kernel⟩
  obtain ⟨stopped, isStopped, unsuccessful⟩ := exists_of_passes failed
  obtain ⟨given, isGiven, success⟩ := exists_of_passes finished
  obtain ⟨once, isOnce, successOnce⟩ := exists_of_passes atOnce
  have first := Sample.called_removed "/3" Sample.crowdedTables
  have second := Sample.called_removed "" (Sample.removed "/3" Sample.crowdedTables).2
  have alone := Sample.called_removed "" Sample.crowdedTables
  rw [isGiven] at second
  rw [isOnce] at alone
  obtain ⟨removes, converges⟩ := SubscriptionStore.removed_up_to_failure removable
  obtain ⟨_, same, removal⟩ := removes _ _ _ first
  cases isStopped.symm.trans same
  refine ⟨stopped, given, isStopped, by simpa using unsuccessful, removal, isGiven, success, ?_⟩
  exact converges _ (.single ⟨_, _, first⟩) _ _ _ second success _ _ _ alone successOnce

end AlertRelay
