import AlertRelay.Proofs.PushEffects

/-!
# Pages of a query

The size of a page shows in the calls of a query only: each page is asked for like the first one,
from the key on that the page before it told.  What the query gives are the items of a single page
that is large enough, or the failure of a page.
-/

namespace AlertRelay

open Program

/-- A page that is large enough for the items that remain shows them all and tells no key. -/
theorem Table.page_of_length_le (table : Table) (user : Json) (start : Option String) {size : Nat}
    (large : (Table.after start (table.ofUser user)).length ≤ size) :
    table.page user start size =
      .object [("Items", .list ((Table.after start (table.ofUser user)).map Prod.snd))] := by
  rw [page]
  generalize Table.after start (table.ofUser user) = remaining at *
  rw [List.take_of_length_le large]
  cases remaining.getLast? with
  | none => rfl
  | some last => exact if_neg (Nat.lt_irrefl _)

/-- The same tables behind a service with pages of another size. -/
def Store.withPageSize (store : Store) (size : Nat) : Store := { store with pageSize := size }

namespace TableClient

theorem QueryPage.Performed.eq_sent {tables : TableClient} {name : String} {page : QueryPage}
    (performed : page.Performed tables name) {call : ServiceCall} {answer : Except Failure Json}
    (made : ⟨.service call, answer⟩ ∈ page.exchanges) :
    call = tables.sent (.query name page.options) := by
  have makes : (tables.perform (.query name page.options)).Makes fun request =>
      request.Routine ∨ request = .service (tables.sent (.query name page.options)) :=
    makes_perform (fun _ => .inl) (.inr rfl)
  exact makes.call_eq performed made

end TableClient

namespace SubscriptionStore

open TableClient

/-- The subscriptions in items, or the failure of the first item that cannot be read. -/
def foundIn : List Json → Except Failure (List PushSubscription)
  | [] => .ok []
  | item :: rest =>
      (readingOf item).bind fun found => (foundIn rest).map (found.toList ++ ·)

theorem ends_readItems {items : List Json} {exchanges : List Exchange}
    {outcome : Except Failure (List PushSubscription)}
    (ended : (readItems items).Ends exchanges outcome) : outcome = foundIn items := by
  induction items generalizing exchanges outcome with
  | nil => exact (ends_done.mp ended).2
  | cons item rest ih =>
      rw [foundIn, readingOf, dataOf]
      rcases ends_bind.mp ended with ⟨failure, unheld, rfl⟩ | ⟨_, reading, data, _, held, endedRead⟩
      · rw [← (ends_ofExcept.mp unheld).2]
        rfl
      rw [← (ends_ofExcept.mp held).2, Except.bind]
      rcases ends_bind.mp endedRead with
        ⟨failure, failed, rfl⟩ | ⟨_, later, found, _, wasRead, endedRest⟩
      · rw [← ends_read failed]
        rfl
      rw [← ends_read wasRead, Except.bind]
      rcases ends_bind.mp endedRest with ⟨failure, failed, rfl⟩ | ⟨_, _, others, _, more, endedDone⟩
      · rw [← ih failed]
        rfl
      · rw [← ih more]
        exact (ends_done.mp endedDone).2

/-- The exchanges are those for the pages of a query for the user, which follow each other, and
others that ask nothing of the service. -/
structure Paged (store : SubscriptionStore) (userId : String) (rows : Nat)
    (exchanges : List Exchange) (pages : List QueryPage) : Prop where
  exchanged : ∃ before after, exchanges = before ++ pages.flatMap QueryPage.exchanges ++ after ∧
    ∀ exchange ∈ before ++ after, exchange.request.Routine
  follow : QueryPage.Follow store.tables store.table (queryOptions userId) (queryOptions userId)
    pages
  calls : ∀ page ∈ pages, ∀ call answer, ⟨.service call, answer⟩ ∈ page.exchanges →
    call = store.tables.sent (.query store.table page.options)
  few : pages.length ≤ rows + 1

theorem Paged.onward {store : SubscriptionStore} {userId : String} {rows : Nat}
    {exchanges later : List Exchange} {pages : List QueryPage}
    (paged : store.Paged userId rows exchanges pages)
    (routine : ∀ exchange ∈ later, exchange.request.Routine) :
    store.Paged userId rows (exchanges ++ later) pages := by
  obtain ⟨⟨before, after, rfl, routineAround⟩, follow, calls, few⟩ := paged
  constructor
  · refine ⟨before, after ++ later, by simp, fun exchange made => ?_⟩
    rw [← List.append_assoc] at made
    rcases List.mem_append.mp made with around | last
    · exact routineAround exchange around
    · exact routine exchange last
  · exact follow
  · exact calls
  · exact few

section Pages

variable {store : SubscriptionStore} {tables after : Store} {userId : String} {size : Nat}
  {exchanges : List Exchange} {deleted : List String}

/-- Nothing about the pages but their number depends on their size. -/
theorem paged_of_ends_queryUser {outcome : Except Failure Outcome}
    (distinct : ((tables.table store.table).items.map Prod.fst).Nodup)
    (enough : (store.rowsOf tables userId).length < store.tables.pageLimit) (sized : 0 < size)
    (serving : (tables.withPageSize size).Serving exchanges deleted after)
    (ended : (store.queryUser userId).Ends exchanges outcome) :
    ∃ pages, store.Paged userId (store.rowsOf tables userId).length exchanges pages ∧
      QueryPage.Collected ((store.rowsOf tables userId).map Prod.snd) pages outcome := by
  have plain : IsPlain (queryOptions userId) := ⟨rfl, rfl⟩
  have distinctRows : (((tables.withPageSize size).table store.table).items.map Prod.fst).Nodup :=
    distinct
  obtain ⟨started, pages, finished, rfl, routine, follow, few, collected⟩ :=
    collected_of_ends_query plain rfl distinctRows sized enough serving ended
  refine ⟨pages, ?_, collected⟩
  constructor
  · exact ⟨[started], finished, rfl, routine⟩
  · exact follow
  · intro page member call answer made
    exact (follow.performed member).eq_sent made
  · exact few

/-- A query for a user goes through pages of any size and gives the items of a page that is large
enough for all rows, or the failure of a page.  What the user's subscriptions are found to be depends
on these items alone. -/
theorem collected_whatever_size (store : SubscriptionStore) (tables : Store) (userId : String)
    (distinct : ((tables.table store.table).items.map Prod.fst).Nodup)
    (enough : (store.rowsOf tables userId).length < store.tables.pageLimit) :
    let items := (store.rowsOf tables userId).map Prod.snd
    (∀ size, items.length ≤ size →
      (tables.withPageSize size).pageOf store.table (queryOptions userId) =
        .object [("Items", .list items)]) ∧
    ∀ size exchanges deleted after, 0 < size →
      (tables.withPageSize size).Serving exchanges deleted after →
      (∀ outcome, (store.queryUser userId).Ends exchanges outcome →
        ∃ pages, store.Paged userId items.length exchanges pages ∧
          QueryPage.Collected items pages outcome) ∧
      ∀ outcome, (store.findByUser userId).Ends exchanges outcome →
        ∃ pages queried, store.Paged userId items.length exchanges pages ∧
          QueryPage.Collected items pages (.ok queried) ∧
          outcome = if queried.isSuccess then foundIn items
            else .error (.unread "query push subscriptions" queried.message) := by
  intro items
  have counted : items.length = (store.rowsOf tables userId).length := List.length_map _
  rw [counted]
  constructor
  · intro size large
    exact Table.page_of_length_le (tables.table store.table) (Attribute.ofText userId) none large
  · intro size exchanges deleted after sized serving
    constructor
    · intro outcome ended
      exact paged_of_ends_queryUser distinct enough sized serving ended
    · intro outcome ended
      -- The query always comes to an outcome, so only an item that cannot be read makes it fail.
      rcases ends_bind.mp ended with
        ⟨failure, failing, rfl⟩ | ⟨querying, reading, queried, rfl, found, endedReading⟩
      · obtain ⟨_, _, ⟨⟩⟩ := paged_of_ends_queryUser distinct enough sized serving failing
      obtain ⟨_, _, _, _, servingQuery, _⟩ := serving.split
      obtain ⟨pages, paged, collected⟩ :=
        paged_of_ends_queryUser distinct enough sized servingQuery found
      have read : outcome = (if queried.isSuccess then foundIn items
            else .error (.unread "query push subscriptions" queried.message)) ∧
          ∀ exchange ∈ reading, exchange.request.Routine := by
        split at endedReading
        · rename_i success
          have all : itemsOf queried = items := by
            cases collected with
            | all good => rfl
            | failed good bad => simp [bad] at success
          rw [if_pos success, ← all]
          exact ⟨ends_readItems endedReading, fun exchange made =>
            (makes_readItems (fun _ routine => routine) _).of_mem endedReading made⟩
        · rename_i failing
          obtain ⟨rfl, rfl⟩ := ends_fail.mp endedReading
          rw [if_neg failing]
          exact ⟨rfl, List.forall_mem_nil _⟩
      exact ⟨pages, queried, paged.onward read.2, collected, read.1⟩

end Pages

end SubscriptionStore

namespace Sample

/-- The rows of two browsers with data between them that is no JSON. -/
def unevenTables : Store := leftTables [leftBy "/1", ("/2", "garbage"), leftBy "/3"]

end Sample

/-- With one row on each page, both browsers are found through at most four pages. -/
theorem found_through_small_pages :
    ∃ exchanges deleted after found pages,
      (Sample.unevenTables.withPageSize 1).Serving exchanges deleted after ∧
      (Sample.browserStore.findByUser "u").Ends exchanges (.ok found) ∧
      found.map PushSubscription.endpoint = ["/1", "/3"] ∧
      Sample.browserStore.Paged "u" 3 exchanges pages := by
  have passed : passes (fun found => found.map PushSubscription.endpoint == ["/1", "/3"])
      ((Sample.browserStore.findByUser "u").run (answerWith Sample.answer)
        (Sample.unevenTables.withPageSize 1)).1 = true := by
    decide +kernel
  obtain ⟨found, ended, endpoints⟩ := ends_of_passes passed
  obtain ⟨deleted, serving⟩ := exists_serving_run Sample.answer
    (Sample.browserStore.findByUser "u") (Sample.unevenTables.withPageSize 1)
  have distinct : ((Sample.unevenTables.table "subscriptions").items.map Prod.fst).Nodup := by
    decide
  have collected := (SubscriptionStore.collected_whatever_size Sample.browserStore
    Sample.unevenTables "u" distinct (by decide +kernel)).2 1 _ deleted _ (by decide) serving
  obtain ⟨pages, _, paged, _⟩ := collected.2 _ ended
  exact ⟨_, deleted, _, found, pages, serving, ended, by simpa using endpoints, paged⟩

end AlertRelay
