import AlertRelay.Proofs.Surroundings

/-!
# Queries that are served

A service that shows its tables answers every query with the current page.  Going through the pages
then collects all items of the user in the order in which they are stored, whatever the size of a
page, unless the service fails.
-/

namespace AlertRelay

open Program

namespace Operation

/-- The keys whose items an operation deletes. -/
def deletedKeys : Operation → List String
  | deleteItem _ key _ => [Table.askedKey key]
  | _ => []

end Operation

/-- A request that changes no table: of the service it asks at most for a page of a query. -/
def Request.Inquiring (request : Request) : Prop :=
  ∀ call, request = .service call → ∃ name options, call.operation = .query name options

theorem Request.Routine.inquiring {request : Request} (routine : request.Routine) :
    request.Inquiring := by
  rintro call rfl
  exact routine.elim

namespace Table

/-- A table without the items under the given keys. -/
def without (table : Table) (keys : List String) : Table :=
  { table with items := table.items.filter fun row => !keys.contains row.1 }

@[simp]
theorem without_nil (table : Table) : table.without [] = table := by
  have all : (table.items.filter fun row => !([] : List String).contains row.1) = table.items :=
    List.filter_eq_self.mpr fun _ _ => rfl
  rw [without, all]

theorem delete_without (table : Table) (key : String) (keys : List String) :
    (table.delete key).without keys = table.without (key :: keys) := by
  rw [without, without, delete, List.filter_filter]
  congr 1
  refine List.filter_congr fun row _ => ?_
  by_cases same : row.1 = key
  · simp [same]
  · simp [same, Bool.and_comm]

end Table

namespace Store

def pageOf (store : Store) (name : String) (options : List (String × Json)) : Json :=
  (store.table name).page (queriedUser options) (startKey options) store.pageSize

/-- The answer shows what the tables hold. -/
def Shows (store : Store) (operation : Operation) (response : Json) : Prop :=
  store.Tells operation response ∧
    ∀ name options, operation = .query name options → response = store.pageOf name options

/-- The tables before and after a series of exchanges with a service that shows them, and the keys
whose items it has deleted meanwhile.  It fails in its own ways only.  A call that fails may have
been carried out nevertheless. -/
inductive Serving : Store → List Exchange → List String → Store → Prop
  | nil (store : Store) : Serving store [] [] store
  | elsewhere {store after : Store} {exchange : Exchange} {exchanges : List Exchange}
      {deleted : List String} (noCall : ∀ call, exchange.request ≠ .service call)
      (later : Serving store exchanges deleted after) :
      Serving store (exchange :: exchanges) deleted after
  | failed {store after : Store} {call : ServiceCall} {failure : Failure}
      {exchanges : List Exchange} {deleted : List String}
      (own : Exchange.IsServed ⟨.service call, .error failure⟩)
      (later : Serving store exchanges deleted after) :
      Serving store (⟨.service call, .error failure⟩ :: exchanges) deleted after
  | carriedOut {store after : Store} {call : ServiceCall} {answer : Except Failure Json}
      {exchanges : List Exchange} {deleted : List String}
      (admitted : store.admits call.operation = true)
      (shown : ∀ response, answer = .ok response → store.Shows call.operation response)
      (own : Exchange.IsServed ⟨.service call, answer⟩)
      (later : Serving (store.carriedOut call.operation) exchanges deleted after) :
      Serving store (⟨.service call, answer⟩ :: exchanges) (call.operation.deletedKeys ++ deleted)
        after

section Serving

variable {store after : Store} {exchanges : List Exchange} {deleted : List String}

/-- Such a service is one of the table services. -/
theorem Serving.through (serving : store.Serving exchanges deleted after) :
    store.Through exchanges after := by
  induction serving with
  | nil store => exact .nil store
  | elsewhere noCall _ ih => exact .cons (.elsewhere noCall) ih
  | failed _ _ ih => exact .cons (.service (.failed _ _)) ih
  | @carriedOut _ _ call answer _ _ admitted shown _ _ ih =>
      cases answer with
      | ok response => exact .cons (.service (.answered admitted (shown response rfl).1)) ih
      | error failure => exact .cons (.service (.unacknowledged admitted failure)) ih

theorem Serving.isServed (serving : store.Serving exchanges deleted after) {exchange : Exchange}
    (made : exchange ∈ exchanges) : exchange.IsServed := by
  induction serving with
  | nil => cases made
  | elsewhere noCall _ ih =>
      rcases List.mem_cons.mp made with rfl | rest
      · obtain ⟨request, answer⟩ := exchange
        cases request with
        | service call => exact (noCall call rfl).elim
        | _ => trivial
      · exact ih rest
  | failed own _ ih | carriedOut _ _ own _ ih =>
      rcases List.mem_cons.mp made with rfl | rest
      · exact own
      · exact ih rest

theorem Serving.split {first second : List Exchange}
    (serving : store.Serving (first ++ second) deleted after) :
    ∃ middle before later, deleted = before ++ later ∧ store.Serving first before middle ∧
      middle.Serving second later after := by
  induction first generalizing store deleted with
  | nil => exact ⟨store, [], deleted, rfl, .nil _, serving⟩
  | cons exchange first ih =>
      cases serving with
      | elsewhere noCall rest =>
          obtain ⟨middle, before, later, rfl, atFirst, atSecond⟩ := ih rest
          exact ⟨middle, before, later, rfl, .elsewhere noCall atFirst, atSecond⟩
      | failed own rest =>
          obtain ⟨middle, before, later, rfl, atFirst, atSecond⟩ := ih rest
          exact ⟨middle, before, later, rfl, .failed own atFirst, atSecond⟩
      | carriedOut admitted shown own rest =>
          obtain ⟨middle, before, later, rfl, atFirst, atSecond⟩ := ih rest
          exact ⟨middle, _, later, (List.append_assoc _ _ _).symm,
            .carriedOut admitted shown own atFirst, atSecond⟩

/-- Every deletion was asked for. -/
theorem Serving.exists_call_of_mem (serving : store.Serving exchanges deleted after) {key : String}
    (member : key ∈ deleted) :
    ∃ call answer, ⟨.service call, answer⟩ ∈ exchanges ∧ key ∈ call.operation.deletedKeys := by
  induction serving with
  | nil => cases member
  | elsewhere _ _ ih | failed _ _ ih =>
      obtain ⟨call, answer, made, deletes⟩ := ih member
      exact ⟨call, answer, List.mem_cons_of_mem _ made, deletes⟩
  | carriedOut _ _ _ _ ih =>
      rcases List.mem_append.mp member with first | rest
      · exact ⟨_, _, List.mem_cons_self, first⟩
      · obtain ⟨call, answer, made, deletes⟩ := ih rest
        exact ⟨call, answer, List.mem_cons_of_mem _ made, deletes⟩

/-- Every deletion that was acknowledged was carried out. -/
theorem Serving.mem_of_acknowledged (serving : store.Serving exchanges deleted after)
    {call : ServiceCall} {response : Json} {key : String}
    (made : ⟨.service call, .ok response⟩ ∈ exchanges)
    (deletes : key ∈ call.operation.deletedKeys) : key ∈ deleted := by
  induction serving with
  | nil => cases made
  | elsewhere noCall _ ih =>
      rcases List.mem_cons.mp made with rfl | rest
      · exact (noCall call rfl).elim
      · exact ih rest
  | failed _ _ ih =>
      rcases List.mem_cons.mp made with same | rest
      · cases same
      · exact ih rest
  | carriedOut _ _ _ _ ih =>
      rcases List.mem_cons.mp made with same | rest
      · cases same
        exact List.mem_append_left _ deletes
      · exact List.mem_append_right _ (ih rest)

theorem Serving.eq_of_inquiring (serving : store.Serving exchanges deleted after)
    (inquiring : ∀ exchange ∈ exchanges, exchange.request.Inquiring) :
    after = store ∧ deleted = [] := by
  induction serving with
  | nil => exact ⟨rfl, rfl⟩
  | elsewhere _ _ ih | failed _ _ ih => exact ih (List.forall_mem_cons.mp inquiring).2
  | @carriedOut _ _ call _ _ _ _ _ _ _ ih =>
      obtain ⟨first, rest⟩ := List.forall_mem_cons.mp inquiring
      obtain ⟨name, options, query⟩ := first call rfl
      rw [query] at ih ⊢
      exact ih rest

theorem Serving.split_inquiring {first second : List Exchange}
    (serving : store.Serving (first ++ second) deleted after)
    (inquiring : ∀ exchange ∈ first, exchange.request.Inquiring) :
    store.Serving first [] store ∧ store.Serving second deleted after := by
  obtain ⟨middle, before, later, rfl, atFirst, atSecond⟩ := serving.split
  obtain ⟨rfl, rfl⟩ := atFirst.eq_of_inquiring inquiring
  exact ⟨atFirst, atSecond⟩

/-- Queries are answered with the pages of the same tables. -/
theorem Serving.eq_pageOf (serving : store.Serving exchanges deleted after)
    (inquiring : ∀ exchange ∈ exchanges, exchange.request.Inquiring) {call : ServiceCall}
    {name : String} {options : List (String × Json)} {response : Json}
    (made : ⟨.service call, .ok response⟩ ∈ exchanges)
    (query : call.operation = .query name options) : response = store.pageOf name options := by
  induction serving with
  | nil => cases made
  | elsewhere noCall _ ih =>
      rcases List.mem_cons.mp made with rfl | rest
      · exact (noCall call rfl).elim
      · exact ih (List.forall_mem_cons.mp inquiring).2 rest
  | failed _ _ ih =>
      rcases List.mem_cons.mp made with same | rest
      · cases same
      · exact ih (List.forall_mem_cons.mp inquiring).2 rest
  | @carriedOut _ _ asked _ _ _ _ shown _ _ ih =>
      obtain ⟨first, later⟩ := List.forall_mem_cons.mp inquiring
      rcases List.mem_cons.mp made with same | rest
      · cases same
        exact (shown response rfl).2 name options query
      · obtain ⟨other, others, isQuery⟩ := first asked rfl
        rw [isQuery] at ih
        exact ih later rest

/-- When a table is only queried, or items are deleted from it, it loses the deleted items, and no
other table changes. -/
theorem Serving.table_eq {name : String} (serving : store.Serving exchanges deleted after)
    (calls : ∀ exchange ∈ exchanges, exchange.request.Inquiring ∨
      ∃ call key options, exchange.request = .service call ∧
        call.operation = .deleteItem name key options) :
    after.table name = (store.table name).without deleted ∧
      ∀ other ≠ name, after.table other = store.table other := by
  induction serving with
  | nil => exact ⟨(Table.without_nil _).symm, fun _ _ => rfl⟩
  | elsewhere _ _ ih | failed _ _ ih => exact ih (List.forall_mem_cons.mp calls).2
  | @carriedOut store _ call _ _ deleted _ _ _ _ ih =>
      obtain ⟨first, rest⟩ := List.forall_mem_cons.mp calls
      obtain ⟨here, elsewhere⟩ := ih rest
      rcases first with inquiring | ⟨_, key, options, ⟨⟩, deletes⟩
      · obtain ⟨other, others, query⟩ := inquiring call rfl
        rw [query] at here elsewhere ⊢
        exact ⟨here, elsewhere⟩
      · rw [deletes] at here elsewhere ⊢
        constructor
        · rw [here, Store.carriedOut, table_setTable_self, Table.delete_without]
          rfl
        · intro other different
          rw [elsewhere other different, Store.carriedOut, table_setTable_of_ne _ _ different]

end Serving
end Store

/-! ## Pages -/

namespace Table

theorem after_last {before later : List (String × Json)} {last : String × Json}
    (distinct : ((before ++ last :: later).map Prod.fst).Nodup) :
    after (some last.1) (before ++ last :: later) = later := by
  have others : ∀ row ∈ before, (row.1 != last.1) = true := by
    intro row member
    rw [List.map_append, List.nodup_append] at distinct
    have different := distinct.2.2 row.1 (List.mem_map_of_mem member) last.1 (by simp)
    simpa using different
  simp [after, List.dropWhile_append_of_pos others]

/-- Where the page after a row starts. -/
def placeAfter (row : String × Json) : Json := .object [(placeName, .object [("S", .text row.1)])]

/-- A page shows all rows from its start, or it shows some of them and tells that others follow. -/
theorem page_cases (table : Table) (user : Json) (start : Option String) {size : Nat}
    (sized : 0 < size) :
    table.page user start size =
        .object [("Items", .list ((after start (table.ofUser user)).map Prod.snd))] ∨
      ∃ shown last rest, after start (table.ofUser user) = shown ++ last :: rest ∧
        table.page user start size =
          .object [("Items", .list ((shown ++ [last]).map Prod.snd)),
            ("LastEvaluatedKey", placeAfter last)] := by
  rw [page]
  generalize after start (table.ofUser user) = remaining
  rcases List.eq_nil_or_concat (remaining.take size) with none | ⟨shown, last, some⟩
  · have empty : remaining = [] := by
      rcases List.take_eq_nil_iff.mp none with zero | empty
      · omega
      · exact empty
    left
    simp [empty]
  · rw [List.concat_eq_append] at some
    have parts : shown ++ [last] ++ remaining.drop size = remaining := by
      rw [← some, List.take_append_drop]
    rw [some, List.getLast?_concat]
    dsimp only
    split
    · right
      exact ⟨shown, last, remaining.drop size, by simpa using parts.symm, rfl⟩
    · rename_i complete
      left
      have nothingLeft : remaining.drop size = [] := by
        rw [← List.length_eq_zero_iff]
        have lengths := congrArg List.length parts
        rw [List.length_append] at lengths
        omega
      rw [nothingLeft, List.append_nil] at parts
      rw [parts]

end Table

namespace TableClient

/-- Options that a call is not given anyway and that leave its repetition as usual. -/
def IsPlain (options : List (String × Json)) : Prop :=
  checkOptions options = .ok () ∧ Repetition.ofOptions options = .usual

theorem find?_setEntry (among : String → Bool) (options : List (String × Json)) {name : String}
    (value : Json) (apart : among name = false) :
    ((setEntry options name value).find? fun option => among option.1).map Prod.fst =
      (options.find? fun option => among option.1).map Prod.fst := by
  induction options with
  | nil => simp [setEntry, apart]
  | cons option rest ih =>
      rw [setEntry]
      split
      · rename_i same
        simp [same, apart]
      · rw [List.find?_cons, List.find?_cons]
        split
        · rfl
        · exact ih

theorem IsPlain.startingAt {options : List (String × Json)} (plain : IsPlain options)
    (key : Json) : IsPlain (setEntry options startOption key) := by
  have sameNames (names : List String) (apart : names.contains startOption = false) :=
    find?_setEntry names.contains options key apart
  constructor
  · rw [checkOptions]
    dsimp only
    rw [sameNames _ (by decide), sameNames _ (by decide)]
    exact plain.1
  · rw [Repetition.ofOptions, lookup_setEntry_of_ne _ _ _ (by decide),
      lookup_setEntry_of_ne _ _ _ (by decide)]
    exact plain.2

theorem startKey_otherOptions (options : List (String × Json)) :
    Store.startKey (Repetition.otherOptions options) = Store.startKey options := by
  have kept : (Repetition.otherOptions options).lookup startOption = options.lookup startOption :=
    lookup_otherOptions (by decide) options
  rw [Store.startKey, Store.startKey]
  exact congrArg (fun found => (found.filter Json.isTruthy).map (Table.keyOf Table.placeName)) kept

theorem startKey_placeAfter (options : List (String × Json)) (row : String × Json) :
    Store.startKey (setEntry options startOption (Table.placeAfter row)) = some row.1 := by
  have found := lookup_setEntry_self options startOption (Table.placeAfter row)
  rw [startOption] at found
  rw [startOption, Store.startKey, found]
  rfl

theorem pageOf_otherOptions (store : Store) (name : String) (options : List (String × Json)) :
    store.pageOf name (Repetition.otherOptions options) = store.pageOf name options := by
  rw [Store.pageOf, Store.pageOf, queriedUser_otherOptions, startKey_otherOptions]

/-- The outcome holds the data, unless the service failed. -/
def Reports (exchanges : List Exchange) (data : Json) (outcome : Except Failure Outcome) : Prop :=
  ∃ given, outcome = .ok given ∧ (given.isSuccess = true → given.data = data) ∧
    (given.isSuccess = false → ∃ call failure, ⟨.service call, .error failure⟩ ∈ exchanges)

section Perform

variable {tables : TableClient} {exchanges : List Exchange} {outcome : Except Failure Outcome}

/-- Performing an operation makes its call, and the first answer that is none is reported unless
the call is repeated. -/
theorem exists_call_of_ends_perform {operation : Operation} (plain : IsPlain operation.options)
    (ended : (tables.perform operation).Ends exchanges outcome) :
    ∃ answer later, exchanges = ⟨.service (tables.sent operation), answer⟩ :: later ∧
      ∀ response, answer = .ok response →
        ∃ given, outcome = .ok given ∧ given.isSuccess = true := by
  rw [perform, plain.1] at ended
  dsimp only at ended
  rw [plain.2] at ended
  have attempted : ((tables.sent operation).attempts .usual 0 3).Ends exchanges outcome := ended
  obtain ⟨answer, later, rfl, onward⟩ := ServiceCall.onward_of_ends_attempts attempted
  refine ⟨answer, later, rfl, ?_⟩
  rintro response rfl
  cases onward with
  | answered => exact ⟨_, rfl, rfl⟩

theorem exists_failure_of_ends_perform {operation : Operation} {given : Outcome}
    (plain : IsPlain operation.options)
    (ended : (tables.perform operation).Ends exchanges (.ok given))
    (failed : given.isSuccess = false) :
    ∃ call failure, ⟨.service call, .error failure⟩ ∈ exchanges := by
  obtain ⟨answer, later, rfl, reported⟩ := exists_call_of_ends_perform plain ended
  cases answer with
  | error failure => exact ⟨_, failure, List.mem_cons_self⟩
  | ok response =>
      obtain ⟨_, ⟨⟩, success⟩ := reported response rfl
      rw [failed] at success
      cases success

variable {store after : Store} {deleted : List String} {name : String}
  {options : List (String × Json)}

theorem inquiring_perform (name : String) (options : List (String × Json)) :
    (tables.perform (.query name options)).Makes Request.Inquiring := by
  refine makes_perform (fun _ => Request.Routine.inquiring) ?_
  rintro call ⟨⟩
  exact ⟨name, Repetition.otherOptions options, rfl⟩

theorem reports_of_ends_perform (plain : IsPlain options)
    (serving : store.Serving exchanges deleted after)
    (ended : (tables.perform (.query name options)).Ends exchanges outcome) :
    Reports exchanges (store.pageOf name options) outcome := by
  have inquiring : ∀ exchange ∈ exchanges, exchange.request.Inquiring :=
    fun exchange made => (inquiring_perform name options).of_mem ended made
  cases outcome with
  | error failure =>
      refine (not_ends_error_of_fails ?_ (fun _ => serving.isServed) ended).elim
      exact fails_perform_of_served plain.1 plain.2
  | ok given =>
      refine ⟨given, rfl, fun success => ?_, fun failed => ?_⟩
      · have shown : given.data = store.pageOf name (Repetition.otherOptions options) :=
          serving.eq_pageOf inquiring (answered_of_ends_perform ended success) rfl
        rw [shown, pageOf_otherOptions]
      · have isPlain : IsPlain (Operation.query name options).options := plain
        exact exists_failure_of_ends_perform isPlain ended failed

/-- A query goes on with options for the rows of the user that remain after those before. -/
structure Paging (store : Store) (name : String) (options : List (String × Json))
    (before remaining : List (String × Json)) : Prop where
  plain : IsPlain options
  rows : (store.table name).ofUser (Store.queriedUser options) = before ++ remaining
  place : Table.after (Store.startKey options) (before ++ remaining) = remaining
  distinct : ((before ++ remaining).map Prod.fst).Nodup

variable {before shown rest remaining : List (String × Json)} {last : String × Json}

theorem Paging.next (paging : Paging store name options before (shown ++ last :: rest)) :
    Paging store name (setEntry options startOption (Table.placeAfter last))
      (before ++ (shown ++ [last])) rest := by
  have parts : before ++ (shown ++ last :: rest) = (before ++ shown) ++ last :: rest :=
    (List.append_assoc _ _ _).symm
  have seen : before ++ (shown ++ last :: rest) = (before ++ (shown ++ [last])) ++ rest := by simp
  constructor
  · exact paging.plain.startingAt _
  · rw [queriedUser_setEntry, paging.rows, seen]
  · rw [startKey_placeAfter, ← seen, parts]
    exact Table.after_last (parts ▸ paging.distinct)
  · exact seen ▸ paging.distinct

/-- The page for the options shows all rows that remain, or some of them and where the next one
starts. -/
theorem Paging.page_cases (paging : Paging store name options before remaining)
    (sized : 0 < store.pageSize) :
    store.pageOf name options = .object [("Items", .list (remaining.map Prod.snd))] ∨
      ∃ shown last rest, remaining = shown ++ last :: rest ∧
        store.pageOf name options = .object [("Items", .list ((shown ++ [last]).map Prod.snd)),
          ("LastEvaluatedKey", Table.placeAfter last)] := by
  have cases := Table.page_cases (store.table name) (Store.queriedUser options)
    (Store.startKey options) sized
  rwa [paging.rows, paging.place] at cases

/-- A page of a query: its options, the exchanges for it and what they came to. -/
structure QueryPage where
  options : List (String × Json)
  exchanges : List Exchange
  outcome : Outcome

namespace QueryPage

def Performed (tables : TableClient) (name : String) (page : QueryPage) : Prop :=
  (tables.perform (.query name page.options)).Ends page.exchanges (.ok page.outcome)

/-- The first page has the options.  Each other one has the original options and starts after the
key that the page before it tells. -/
inductive Follow (tables : TableClient) (name : String) (original : List (String × Json)) :
    List (String × Json) → List QueryPage → Prop
  | last {page : QueryPage} (performed : page.Performed tables name) :
      Follow tables name original page.options [page]
  | next {page : QueryPage} {key : Json} {pages : List QueryPage}
      (performed : page.Performed tables name) (told : nextPage? page.outcome.data = some key)
      (later : Follow tables name original (setEntry original startOption key) pages) :
      Follow tables name original page.options (page :: pages)

/-- What the pages come to: all items, when no page fails, and otherwise the outcome of the page that
does, which is the last one. -/
inductive Collected (items : List Json) : List QueryPage → Except Failure Outcome → Prop
  | all {pages : List QueryPage} (good : ∀ page ∈ pages, page.outcome.isSuccess = true) :
      Collected items pages (.ok (.success (.list items) "dynamodb.query succeeded"))
  | failed {pages : List QueryPage} {page : QueryPage}
      (good : ∀ earlier ∈ pages, earlier.outcome.isSuccess = true)
      (bad : page.outcome.isSuccess = false) :
      Collected items (pages ++ [page]) (.ok page.outcome)

theorem Collected.cons {items : List Json} {page : QueryPage} {pages : List QueryPage}
    {outcome : Except Failure Outcome} (good : page.outcome.isSuccess = true)
    (collected : Collected items pages outcome) : Collected items (page :: pages) outcome := by
  cases collected with
  | all goodRest => exact .all (List.forall_mem_cons.mpr ⟨good, goodRest⟩)
  | failed goodRest bad =>
      rw [← List.cons_append]
      exact .failed (List.forall_mem_cons.mpr ⟨good, goodRest⟩) bad

end QueryPage

theorem setEntry_setEntry (options : List (String × Json)) (first second : Json) :
    setEntry (setEntry options startOption first) startOption second =
      setEntry options startOption second := by
  induction options with
  | nil => simp [setEntry]
  | cons option rest ih =>
      by_cases same : option.1 = startOption
      · simp [setEntry, same]
      · simp [setEntry, same, ih]

/-- The pages of a query collect the rows that remain.  The induction is on the pages that may still
be read: each but the last shows at least one of the rows. -/
theorem collected_of_ends_pages {limit : Nat} {items : List Json}
    {original : List (String × Json)} (paging : Paging store name options before remaining)
    (derived : ∀ key, setEntry options startOption key = setEntry original startOption key)
    (sized : 0 < store.pageSize) (enough : remaining.length < limit)
    (serving : store.Serving exchanges deleted after)
    (ended : (tables.pages name items limit options).Ends exchanges outcome) :
    ∃ pages, QueryPage.Follow tables name original options pages ∧
      pages.flatMap QueryPage.exchanges = exchanges ∧ pages.length ≤ remaining.length + 1 ∧
      QueryPage.Collected (items ++ remaining.map Prod.snd) pages outcome := by
  induction limit generalizing items before remaining options exchanges store deleted with
  | zero => omega
  | succ limit ih =>
      rw [pages] at ended
      rcases ends_bind.mp ended with
        ⟨failure, failing, rfl⟩ | ⟨first, second, given, rfl, performed, endedPage⟩
      · obtain ⟨_, ⟨⟩, _⟩ := reports_of_ends_perform paging.plain serving failing
      obtain ⟨atFirst, atSecond⟩ := serving.split_inquiring fun exchange made =>
        (inquiring_perform name options).of_mem performed made
      obtain ⟨_, ⟨⟩, shows, _⟩ := reports_of_ends_perform paging.plain atFirst performed
      let page : QueryPage := ⟨options, first, given⟩
      have isPage : page.Performed tables name := performed
      dsimp only at endedPage
      split at endedPage
      · rename_i success
        have data : page.outcome.data = _ := shows success
        rw [shows success] at endedPage
        rcases paging.page_cases sized with all | ⟨shown, last, rest, rfl, more⟩
        · rw [all] at endedPage
          obtain ⟨rfl, rfl⟩ := ends_done.mp endedPage
          exact ⟨[page], .last isPage, by simp [page], by simp, .all (by simpa [page] using success)⟩
        · rw [more] at endedPage data
          have endedRest : (tables.pages name (items ++ (shown ++ [last]).map Prod.snd) limit
              (setEntry options startOption (Table.placeAfter last))).Ends second outcome :=
            endedPage
          -- The page has shown at least one row, so the pages that may follow are enough.
          have fewer : rest.length < limit := by
            simp only [List.length_append, List.length_cons] at enough
            omega
          have collected : items ++ (shown ++ [last]).map Prod.snd ++ rest.map Prod.snd =
              items ++ (shown ++ last :: rest).map Prod.snd := by
            simp
          have derivedNext (key : Json) :
              setEntry (setEntry options startOption (Table.placeAfter last)) startOption key =
                setEntry original startOption key := by
            rw [setEntry_setEntry, derived]
          obtain ⟨pages, follow, exchanged, few, whole⟩ :=
            ih paging.next derivedNext sized fewer atSecond endedRest
          rw [collected] at whole
          rw [derived] at follow
          have told : nextPage? page.outcome.data = some (Table.placeAfter last) := by
            rw [data]
            rfl
          refine ⟨page :: pages, .next isPage told follow, ?_, ?_, whole.cons success⟩
          · rw [List.flatMap_cons, exchanged]
          · simp only [List.length_append, List.length_cons]
            omega
      · rename_i failing
        obtain ⟨rfl, rfl⟩ := ends_done.mp endedPage
        have bad : page.outcome.isSuccess = false := by simpa using failing
        have collected : QueryPage.Collected (items ++ remaining.map Prod.snd) ([] ++ [page])
            (.ok given) := .failed nofun bad
        exact ⟨[page], .last isPage, by simp [page], by simp, collected⟩

theorem QueryPage.Follow.isPlain {original : List (String × Json)} {pages : List QueryPage}
    (follow : QueryPage.Follow tables name original options pages) (plain : IsPlain options)
    (plainOriginal : IsPlain original) {page : QueryPage} (member : page ∈ pages) :
    IsPlain page.options := by
  induction follow with
  | last performed => rwa [List.mem_singleton.mp member]
  | next performed told later ih =>
      rcases List.mem_cons.mp member with rfl | rest
      · exact plain
      · exact ih (plainOriginal.startingAt _) rest

theorem QueryPage.Follow.performed {original : List (String × Json)} {pages : List QueryPage}
    (follow : QueryPage.Follow tables name original options pages) {page : QueryPage}
    (member : page ∈ pages) : page.Performed tables name := by
  induction follow with
  | last performed => rwa [List.mem_singleton.mp member]
  | next performed told later ih =>
      rcases List.mem_cons.mp member with rfl | rest
      · exact performed
      · exact ih rest

/-- A query goes through pages that follow each other, and logs when it starts and ends. -/
theorem collected_of_ends_query (plain : IsPlain options)
    (fromStart : Store.startKey options = none)
    (distinct : ((store.table name).items.map Prod.fst).Nodup) (sized : 0 < store.pageSize)
    (enough : ((store.table name).ofUser (Store.queriedUser options)).length < tables.pageLimit)
    (serving : store.Serving exchanges deleted after)
    (ended : (tables.query name options).Ends exchanges outcome) :
    ∃ started pages finished, exchanges = started :: pages.flatMap QueryPage.exchanges ++ finished ∧
      (∀ exchange ∈ started :: finished, exchange.request.Routine) ∧
      QueryPage.Follow tables name options options pages ∧
      pages.length ≤ ((store.table name).ofUser (Store.queriedUser options)).length + 1 ∧
      QueryPage.Collected (((store.table name).ofUser (Store.queriedUser options)).map Prod.snd)
        pages outcome := by
  have paging : Paging store name options []
      ((store.table name).ofUser (Store.queriedUser options)) := by
    constructor
    · exact plain
    · rfl
    · rw [fromStart]
      rfl
    · exact distinct.sublist (List.filter_sublist.map Prod.fst)
  obtain ⟨queried, rfl, endedQuery⟩ := ends_log_bind.mp ended
  have endedAll : (tables.allPages name options).Ends queried outcome := endedQuery
  cases serving with
  | elsewhere _ servingQuery =>
      rcases ends_bind.mp endedAll with
        ⟨failure, failing, rfl⟩ | ⟨paged, last, found, rfl, endedPages, endedLast⟩
      · obtain ⟨pages, _, _, _, collected⟩ :=
          collected_of_ends_pages paging (fun _ => rfl) sized enough servingQuery failing
        cases collected
      obtain ⟨middle, _, _, _, atPages, _⟩ := servingQuery.split
      obtain ⟨pages, follow, rfl, few, collected⟩ :=
        collected_of_ends_pages paging (fun _ => rfl) sized enough atPages endedPages
      have same : outcome = .ok found ∧ ∀ exchange ∈ last, exchange.request.Routine := by
        split at endedLast
        · obtain ⟨_, rfl, endedDone⟩ := ends_log_bind.mp endedLast
          obtain ⟨rfl, rfl⟩ := ends_done.mp endedDone
          exact ⟨rfl, List.forall_mem_singleton.mpr trivial⟩
        · obtain ⟨rfl, rfl⟩ := ends_done.mp endedLast
          exact ⟨rfl, List.forall_mem_nil _⟩
      obtain ⟨rfl, routine⟩ := same
      exact ⟨_, pages, last, rfl, List.forall_mem_cons.mpr ⟨trivial, routine⟩, follow, few, collected⟩

/-- A query gives the items of its user in the order in which they are stored. -/
theorem reports_of_ends_query (plain : IsPlain options) (fromStart : Store.startKey options = none)
    (distinct : ((store.table name).items.map Prod.fst).Nodup) (sized : 0 < store.pageSize)
    (enough : ((store.table name).ofUser (Store.queriedUser options)).length < tables.pageLimit)
    (serving : store.Serving exchanges deleted after)
    (ended : (tables.query name options).Ends exchanges outcome) :
    Reports exchanges
      (.list (((store.table name).ofUser (Store.queriedUser options)).map Prod.snd)) outcome := by
  obtain ⟨started, pages, finished, rfl, _, follow, _, collected⟩ :=
    collected_of_ends_query plain fromStart distinct sized enough serving ended
  cases collected with
  | all good => exact ⟨_, rfl, fun _ => rfl, nofun⟩
  | @failed before page good bad =>
      refine ⟨page.outcome, rfl, fun success => ?_, fun _ => ?_⟩
      · rw [bad] at success
        cases success
      · have member : page ∈ before ++ [page] := List.mem_append_right _ List.mem_cons_self
        have isPlain : IsPlain (Operation.query name page.options).options :=
          follow.isPlain plain plain member
        obtain ⟨call, failure, made⟩ :=
          exists_failure_of_ends_perform isPlain (follow.performed member) bad
        refine ⟨call, failure, List.mem_append_left _ (List.mem_cons_of_mem _ ?_)⟩
        exact List.mem_flatMap.mpr ⟨page, member, made⟩

end Perform

end TableClient

/-! ## Surroundings that show their tables -/

/-- A service that never fails carries out what it answers, and what it refuses changes nothing. -/
theorem Store.respond_cases (store : Store) (operation : Operation) :
    (∃ response, store.respond operation = (.ok response, store.carriedOut operation) ∧
      store.admits operation = true ∧ store.Shows operation response) ∨
      ∃ failure, store.respond operation = (.error failure, store) := by
  rw [respond]
  split
  · rename_i admitted
    cases operation with
    | getItem name key options =>
        dsimp only [perform]
        split
        · rename_i item found
          refine .inl ⟨_, rfl, admitted, fun _ => ?_, ?_⟩
          · simp [row?, found]
          · rintro _ _ ⟨⟩
        · rename_i found
          refine .inl ⟨_, rfl, admitted, fun _ => ?_, ?_⟩
          · simp [row?, found]
          · rintro _ _ ⟨⟩
    | putItem name item options =>
        dsimp only [perform]
        split
        · exact .inr ⟨_, rfl⟩
        · refine .inl ⟨_, rfl, admitted, trivial, ?_⟩
          rintro _ _ ⟨⟩
    | deleteItem name key options =>
        refine .inl ⟨_, rfl, admitted, trivial, ?_⟩
        rintro _ _ ⟨⟩
    | query name options =>
        refine .inl ⟨_, rfl, admitted, trivial, ?_⟩
        rintro _ _ ⟨⟩
        rfl
    | other method arguments => cases admitted
  · exact .inr ⟨_, rfl⟩

/-- What a service that never fails does to the tables is one of the ways in which it serves. -/
theorem Store.serving_respond {store after : Store} {call : ServiceCall}
    {exchanges : List Exchange} {deleted : List String}
    (later : (store.respond call.operation).2.Serving exchanges deleted after) :
    ∃ all, store.Serving (⟨.service call, (store.respond call.operation).1⟩ :: exchanges) all
      after := by
  have own := store.isServed_respond call
  rcases store.respond_cases call.operation with
    ⟨response, responded, admitted, shows⟩ | ⟨failure, responded⟩
  · rw [responded] at later own ⊢
    refine ⟨_, .carriedOut admitted ?_ own later⟩
    rintro _ ⟨⟩
    exact shows
  · rw [responded] at later own ⊢
    exact ⟨deleted, .failed own later⟩

/-- The exchanges of a run in surroundings with tables are served. -/
theorem exists_serving_run {α : Type} (answer : (request : Request) → request.Answer)
    (program : Program α) (store : Store) :
    ∃ deleted, store.Serving (program.exchanges (answerWith answer) store) deleted
      (program.run (answerWith answer) store).2 := by
  induction program generalizing store with
  | done value => exact ⟨[], .nil _⟩
  | fail failure => exact ⟨[], .nil _⟩
  | ask request next ih =>
      cases request with
      | service call =>
          obtain ⟨deleted, later⟩ := ih (store.respond call.operation).1
            (store.respond call.operation).2
          exact Store.serving_respond later
      | _ =>
          obtain ⟨deleted, later⟩ := ih (answer _) store
          exact ⟨deleted, .elsewhere nofun later⟩

end AlertRelay
