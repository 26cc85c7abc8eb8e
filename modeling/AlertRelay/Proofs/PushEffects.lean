import AlertRelay.Proofs.ServedQueries
import AlertRelay.Proofs.StoredSubscriptions

/-!
# Effects of pushes

A push tries every usable subscription of the user once and asks for the deletion of exactly those
that are gone.  Its result counts the subscriptions that took the message, whatever comes of the
deletions.  Before it tries any of them it needs an address for the sender, though, and a malformed
public URL leaves it without one.
-/

namespace AlertRelay

open Program

/-- Every execution of the program makes the request. -/
def Program.Surely {α : Type} (program : Program α) (request : Request) : Prop :=
  ∀ exchanges outcome, program.Ends exchanges outcome → ∃ answer, ⟨request, answer⟩ ∈ exchanges

section Surely

variable {α β : Type} {program : Program α} {request : Request}

theorem Program.Surely.bind (surely : program.Surely request) (next : α → Program β) :
    (program.bind next).Surely request := by
  intro exchanges outcome ended
  rcases ends_bind.mp ended with ⟨failure, failing, _⟩ | ⟨first, second, _, rfl, before, _⟩
  · exact surely _ _ failing
  · obtain ⟨answer, made⟩ := surely _ _ before
    exact ⟨answer, List.mem_append_left _ made⟩

theorem Program.Surely.log {next : Unit → Program α} (surely : (next ()).Surely request)
    (level : LogLevel) (component name : String) (details : List (String × Json)) :
    ((log level component name details).bind next).Surely request := by
  intro exchanges outcome ended
  obtain ⟨later, rfl, endedLater⟩ := ends_log_bind.mp ended
  obtain ⟨answer, made⟩ := surely _ _ endedLater
  exact ⟨answer, List.mem_cons_of_mem _ made⟩

theorem TableClient.surely_perform {tables : TableClient} {operation : Operation}
    (plain : IsPlain operation.options) :
    (tables.perform operation).Surely (.service (tables.sent operation)) := by
  intro exchanges outcome ended
  obtain ⟨answer, later, rfl, _⟩ := exists_call_of_ends_perform plain ended
  exact ⟨answer, List.mem_cons_self⟩

end Surely

namespace SubscriptionStore

def deletion (store : SubscriptionStore) (endpoint : String) : ServiceCall :=
  store.tables.sent (.deleteItem store.table (endpointKey (.text endpoint)) [])

theorem deletedKeys_deletion (store : SubscriptionStore) (endpoint : String) :
    (store.deletion endpoint).operation.deletedKeys = [endpoint] :=
  rfl

theorem surely_deleteByEndpoint (store : SubscriptionStore) (endpoint : String) :
    (store.deleteByEndpoint endpoint).Surely (.service (store.deletion endpoint)) := by
  have performed : (store.tables.perform (.deleteItem store.table
      (endpointKey (.text endpoint)) [])).Surely (.service (store.deletion endpoint)) :=
    TableClient.surely_perform ⟨rfl, rfl⟩
  have deleted : (store.tables.deleteItem store.table (endpointKey (.text endpoint)) []).Surely
      (.service (store.deletion endpoint)) := performed.log _ _ _ _
  exact deleted.bind _

def rowsOf (store : SubscriptionStore) (tables : Store) (userId : String) : List (String × Json) :=
  (tables.table store.table).ofUser (Attribute.ofText userId)

/-- The usable subscriptions of a user, in the order in which they are stored. -/
def usableOf (store : SubscriptionStore) (tables : Store) (userId : String) :
    List PushSubscription :=
  ((store.rowsOf tables userId).map Prod.snd).filterMap usable?

/-- The tables can be read: every key of the table of subscriptions is the key of one row, every row
is passed over or holds a subscription with the key as its endpoint, and neither the size of a page
nor the limit on pages keeps the rows of the user from being read. -/
structure Readable (store : SubscriptionStore) (tables : Store) (userId : String) : Prop where
  distinct : ((tables.table store.table).items.map Prod.fst).Nodup
  sound : ∀ row ∈ (tables.table store.table).items, ¬ Spoils row.2
  keyed : (tables.table store.table).KeyedByEndpoint
  sized : 0 < tables.pageSize
  enough : (store.rowsOf tables userId).length < store.tables.pageLimit

section Readable

variable {store : SubscriptionStore} {tables after : Store} {userId : String}
  {exchanges : List Exchange} {deleted : List String}

/-- The usable subscriptions of a user are found, unless the service failed. -/
theorem found_or_unread (readable : store.Readable tables userId)
    (serving : tables.Serving exchanges deleted after)
    {outcome : Except Failure (List PushSubscription)}
    (ended : (store.findByUser userId).Ends exchanges outcome) :
    outcome = .ok (store.usableOf tables userId) ∨
      (∃ message, outcome = .error (.unread "query push subscriptions" message)) ∧
        ∃ call failure, ⟨.service call, .error failure⟩ ∈ exchanges := by
  have plain : TableClient.IsPlain (queryOptions userId) := ⟨rfl, rfl⟩
  rcases ends_bind.mp ended with
    ⟨failure, failing, rfl⟩ | ⟨querying, reading, queried, rfl, found, endedReading⟩
  · obtain ⟨_, ⟨⟩, _⟩ := TableClient.reports_of_ends_query plain rfl readable.distinct
      readable.sized readable.enough serving failing
  obtain ⟨middle, _, _, _, servingQuery, _⟩ := serving.split
  obtain ⟨_, ⟨⟩, told, failed⟩ := TableClient.reports_of_ends_query plain rfl readable.distinct
    readable.sized readable.enough servingQuery found
  split at endedReading
  · rename_i success
    have items : itemsOf queried = (store.rowsOf tables userId).map Prod.snd := by
      rw [itemsOf, told success]
      rfl
    rw [items] at endedReading
    have sound : ∀ item ∈ (store.rowsOf tables userId).map Prod.snd, ¬ Spoils item := by
      intro item member
      obtain ⟨row, isUsers, rfl⟩ := List.mem_map.mp member
      exact readable.sound row (List.mem_filter.mp isUsers).1
    exact .inl ((readings_of_ends_readItems endedReading).eq_of_sound sound)
  · rename_i failing
    obtain ⟨rfl, rfl⟩ := ends_fail.mp endedReading
    obtain ⟨call, failure, made⟩ := failed (by simpa using failing)
    exact .inr ⟨⟨_, rfl⟩, call, failure, List.mem_append_left _ made⟩

theorem exists_row_of_usable (readable : store.Readable tables userId)
    {subscription : PushSubscription} (member : subscription ∈ store.usableOf tables userId) :
    ∃ row ∈ store.rowsOf tables userId, row.1 = subscription.endpoint := by
  obtain ⟨item, among, usable⟩ := List.mem_filterMap.mp member
  obtain ⟨row, isUsers, rfl⟩ := List.mem_map.mp among
  exact ⟨row, isUsers, readable.keyed row (List.mem_filter.mp isUsers).1 subscription usable⟩

/-- The key of a row of somebody else is not that of a row of the user. -/
theorem key_ne_of_not_mem (readable : store.Readable tables userId) {row other : String × Json}
    (isUsers : row ∈ store.rowsOf tables userId) (stored : other ∈ (tables.table store.table).items)
    (others : other ∉ store.rowsOf tables userId) : other.1 ≠ row.1 := by
  intro same
  have equal : other = row :=
    List.inj_on_of_nodup_map readable.distinct stored (List.mem_filter.mp isUsers).1 same
  exact others (equal ▸ isUsers)

end Readable

end SubscriptionStore

namespace BrowserPush

/-! ## Deletions -/

def isGone : Except Failure Unit → Bool
  | .error (.push _ status) => status.any goneStatuses.contains
  | _ => false

/-- Deletions are asked for exactly the subscriptions that are gone, and nothing else is changed. -/
structure Tidies (store : SubscriptionStore) (exchanges : List Exchange) : Prop where
  asked : ∀ attempt ∈ attempts exchanges, isGone attempt.2 = true →
    ∃ answer, ⟨.service (store.deletion attempt.1.subscription.endpoint), answer⟩ ∈ exchanges
  only : ∀ exchange ∈ exchanges, exchange.request.Inquiring ∨
    ∃ attempt ∈ attempts exchanges, isGone attempt.2 = true ∧
      exchange.request = .service (store.deletion attempt.1.subscription.endpoint)

/-- Every execution of the program tidies. -/
def Tidying {α : Type} (store : SubscriptionStore) (program : Program α) : Prop :=
  ∀ exchanges outcome, program.Ends exchanges outcome → Tidies store exchanges

section Tidies

variable {store : SubscriptionStore} {first second : List Exchange}

theorem Tidies.append (tidiesFirst : Tidies store first) (tidiesSecond : Tidies store second) :
    Tidies store (first ++ second) := by
  constructor
  · intro attempt made gone
    rw [attempts_append] at made
    rcases List.mem_append.mp made with inFirst | inSecond
    · obtain ⟨answer, asked⟩ := tidiesFirst.asked attempt inFirst gone
      exact ⟨answer, List.mem_append_left _ asked⟩
    · obtain ⟨answer, asked⟩ := tidiesSecond.asked attempt inSecond gone
      exact ⟨answer, List.mem_append_right _ asked⟩
  · intro exchange made
    rw [attempts_append]
    rcases List.mem_append.mp made with inFirst | inSecond
    · refine (tidiesFirst.only exchange inFirst).imp_right ?_
      rintro ⟨attempt, among, rest⟩
      exact ⟨attempt, List.mem_append_left _ among, rest⟩
    · refine (tidiesSecond.only exchange inSecond).imp_right ?_
      rintro ⟨attempt, among, rest⟩
      exact ⟨attempt, List.mem_append_right _ among, rest⟩

/-- A request that neither pushes nor changes a table. -/
def Still (request : Request) : Prop := request.Inquiring ∧ ¬ request.Outbound

theorem still_of_routine (request : Request) (routine : request.Routine) : Still request :=
  ⟨routine.inquiring, routine.quiet.not_outbound⟩

theorem Tidying.of_still {α : Type} {program : Program α} (still : program.Makes Still) :
    Tidying store program := by
  intro exchanges outcome ended
  have none := attempts_eq_nil_of_makes (still.mono fun _ => And.right) ended
  constructor
  · rw [none]
    exact fun attempt made => absurd made List.not_mem_nil
  · exact fun exchange made => .inl (still.of_mem ended made).1

theorem Tidying.bind {α β : Type} {program : Program α} {next : α → Program β}
    (tidying : Tidying store program) (onward : ∀ value, Tidying store (next value)) :
    Tidying store (program.bind next) := by
  intro exchanges outcome ended
  rcases ends_bind.mp ended with ⟨failure, failing, _⟩ | ⟨first, second, value, rfl, before, later⟩
  · exact tidying _ _ failing
  · exact (tidying _ _ before).append (onward value _ _ later)

theorem Tidying.ask {α : Type} {request : Request} {next : request.Answer → Program α}
    (still : Still request) (onward : ∀ answer, Tidying store (next answer)) :
    Tidying store (.ask request next) :=
  Tidying.bind (.of_still (makes_request.mpr still)) onward

/-- A push tidies when what follows it asks for the deletion of its subscription just in case that
it is gone. -/
theorem Tidies.of_push {request : PushRequest} {answer : Except Failure Unit}
    {later : List Exchange} (inside : attempts later = [])
    (asked : isGone answer = true →
      ∃ given, ⟨.service (store.deletion request.subscription.endpoint), given⟩ ∈ later)
    (only : ∀ exchange ∈ later, exchange.request.Inquiring ∨ isGone answer = true ∧
      exchange.request = .service (store.deletion request.subscription.endpoint)) :
    Tidies store (⟨.push request, answer⟩ :: later) := by
  constructor
  · rw [attempts_push, inside]
    intro attempt made gone
    obtain rfl := List.mem_singleton.mp made
    obtain ⟨given, among⟩ := asked gone
    exact ⟨given, List.mem_cons_of_mem _ among⟩
  · rw [attempts_push, inside]
    intro exchange made
    rcases List.mem_cons.mp made with rfl | among
    · left
      rintro call ⟨⟩
    · refine (only exchange among).imp_right ?_
      rintro ⟨gone, deletes⟩
      exact ⟨_, List.mem_singleton_self _, gone, deletes⟩

theorem Tidies.of_kept {request : PushRequest} {answer : Except Failure Unit}
    {later : List Exchange} (kept : isGone answer = false)
    (still : ∀ exchange ∈ later, Still exchange.request) :
    Tidies store (⟨.push request, answer⟩ :: later) := by
  refine .of_push ?_ ?_ fun exchange made => .inl (still exchange made).1
  · exact List.filterMap_eq_nil_iff.mpr fun exchange made => attempt?_eq_none (still exchange made).2
  · intro gone
    rw [kept] at gone
    cases gone

theorem surely_refused {endpoint : String} {status : Option Int} {failure : Failure}
    (gone : status.any goneStatuses.contains = true) :
    (refused store endpoint status failure).Surely (.service (store.deletion endpoint)) := by
  refine Program.Surely.log ?_ _ _ _ _
  rw [if_pos (by simp [gone])]
  exact (store.surely_deleteByEndpoint endpoint).bind _

theorem tidies_refused {request : PushRequest} {text : String} {status : Option Int}
    {failure : Failure} {later : List Exchange} {outcome : Except Failure Bool}
    (ended : (refused store request.subscription.endpoint status failure).Ends later outcome) :
    Tidies store (⟨.push request, .error (.push text status)⟩ :: later) := by
  cases gone : status.any goneStatuses.contains with
  | false =>
      have still : (refused store request.subscription.endpoint status failure).Makes Still := by
        refine makes_bind (makes_log.mpr (still_of_routine _ trivial)) fun _ => ?_
        rw [if_neg (by simp [gone])]
        exact .done _
      exact .of_kept gone fun exchange made => still.of_mem ended made
  | true =>
      refine .of_push (attempts_eq_nil_of_makes (makes_refused_inside _ _ _) ended) ?_ ?_
      · exact fun _ => surely_refused gone _ _ ended
      · intro exchange made
        have makes : (refused store request.subscription.endpoint status failure).Makes
            fun request' => Still request' ∨
              request' = .service (store.deletion request.subscription.endpoint) :=
          makes_refused (fun request routine => .inl (still_of_routine request routine)) (.inr rfl)
            status failure
        exact (makes.of_mem ended made).imp And.left fun deletes => ⟨gone, deletes⟩

theorem tidying_deliver (request : PushRequest) : Tidying store (deliver store request) := by
  intro exchanges outcome ended
  obtain ⟨answer, later, rfl, endedLater⟩ := ends_ask.mp ended
  have nothing : ∀ exchange ∈ ([] : List Exchange), Still exchange.request := by simp
  cases answer with
  | ok taken =>
      obtain ⟨rfl, _⟩ := ends_done.mp endedLater
      exact .of_kept rfl nothing
  | error failure =>
      cases failure with
      | push text status => exact tidies_refused endedLater
      | transport exchange =>
          have still : ((log .warning component "webpush_transport_error"
              [("endpoint", .text (PushSubscription.endpointSuffix request.subscription.endpoint)),
                ("error", .text exchange.text)]).bind fun _ => done false).Makes Still :=
            makes_bind (makes_log.mpr (still_of_routine _ trivial)) fun _ => .done _
          exact .of_kept rfl fun exchange made => still.of_mem endedLater made
      | _ =>
          obtain ⟨rfl, _⟩ := ends_fail.mp endedLater
          exact .of_kept rfl nothing

theorem tidying_deliverAll (requestFor : PushSubscription → PushRequest) (delivered : Nat)
    (subscriptions : List PushSubscription) :
    Tidying store (deliverAll store requestFor delivered subscriptions) := by
  induction subscriptions generalizing delivered with
  | nil => exact .of_still (.done _)
  | cons subscription rest ih =>
      refine .ask (still_of_routine _ trivial) fun stop => ?_
      cases stop with
      | true => exact .of_still (.done _)
      | false => exact (tidying_deliver _).bind fun accepted => ih _

theorem tidying_send (payload : Payload) (config : Config) :
    Tidying store (send store payload config) := by
  have logged (level : LogLevel) (component name : String) (details : List (String × Json)) :
      Tidying store (log level component name details) :=
    .of_still (makes_log.mpr (still_of_routine _ trivial))
  rw [send_eq]
  refine Tidying.bind (.of_still makes_ofExcept) fun userId => ?_
  refine Tidying.bind (.of_still makes_ofExcept) fun message => ?_
  refine Tidying.bind (.of_still ?_) fun subscriptions => ?_
  · refine SubscriptionStore.makes_findByUser still_of_routine fun options _ => ⟨?_, id⟩
    rintro call ⟨⟩
    exact ⟨store.table, Repetition.otherOptions options, rfl⟩
  rw [pushAll]
  split
  · exact (logged _ _ _ _).bind fun _ => .of_still (.done _)
  · refine Tidying.bind (.of_still (makes_subscriberAddress still_of_routine _ _))
      fun subscriber => ?_
    refine (tidying_deliverAll _ _ _).bind fun delivered? => ?_
    cases delivered? with
    | none => exact .of_still (.done _)
    | some delivered =>
        refine (logged _ _ _ _).bind fun _ => ?_
        split
        · exact .of_still (.done _)
        · exact .of_still (.done _)

end Tidies

/-! ## The effect of a push -/

/-- A sender without a valid address of its own takes one at the public host, and has none when the
public URL is malformed. -/
theorem ends_subscriberAddress_error {email publicUrl : String} {exchanges : List Exchange}
    {failure : Failure}
    (ended : (subscriberAddress email publicUrl).Ends exchanges (.error failure)) :
    (trim email = "" ∨ Email.normalize? (trim email) = none) ∧
      publicHost publicUrl = .error failure := by
  have fallsBack {made : List Exchange}
      (fallback : ((ofExcept (publicHost publicUrl)).bind fun host =>
        (.done s!"mailto:no-reply@{host}" : Program String)).Ends made (.error failure)) :
      publicHost publicUrl = .error failure := by
    rcases ends_bind.mp fallback with ⟨_, failing, ⟨⟩⟩ | ⟨_, _, _, _, _, noEnd⟩
    · exact (ends_ofExcept.mp failing).2.symm
    · cases (ends_done.mp noEnd).2
  dsimp only [subscriberAddress] at ended
  split at ended
  · rename_i empty
    exact ⟨.inl empty, fallsBack ended⟩
  · split at ended
    · cases (ends_done.mp ended).2
    · rename_i invalid
      obtain ⟨_, _, fallback⟩ := ends_log_bind.mp ended
      exact ⟨.inr invalid, fallsBack fallback⟩

/-- The effect of a push that was carried out: every usable subscription of the user was tried once,
in order; the result says whether any of them took the message; and the table has lost the rows
whose deletion was carried out, each of them a row of the user that is gone. -/
structure Effect (store : SubscriptionStore) (config : Config) (userId : String)
    (message : PushMessage) (tables : Store) (exchanges : List Exchange) (deleted : List String)
    (after : Store) (result : SendResult) : Prop where
  tried : ∃ subscriber, (attempts exchanges).map Prod.fst =
    (store.usableOf tables userId).map (pushRequest config message subscriber)
  state : result.state =
    if (attempts exchanges).any Attempt.isAccepted then .sent else .failedPermanently
  tidies : Tidies store exchanges
  table : after.table store.table = (tables.table store.table).without deleted
  gone : ∀ key ∈ deleted, ∃ attempt ∈ attempts exchanges, isGone attempt.2 = true ∧
    attempt.1.subscription.endpoint = key
  acknowledged : ∀ endpoint response,
    ⟨.service (store.deletion endpoint), .ok response⟩ ∈ exchanges → endpoint ∈ deleted
  others : ∀ row ∈ (tables.table store.table).items, row ∉ store.rowsOf tables userId →
    row.1 ∉ deleted
  elsewhere : ∀ name ≠ store.table, after.table name = tables.table name

/-- The courses of a push: the subscriptions could not be read since the service failed, there were
some but the sender got no address, or the push was carried out. -/
inductive Course (store : SubscriptionStore) (config : Config) (userId : String)
    (message : PushMessage) (tables : Store) (exchanges : List Exchange) (deleted : List String)
    (after : Store) : Except Failure SendResult → Prop
  | unread {text : String} (failed : ∃ call failure, ⟨.service call, .error failure⟩ ∈ exchanges)
      (untried : attempts exchanges = []) (same : after = tables) :
      Course store config userId message tables exchanges deleted after
        (.error (.unread "query push subscriptions" text))
  | unaddressed {failure : Failure} (present : store.usableOf tables userId ≠ [])
      (noEmail : trim config.push.subscriberEmail = "" ∨
        Email.normalize? (trim config.push.subscriberEmail) = none)
      (malformed : publicHost config.publicUrl = .error failure)
      (untried : attempts exchanges = []) (same : after = tables) :
      Course store config userId message tables exchanges deleted after (.error failure)
  | carriedOut {result : SendResult}
      (effect : Effect store config userId message tables exchanges deleted after result) :
      Course store config userId message tables exchanges deleted after (.ok result)

section Send

variable {store : SubscriptionStore} {payload : Payload} {config : Config} {userId : String}
  {message : PushMessage} {tables after : Store} {exchanges : List Exchange}
  {deleted : List String}

/-- What a push deletes follows from its attempts, once each of them concerned a usable subscription
of the user. -/
theorem Effect.of_tried {subscriber : String} {result : SendResult}
    (readable : store.Readable tables userId) (serving : tables.Serving exchanges deleted after)
    (tidies : Tidies store exchanges)
    (tried : (attempts exchanges).map Prod.fst =
      (store.usableOf tables userId).map (pushRequest config message subscriber))
    (state : result.state =
      if (attempts exchanges).any Attempt.isAccepted then .sent else .failedPermanently) :
    Effect store config userId message tables exchanges deleted after result := by
  have calls : ∀ exchange ∈ exchanges, exchange.request.Inquiring ∨
      ∃ call key options, exchange.request = .service call ∧
        call.operation = .deleteItem store.table key options := by
    intro exchange made
    refine (tidies.only exchange made).imp_right ?_
    rintro ⟨attempt, _, _, deletes⟩
    exact ⟨_, SubscriptionStore.endpointKey (.text attempt.1.subscription.endpoint), _, deletes, rfl⟩
  obtain ⟨table, elsewhere⟩ := serving.table_eq calls
  have gone : ∀ key ∈ deleted, ∃ attempt ∈ attempts exchanges, isGone attempt.2 = true ∧
      attempt.1.subscription.endpoint = key := by
    intro key member
    obtain ⟨call, answer, made, deletes⟩ := serving.exists_call_of_mem member
    rcases tidies.only _ made with inquiring | ⟨attempt, among, isGone, same⟩
    · obtain ⟨name, options, query⟩ := inquiring call rfl
      rw [query] at deletes
      cases deletes
    · cases same
      rw [SubscriptionStore.deletedKeys_deletion] at deletes
      exact ⟨attempt, among, isGone, (List.mem_singleton.mp deletes).symm⟩
  refine ⟨⟨subscriber, tried⟩, state, tidies, table, gone, ?_, ?_, elsewhere⟩
  · intro endpoint response made
    refine serving.mem_of_acknowledged made ?_
    rw [SubscriptionStore.deletedKeys_deletion]
    exact List.mem_singleton_self endpoint
  · intro row stored others member
    obtain ⟨attempt, among, _, same⟩ := gone row.1 member
    have pushed : attempt.1 ∈ (store.usableOf tables userId).map
        (pushRequest config message subscriber) := tried ▸ List.mem_map_of_mem among
    obtain ⟨subscription, usable, request⟩ := List.mem_map.mp pushed
    obtain ⟨own, isUsers, key⟩ := SubscriptionStore.exists_row_of_usable readable usable
    refine SubscriptionStore.key_ne_of_not_mem readable isUsers stored others ?_
    rw [key, ← same, ← request]
    rfl

theorem state_resultOf (payload : Payload) (attempts : List Attempt) :
    (resultOf payload (acceptedCount attempts)).state =
      if attempts.any Attempt.isAccepted then .sent else .failedPermanently := by
  cases accepted : attempts.any Attempt.isAccepted with
  | true =>
      have some : acceptedCount attempts ≠ 0 :=
        Nat.ne_of_gt (List.countP_pos_iff.mpr (List.any_eq_true.mp accepted))
      rw [resultOf, if_neg some]
      rfl
  | false =>
      have none : acceptedCount attempts = 0 :=
        List.countP_eq_zero.mpr (List.any_eq_false.mp accepted)
      rw [resultOf, if_pos none]
      rfl

/-- Once the subscriptions are found, each of them is tried, unless the sender gets no address. -/
theorem unaddressed_or_tried {looking later : List Exchange}
    {subscriptions : List PushSubscription} {outcome : Except Failure SendResult}
    (user : checkedUser payload config = .ok userId)
    (worded : Wording.push type payload config = .ok message)
    (found : (store.findByUser userId).Ends looking (.ok subscriptions))
    (ended : (send store payload config).Ends (looking ++ later) outcome)
    (neverStopped : ⟨.cancelled, true⟩ ∉ later) (served : ∀ exchange ∈ later, exchange.IsServed)
    (contained : ∀ attempt ∈ attempts (looking ++ later), isContained attempt.2 = true) :
    (∃ failure, outcome = .error failure ∧ subscriptions ≠ [] ∧
      attempts (looking ++ later) = [] ∧
      (trim config.push.subscriberEmail = "" ∨
        Email.normalize? (trim config.push.subscriberEmail) = none) ∧
      publicHost config.publicUrl = .error failure) ∨
    ∃ result subscriber, outcome = .ok result ∧
      (attempts (looking ++ later)).map Prod.fst =
        subscriptions.map (pushRequest config message subscriber) ∧
      result.state = if (attempts (looking ++ later)).any Attempt.isAccepted then .sent
        else .failedPermanently := by
  have whole := ended
  rw [send_eq, user, ofExcept_ok_bind, worded, ofExcept_ok_bind] at ended
  obtain ⟨pushing, split, _, endedPushes⟩ := found.onward ended (List.append_nil _).symm
  obtain rfl := List.append_cancel_left split
  by_cases none : subscriptions = []
  · have nothing : pushAll store payload config userId message subscriptions =
        (log .info component "webpush_no_subscriptions" [("user_id", .text userId)]).bind fun _ =>
          .done (SendResult.failedPermanently payload.id "no registered browsers for web push") := by
      rw [none]
      rfl
    rw [nothing] at endedPushes
    obtain ⟨last, rfl, endedLast⟩ := ends_log_bind.mp endedPushes
    obtain ⟨rfl, rfl⟩ := ends_done.mp endedLast
    rw [attempts_append, attempts_findByUser found, none]
    exact .inr ⟨_, "", rfl, rfl, rfl⟩
  · rw [pushAll, if_neg (by rwa [List.isEmpty_iff])] at endedPushes
    rcases ends_bind.mp endedPushes with
      ⟨failure, failing, rfl⟩ | ⟨addressing, delivering, subscriber, rfl, addressed, _⟩
    · have untried : attempts (looking ++ later) = [] := by
        rw [attempts_append, attempts_findByUser found, attempts_subscriberAddress failing]
        rfl
      obtain ⟨noEmail, malformed⟩ := ends_subscriberAddress_error failing
      exact .inl ⟨failure, rfl, none, untried, noEmail, malformed⟩
    · have ready : Ready store payload config (looking ++ addressing) subscriptions
          (pushRequest config message subscriber) := .intro user worded found addressed
      have inOrder : looking ++ addressing ++ delivering =
          looking ++ (addressing ++ delivering) ++ [] := by simp
      have neverStoppedLater : ⟨.cancelled, true⟩ ∉ delivering :=
        fun member => neverStopped (List.mem_append_right _ member)
      have servedLater : ∀ exchange ∈ delivering, exchange.IsServed :=
        fun exchange made => served exchange (List.mem_append_right _ made)
      rcases ends_send_of_ready ready none whole inOrder neverStoppedLater servedLater with
        ⟨allTried, rfl⟩ | ⟨failure, brokenOff, _⟩
      · exact .inr ⟨_, subscriber, rfl, allTried.inOrder, state_resultOf _ _⟩
      · generalize attempts (looking ++ (addressing ++ delivering)) = tried at *
        cases brokenOff with
        | intro _ spreads =>
            have last := contained _ List.mem_concat_self
            rw [spreads] at last
            cases last

/-- A push whose deliveries are never stopped, and each of whose failures concerns one subscription,
is carried out, unless the subscriptions cannot be read or the public URL is malformed. -/
theorem effect_or_untried {outcome : Except Failure SendResult}
    (user : checkedUser payload config = .ok userId)
    (worded : Wording.push type payload config = .ok message)
    (readable : store.Readable tables userId) (serving : tables.Serving exchanges deleted after)
    (ended : (send store payload config).Ends exchanges outcome)
    (neverStopped : ⟨.cancelled, true⟩ ∉ exchanges)
    (contained : ∀ attempt ∈ attempts exchanges, isContained attempt.2 = true) :
    Course store config userId message tables exchanges deleted after outcome := by
  have tidies : Tidies store exchanges := tidying_send payload config _ _ ended
  have unchanged (untried : attempts exchanges = []) : after = tables := by
    refine (serving.eq_of_inquiring fun exchange made => ?_).1
    rcases tidies.only exchange made with inquiring | ⟨attempt, among, _⟩
    · exact inquiring
    · rw [untried] at among
      cases among
  have stages := ended
  rw [send_eq, user, ofExcept_ok_bind, worded, ofExcept_ok_bind] at stages
  rcases ends_bind.mp stages with
    ⟨failure, failing, rfl⟩ | ⟨looking, later, subscriptions, rfl, found, _⟩
  · rcases SubscriptionStore.found_or_unread readable serving failing with
      noFailure | ⟨⟨text, unread⟩, failed⟩
    · cases noFailure
    · cases unread
      have untried := attempts_findByUser failing
      exact .unread failed untried (unchanged untried)
  · obtain ⟨_, _, _, _, servingLooking, _⟩ := serving.split
    rcases SubscriptionStore.found_or_unread readable servingLooking found with
      usable | ⟨⟨_, noSuccess⟩, _⟩
    · cases usable
      have neverStoppedLater : ⟨.cancelled, true⟩ ∉ later :=
        fun member => neverStopped (List.mem_append_right _ member)
      have served : ∀ exchange ∈ later, exchange.IsServed :=
        fun exchange made => serving.isServed (List.mem_append_right _ made)
      rcases unaddressed_or_tried user worded found ended neverStoppedLater served contained with
        ⟨failure, rfl, present, untried, noEmail, malformed⟩ | ⟨result, subscriber, rfl, tried, state⟩
      · exact .unaddressed present noEmail malformed untried (unchanged untried)
      · exact .carriedOut (.of_tried readable serving tidies tried state)
    · cases noSuccess

end Send

end BrowserPush

/-! ## Pushes that come out differently -/

namespace Sample

/-- The tables with three browsers of the user and data that nobody can use. -/
def mixedTables : Store := leftTables [leftBy "/1", leftBy "/2", ("/3", "garbage"), leftBy "/4"]

/-- Answers of push services: one browser takes the message, and one is gone. -/
def mixedAnswer : (request : Request) → request.Answer
  | .push request =>
      if request.subscription.endpoint = "/1" then .ok ()
      else if request.subscription.endpoint = "/2" then .error (.push "HTTP 410" (some 410))
      else .error (.push "HTTP 500" (some 500))
  | request => answer request

def configAt (publicUrl : String) : Config := { pushConfig with publicUrl }

def pushAt (publicUrl : String) : Program SendResult :=
  BrowserPush.send browserStore pushed (configAt publicUrl)

theorem readable_mixedTables : browserStore.Readable mixedTables "u" := by
  constructor
  · decide +kernel
  · have read : ∀ row ∈ (mixedTables.table "subscriptions").items,
        (SubscriptionStore.readingOf row.2).isOk = true := by
      decide +kernel
    exact fun row stored => SubscriptionStore.not_spoils_of_readingOf (read row stored)
  · decide +kernel
  · decide
  · decide +kernel

end Sample

/-- The host in the public URL lacks its closing bracket, so that none of the browsers of the user
is tried, and the push fails. -/
theorem untried_without_host :
    (Sample.browserStore.usableOf Sample.mixedTables "u").map PushSubscription.endpoint =
      ["/1", "/2", "/4"] ∧
    failsWith (fun _ => true) ((Sample.pushAt "https://[goalert.example.com").run
      (answerWith Sample.mixedAnswer) Sample.mixedTables).1 = true ∧
    (BrowserPush.attempts ((Sample.pushAt "https://[goalert.example.com").exchanges
      (answerWith Sample.mixedAnswer) Sample.mixedTables)).isEmpty = true := by
  refine ⟨?_, ?_, ?_⟩
  · decide +kernel
  · decide +kernel
  · decide +kernel

/-- Of three browsers, the first took the message, the second was gone and is deleted, and the third
stays although its push service was out of order. -/
theorem sent_and_tidied :
    ∃ message exchanges deleted after result,
      (Sample.pushAt "").Ends exchanges (.ok result) ∧
      BrowserPush.Effect Sample.browserStore (Sample.configAt "") "u" message Sample.mixedTables
        exchanges deleted after result ∧
      result.state = .sent ∧
      (after.table "subscriptions").items.map Prod.fst = ["/1", "/3", "/4"] := by
  have passed : passes (fun result => result.state == .sent)
      ((Sample.pushAt "").run (answerWith Sample.mixedAnswer) Sample.mixedTables).1 = true := by
    decide +kernel
  have kept : (((Sample.pushAt "").run (answerWith Sample.mixedAnswer)
      Sample.mixedTables).2.table "subscriptions").items.map Prod.fst = ["/1", "/3", "/4"] := by
    decide +kernel
  have contained : ∀ attempt ∈ BrowserPush.attempts ((Sample.pushAt "").exchanges
      (answerWith Sample.mixedAnswer) Sample.mixedTables),
      BrowserPush.isContained attempt.2 = true := by
    decide +kernel
  have neverStopped : ⟨.cancelled, true⟩ ∉
      (Sample.pushAt "").exchanges (answerWith Sample.mixedAnswer) Sample.mixedTables := by
    intro member
    obtain ⟨_, given⟩ := answer_of_mem_exchanges member
    cases given
  obtain ⟨result, ended, sent⟩ := ends_of_passes passed
  obtain ⟨deleted, serving⟩ := exists_serving_run Sample.mixedAnswer (Sample.pushAt "")
    Sample.mixedTables
  have course := BrowserPush.effect_or_untried rfl rfl Sample.readable_mixedTables serving ended
    neverStopped contained
  cases course with
  | carriedOut effect =>
      exact ⟨_, _, deleted, _, result, ended, effect, by simpa using sent, kept⟩

end AlertRelay
