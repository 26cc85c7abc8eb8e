import AlertRelay.Proofs.DeliveryRows
import AlertRelay.Proofs.DispatchRuns

/-!
# Recorded deliveries

Recording a delivery repeats a conditional write, and any of its acknowledgements may get lost, so
a repetition can meet the item that the call itself has stored before.  Whatever happens to the
attempts, the call stores its item at most once and never touches anything else, and what it
reports about the row under its key is true.
-/

namespace AlertRelay

open Program

/-- The failure is the refusal to write over an item. -/
def Failure.IsConflict (failure : Failure) : Prop :=
  ∃ outcome, Outcome.ofServiceFailure failure = .ok outcome ∧ outcome.isConflict

namespace Store

/-- The service refuses to write over an item only when there is one. -/
def IsTruthful (store : Store) : Exchange → Prop
  | ⟨.service call, .error failure⟩ => failure.IsConflict → ¬ store.admits call.operation
  | _ => True

/-- The tables before and after a series of exchanges with a service that refuses nothing without
a reason. -/
inductive Faithful : Store → List Exchange → Store → Prop
  | nil (store : Store) : Faithful store [] store
  | cons {store middle after : Store} {exchange : Exchange} {exchanges : List Exchange}
      (answers : store.Answers exchange middle) (truthful : store.IsTruthful exchange)
      (later : Faithful middle exchanges after) : Faithful store (exchange :: exchanges) after

theorem Faithful.through {store after : Store} {exchanges : List Exchange}
    (faithful : store.Faithful exchanges after) : store.Through exchanges after := by
  induction faithful with
  | nil => exact .nil _
  | cons answers _ _ ih => exact .cons answers ih

theorem Faithful.split {store after : Store} {first second : List Exchange}
    (faithful : store.Faithful (first ++ second) after) :
    ∃ middle, store.Faithful first middle ∧ middle.Faithful second after := by
  induction first generalizing store with
  | nil => exact ⟨store, .nil _, faithful⟩
  | cons exchange first ih =>
      cases faithful with
      | cons answers truthful later =>
          obtain ⟨middle, before, rest⟩ := ih later
          exact ⟨middle, .cons answers truthful before, rest⟩

theorem Faithful.append {store middle after : Store} {first second : List Exchange}
    (before : store.Faithful first middle) (rest : middle.Faithful second after) :
    store.Faithful (first ++ second) after := by
  induction before with
  | nil => exact rest
  | cons answers truthful _ ih => exact .cons answers truthful (ih rest)

theorem Faithful.eq_of_routine {store after : Store} {exchanges : List Exchange}
    (faithful : store.Faithful exchanges after)
    (routine : ∀ exchange ∈ exchanges, exchange.request.Routine) : after = store :=
  faithful.through.eq_of_quiet fun exchange made => (routine exchange made).quiet

end Store

theorem Request.Routine.ne_service {request : Request} (routine : request.Routine)
    (call : ServiceCall) : request ≠ .service call := by
  rintro rfl
  exact routine

/-- However often a call is repeated, it is the same call each time. -/
theorem ServiceCall.eq_of_ends_attempts {call other : ServiceCall} {repetition : Repetition}
    {attempt remaining : Nat} {exchanges : List Exchange} {outcome : Except Failure Outcome}
    (ended : (call.attempts repetition attempt remaining).Ends exchanges outcome)
    {exchange : Exchange} (made : exchange ∈ exchanges)
    (same : exchange.request = .service other) : other = call := by
  have calls : (call.attempts repetition attempt remaining).Makes
      fun request => request.Routine ∨ request = .service call :=
    makes_attempts (fun _ => .inl) (.inr rfl) repetition attempt remaining
  rcases calls.of_mem ended made with routine | again
  · exact (routine.ne_service other same).elim
  · rw [same] at again
    cases again
    rfl

/-! ## One write -/

namespace Ledger

variable (ledger : Ledger) (item : Json)

/-- The key of the row that an item becomes. -/
def rowKey : String := Table.keyOf "delivery_key" item

/-- The tables once the item is stored. -/
def stored (store : Store) : Store :=
  store.setTable ledger.table ((store.table ledger.table).put (rowKey item) item)

/-- The ways in which a conditional write is answered: the item is stored and that is
acknowledged, it is stored but a failure is reported, it is not stored and a failure is reported,
or it is refused because the key has a row. -/
inductive Write (store : Store) : Except Failure Json → Store → Prop
  | acknowledged (vacant : store.row? ledger.table (rowKey item) = none) (response : Json) :
      Write store (.ok response) (ledger.stored item store)
  | lost (vacant : store.row? ledger.table (rowKey item) = none) {failure : Failure}
      (other : ¬ failure.IsConflict) : Write store (.error failure) (ledger.stored item store)
  | failed {failure : Failure} (other : ¬ failure.IsConflict) :
      Write store (.error failure) store
  | refused (occupied : (store.row? ledger.table (rowKey item)).isSome) {failure : Failure}
      (conflict : failure.IsConflict) : Write store (.error failure) store

variable {ledger} {item} {store after : Store} {answer : Except Failure Json}

theorem admits_writeCall (keyed : (store.table ledger.table).keyName = "delivery_key") :
    store.admits (ledger.writeCall item).operation = true ↔
      store.row? ledger.table (rowKey item) = none := by
  refine ⟨Store.row?_eq_none_of_admits_firstWrite keyed, fun vacant => ?_⟩
  have absent : (store.table ledger.table).get? (Table.keyOf "delivery_key" item) = none := vacant
  simp [writeCall, TableClient.call, Store.admits, Table.allows, firstWrite, keyed, absent]

theorem carriedOut_writeCall (keyed : (store.table ledger.table).keyName = "delivery_key") :
    store.carriedOut (ledger.writeCall item).operation = ledger.stored item store := by
  simp only [writeCall, TableClient.call, Store.carriedOut, keyed]
  rfl

theorem not_admits_writeCall (keyed : (store.table ledger.table).keyName = "delivery_key") :
    ¬ store.admits (ledger.writeCall item).operation ↔
      (store.row? ledger.table (rowKey item)).isSome := by
  rw [admits_writeCall keyed, ← Option.isNone_iff_eq_none, Bool.not_eq_true,
    Option.isNone_eq_false_iff]

/-- A faithful service answers a conditional write in one of these ways, and may answer it in each
of them. -/
theorem write_iff (keyed : (store.table ledger.table).keyName = "delivery_key") :
    (store.Answers ⟨.service (ledger.writeCall item), answer⟩ after ∧
      store.IsTruthful ⟨.service (ledger.writeCall item), answer⟩) ↔
    ledger.Write item store answer after := by
  constructor
  · rintro ⟨answers, truthful⟩
    cases answers with
    | elsewhere noCall => exact absurd rfl (noCall _)
    | service served =>
        cases served with
        | failed _ failure =>
            by_cases conflict : failure.IsConflict
            · exact .refused ((not_admits_writeCall keyed).mp (truthful conflict)) conflict
            · exact .failed conflict
        | unacknowledged admitted failure =>
            rw [carriedOut_writeCall keyed]
            exact .lost ((admits_writeCall keyed).mp admitted)
              fun conflict => truthful conflict admitted
        | answered admitted _ =>
            rw [carriedOut_writeCall keyed]
            exact .acknowledged ((admits_writeCall keyed).mp admitted) _
  · intro write
    cases write with
    | acknowledged vacant response =>
        rw [← carriedOut_writeCall keyed]
        exact ⟨.service (.answered ((admits_writeCall keyed).mpr vacant) trivial), trivial⟩
    | @lost vacant failure other =>
        rw [← carriedOut_writeCall keyed]
        exact ⟨.service (.unacknowledged ((admits_writeCall keyed).mpr vacant) failure),
          fun conflict => (other conflict).elim⟩
    | @failed failure other =>
        exact ⟨.service (.failed _ failure), fun conflict => (other conflict).elim⟩
    | @refused occupied failure _ =>
        exact ⟨.service (.failed _ failure), fun _ => (not_admits_writeCall keyed).mpr occupied⟩

/-- What a call may do to the tables: nothing, or storing its item where there was no row. -/
def Effect (ledger : Ledger) (item : Json) (store after : Store) : Prop :=
  after = store ∨
    (store.row? ledger.table (rowKey item) = none ∧ after = ledger.stored item store)

@[simp]
theorem row?_stored (ledger : Ledger) (item : Json) (store : Store) :
    (ledger.stored item store).row? ledger.table (rowKey item) = some item := by
  simp [stored, Store.row?]

@[simp]
theorem keyName_stored (ledger : Ledger) (item : Json) (store : Store) :
    ((ledger.stored item store).table ledger.table).keyName =
      (store.table ledger.table).keyName := by
  simp [stored]

theorem Write.effect (write : ledger.Write item store answer after) :
    ledger.Effect item store after := by
  cases write with
  | acknowledged vacant => exact .inr ⟨vacant, rfl⟩
  | lost vacant => exact .inr ⟨vacant, rfl⟩
  | failed => exact .inl rfl
  | refused => exact .inl rfl

theorem Effect.keyName_eq (effect : ledger.Effect item store after) :
    (after.table ledger.table).keyName = (store.table ledger.table).keyName := by
  rcases effect with rfl | ⟨_, rfl⟩
  · rfl
  · simp

/-- Once the item is stored, its row is not vacant any more. -/
theorem Effect.trans {middle : Store} (first : ledger.Effect item store middle)
    (second : ledger.Effect item middle after) : ledger.Effect item store after := by
  rcases first with rfl | ⟨vacant, rfl⟩
  · exact second
  · rcases second with rfl | ⟨still, _⟩
    · exact .inr ⟨vacant, rfl⟩
    · simp at still

/-! ## All attempts -/

/-- What the last attempt of a call has met: with the exchanges, the call was made for the last
time when the row was there already. -/
def Met (ledger : Ledger) (item : Json) (store : Store) (exchanges : List Exchange) (row : Json) :
    Prop :=
  ∃ past answer later reached,
    exchanges = past ++ ⟨.service (ledger.writeCall item), answer⟩ :: later ∧
    (∀ exchange ∈ later, exchange.request.Routine) ∧ store.Faithful past reached ∧
    reached.row? ledger.table (rowKey item) = some row

/-- What repeated attempts to store an item come to. -/
structure Attempted (ledger : Ledger) (item : Json) (store : Store) (exchanges : List Exchange)
    (after : Store) (outcome : Except Failure Outcome) : Prop where
  effect : ledger.Effect item store after
  success : ∀ given, outcome = .ok given → given.isSuccess →
    after.row? ledger.table (rowKey item) = some item
  conflict : ∀ given, outcome = .ok given → given.isConflict →
    ∃ row, ledger.Met item store exchanges row ∧
      after.row? ledger.table (rowKey item) = some row

theorem Met.append {exchanges later : List Exchange} {row : Json}
    (met : ledger.Met item store exchanges row)
    (routine : ∀ exchange ∈ later, exchange.request.Routine) :
    ledger.Met item store (exchanges ++ later) row := by
  obtain ⟨past, answer, rest, reached, rfl, routineRest, before, held⟩ := met
  refine ⟨past, answer, rest ++ later, reached, by simp, ?_, before, held⟩
  intro exchange made
  rcases List.mem_append.mp made with inRest | inLater
  · exact routineRest exchange inRest
  · exact routine exchange inLater

/-- Attempts that leave the tables to later ones come to what those come to. -/
theorem Attempted.prepend {earlier exchanges : List Exchange} {middle : Store}
    {outcome : Except Failure Outcome} (effect : ledger.Effect item store middle)
    (faithful : store.Faithful earlier middle)
    (attempted : ledger.Attempted item middle exchanges after outcome) :
    ledger.Attempted item store (earlier ++ exchanges) after outcome where
  effect := effect.trans attempted.effect
  success := attempted.success
  conflict := by
    intro given same conflict
    obtain ⟨row, ⟨past, answer, later, reached, rfl, routine, before, held⟩, present⟩ :=
      attempted.conflict given same conflict
    refine ⟨row, ⟨earlier ++ past, answer, later, reached, ?_, routine, faithful.append before,
      held⟩, present⟩
    rw [List.append_assoc]

/-- A failed attempt after which there is no other one. -/
theorem Write.attempted_last {failure : Failure} {later : List Exchange}
    {outcome : Except Failure Outcome} (write : ledger.Write item store (.error failure) after)
    (routine : ∀ exchange ∈ later, exchange.request.Routine)
    (classified : ∀ given, outcome = .ok given → Outcome.ofServiceFailure failure = .ok given) :
    ledger.Attempted item store (⟨.service (ledger.writeCall item), .error failure⟩ :: later)
      after outcome where
  effect := write.effect
  success := fun given same success =>
    (Outcome.not_isSuccess_of_ofServiceFailure (classified given same) success).elim
  conflict := by
    intro given same conflict
    have isConflict : failure.IsConflict := ⟨given, classified given same, conflict⟩
    cases write with
    | lost _ other => exact (other isConflict).elim
    | failed other => exact (other isConflict).elim
    | refused occupied _ =>
        obtain ⟨row, held⟩ := Option.isSome_iff_exists.mp occupied
        exact ⟨row, ⟨[], _, later, store, rfl, routine, .nil store, held⟩, held⟩

/-- The induction is on the attempts that are left; the tables change with each of them. -/
theorem attempted_of_ends {repetition : Repetition} {attempt remaining : Nat}
    {exchanges : List Exchange} {outcome : Except Failure Outcome}
    (keyed : (store.table ledger.table).keyName = "delivery_key")
    (faithful : store.Faithful exchanges after)
    (ended : ((ledger.writeCall item).attempts repetition attempt remaining).Ends exchanges
      outcome) : ledger.Attempted item store exchanges after outcome := by
  induction remaining generalizing attempt store exchanges with
  | zero =>
      obtain ⟨rfl, rfl⟩ := ends_done.mp ended
      cases faithful
      refine ⟨.inl rfl, ?_, ?_⟩
      · rintro _ ⟨⟩ success
        cases success
      · rintro _ ⟨⟩ conflict
        cases conflict
  | succ remaining ih =>
      obtain ⟨answer, later, rfl, onward⟩ := ServiceCall.onward_of_ends_attempts ended
      cases faithful with
      | @cons _ middle _ _ _ answers truthful rest =>
      have write : ledger.Write item store answer middle :=
        (write_iff keyed).mp ⟨answers, truthful⟩
      cases onward with
      | answered response =>
          cases rest
          cases write with
          | acknowledged vacant =>
              refine ⟨.inr ⟨vacant, rfl⟩, by simp, ?_⟩
              rintro _ ⟨⟩ conflict
              cases conflict
      | givenUp routine classified =>
          obtain rfl := rest.eq_of_routine routine
          exact write.attempted_last routine classified
      | repeated routine again =>
          obtain ⟨between, waited, restLater⟩ := rest.split
          obtain rfl := waited.eq_of_routine routine
          have keyedBetween : (between.table ledger.table).keyName = "delivery_key" := by
            rw [write.effect.keyName_eq, keyed]
          exact (ih keyedBetween restLater again).prepend write.effect
            (.cons answers truthful waited)

/-! ## One record -/

/-- What recording a delivery reports about the outcome of its write. -/
def reported (given : Outcome) : Outcome :=
  if given.isConflict then
    .success (.object [("recorded", .bool false)]) "delivery already recorded"
  else if given.isSuccess then .success (.object [("recorded", .bool true)]) "ok"
  else given

/-- The courses of recording a delivery: the clock failed, or its moment was stamped on the item of
the delivery and attempts were made to store that item. -/
inductive RecordCourse (ledger : Ledger) (destination : DestinationId) (alertId : Int)
    (messageId : String) (externalId : Option String) :
    List Exchange → Except Failure Outcome → Prop
  | unstamped {exchanges : List Exchange} (failure : Failure)
      (routine : ∀ exchange ∈ exchanges, exchange.request.Routine) :
      RecordCourse ledger destination alertId messageId externalId exchanges (.error failure)
  | attempted {now recordedAt : Moment} {starting made reporting : List Exchange}
      {given outcome : Except Failure Outcome} (stamped : universal now = .ok recordedAt)
      (started : ∀ exchange ∈ starting, exchange.request.Routine)
      (ended : ((ledger.writeCall (DeliveryRecord.toItem alertId destination messageId externalId
        recordedAt)).attempts (.ofOptions firstWrite) 0 3).Ends made given)
      (routine : ∀ exchange ∈ reporting, exchange.request.Routine)
      (concluded : outcome = given.map reported) :
      RecordCourse ledger destination alertId messageId externalId
        (⟨.now, .ok now⟩ :: (starting ++ (made ++ reporting))) outcome

/-- A first write is attempted three times at most. -/
theorem putItem_eq (ledger : Ledger) (item : Json) :
    ledger.tables.putItem ledger.table item firstWrite =
      (TableClient.logStart (.putItem ledger.table item firstWrite)).bind fun _ =>
        (ledger.writeCall item).attempts (.ofOptions firstWrite) 0 3 :=
  rfl

theorem attempts_of_ends_putItem {exchanges : List Exchange} {given : Except Failure Outcome}
    (ended : (ledger.tables.putItem ledger.table item firstWrite).Ends exchanges given) :
    ∃ starting made, exchanges = starting ++ made ∧
      (∀ exchange ∈ starting, exchange.request.Routine) ∧
      ((ledger.writeCall item).attempts (.ofOptions firstWrite) 0 3).Ends made given := by
  rw [putItem_eq] at ended
  rcases ends_bind.mp ended with ⟨_, noEnd, _⟩ | ⟨starting, made, _, rfl, logged, attempted⟩
  · simp [TableClient.logStart] at noEnd
  · obtain ⟨rfl, _⟩ := ends_log.mp logged
    exact ⟨_, made, rfl, by simp [Request.Routine], attempted⟩

theorem course_of_ends_record {destination : DestinationId} {alertId : Int} {messageId : String}
    {externalId : Option String} {exchanges : List Exchange} {outcome : Except Failure Outcome}
    (ended : (ledger.record destination alertId messageId externalId).Ends exchanges outcome) :
    ledger.RecordCourse destination alertId messageId externalId exchanges outcome := by
  obtain ⟨timed, later, rfl, endedTimed⟩ := ends_ask.mp ended
  cases timed with
  | error failure =>
      obtain ⟨rfl, rfl⟩ := ends_fail.mp endedTimed
      exact .unstamped failure (by simp [Request.Routine])
  | ok now =>
      have endedStamp : ((Program.ofExcept (universal now)).bind _).Ends later outcome := endedTimed
      rcases ends_bind.mp endedStamp with
        ⟨failure, unstamped, rfl⟩ | ⟨_, _, recordedAt, rfl, stamping, endedRest⟩
      · obtain ⟨rfl, _⟩ := ends_ofExcept.mp unstamped
        exact .unstamped failure (by simp [Request.Routine])
      obtain ⟨rfl, stamped⟩ := ends_ofExcept.mp stamping
      rcases ends_bind.mp endedRest with
        ⟨failure, put, rfl⟩ | ⟨_, reporting, given, rfl, put, endedReport⟩
      · obtain ⟨starting, made, rfl, started, attempted⟩ := attempts_of_ends_putItem put
        rw [List.nil_append, ← List.append_nil made]
        exact .attempted stamped.symm started attempted (by simp) rfl
      · obtain ⟨starting, made, rfl, started, attempted⟩ := attempts_of_ends_putItem put
        have concluded : outcome = .ok (reported given) ∧
            ∀ exchange ∈ reporting, exchange.request.Routine := by
          rw [reported]
          split at endedReport
          · rename_i conflict
            rw [if_pos conflict]
            exact Registry.ends_reported endedReport
          · rename_i other
            rw [if_neg other]
            split at endedReport
            · rename_i success
              rw [if_pos success]
              exact Registry.ends_reported endedReport
            · rename_i failing
              rw [if_neg failing]
              obtain ⟨rfl, rfl⟩ := ends_done.mp endedReport
              exact ⟨rfl, by simp⟩
        rw [List.nil_append, List.append_assoc]
        exact .attempted stamped.symm started attempted concluded.2 concluded.1

theorem Effect.row?_kept (effect : ledger.Effect item store after) {key : String} {row : Json}
    (held : store.row? ledger.table key = some row) : after.row? ledger.table key = some row := by
  rcases effect with rfl | ⟨vacant, rfl⟩
  · exact held
  · have different : key ≠ rowKey item := by
      rintro rfl
      rw [vacant] at held
      cases held
    simpa [stored, Store.row?, Table.get?_put_of_ne _ _ different] using held

theorem Effect.row?_apart (effect : ledger.Effect item store after) {key : String}
    (different : key ≠ rowKey item) :
    after.row? ledger.table key = store.row? ledger.table key := by
  rcases effect with rfl | ⟨_, rfl⟩
  · rfl
  · simp [stored, Store.row?, Table.get?_put_of_ne _ _ different]

theorem Effect.table_elsewhere (effect : ledger.Effect item store after) {name : String}
    (different : name ≠ ledger.table) : after.table name = store.table name := by
  rcases effect with rfl | ⟨_, rfl⟩
  · rfl
  · exact Store.table_setTable_of_ne _ _ different

section Record

variable (ledger : Ledger) (destination : DestinationId) (alertId : Int) (messageId : String)
  (externalId : Option String)

/-- The item of a call: it bears the moment that the clock told, and it is the item of every write
of the call. -/
structure OwnItem (exchanges : List Exchange) (item : Json) : Prop where
  stamped : ∃ now recordedAt, ⟨.now, .ok now⟩ ∈ exchanges ∧ universal now = .ok recordedAt ∧
    item = DeliveryRecord.toItem alertId destination messageId externalId recordedAt
  written : ∀ exchange ∈ exchanges, ∀ call, exchange.request = .service call →
    call = ledger.writeCall item

/-- What recording a delivery does to the tables, and what its outcome tells about them. -/
structure RecordedOnce (store : Store) (exchanges : List Exchange) (after : Store)
    (outcome : Except Failure Outcome) : Prop where
  /-- Whatever the outcome, the tables are as before, except possibly for the item of the call. -/
  effect : after = store ∨ ∃ item,
    ledger.OwnItem destination alertId messageId externalId exchanges item ∧
    store.row? ledger.table (deliveryKey alertId destination) = none ∧
    after = store.setTable ledger.table
      ((store.table ledger.table).put (deliveryKey alertId destination) item)
  kept : ∀ {key row}, store.row? ledger.table key = some row →
    after.row? ledger.table key = some row
  apart : ∀ {key}, key ≠ deliveryKey alertId destination →
    after.row? ledger.table key = store.row? ledger.table key
  elsewhere : ∀ {name}, name ≠ ledger.table → after.table name = store.table name
  /-- A success tells whose row there is: the one of the call, or one that its last attempt met. -/
  success : ∀ given, outcome = .ok given → given.isSuccess → ∃ item row,
    ledger.OwnItem destination alertId messageId externalId exchanges item ∧
    after.row? ledger.table (deliveryKey alertId destination) = some row ∧
    ((given.data = .object [("recorded", .bool true)] ∧ row = item) ∨
      (given.data = .object [("recorded", .bool false)] ∧
        ledger.Met item store exchanges row))

variable {ledger destination alertId messageId externalId}

theorem reported_cases {given : Outcome} (success : (reported given).isSuccess) :
    (given.isConflict ∧ (reported given).data = .object [("recorded", .bool false)]) ∨
      (given.isSuccess ∧ (reported given).data = .object [("recorded", .bool true)]) := by
  rw [reported] at success ⊢
  split
  · rename_i conflict
    exact .inl ⟨conflict, rfl⟩
  · rename_i other
    rw [if_neg other] at success
    split
    · rename_i successful
      exact .inr ⟨successful, rfl⟩
    · rename_i failing
      rw [if_neg failing] at success
      exact (failing success).elim

@[simp]
theorem rowKey_toItem (recordedAt : Moment) :
    rowKey (DeliveryRecord.toItem alertId destination messageId externalId recordedAt) =
      deliveryKey alertId destination :=
  DeliveryRecord.keyOf_toItem alertId destination messageId externalId recordedAt

theorem ownItem_of_attempts {now recordedAt : Moment} {repetition : Repetition}
    {attempt remaining : Nat} {starting made reporting : List Exchange}
    {given : Except Failure Outcome} (stamped : universal now = .ok recordedAt)
    (started : ∀ exchange ∈ starting, exchange.request.Routine)
    (ended : ((ledger.writeCall (DeliveryRecord.toItem alertId destination messageId externalId
      recordedAt)).attempts repetition attempt remaining).Ends made given)
    (routine : ∀ exchange ∈ reporting, exchange.request.Routine) :
    ledger.OwnItem destination alertId messageId externalId
      (⟨.now, .ok now⟩ :: starting ++ (made ++ reporting))
      (DeliveryRecord.toItem alertId destination messageId externalId recordedAt) where
  stamped := ⟨now, recordedAt, by simp, stamped, rfl⟩
  written := by
    intro exchange member call same
    simp only [List.cons_append, List.mem_cons, List.mem_append] at member
    rcases member with rfl | inStarting | inMade | inReporting
    · cases same
    · exact ((started exchange inStarting).ne_service call same).elim
    · exact ServiceCall.eq_of_ends_attempts ended inMade same
    · exact ((routine exchange inReporting).ne_service call same).elim

/-- Recording a delivery takes effect at most once, whichever acknowledgements get lost. -/
theorem recordedOnce_of_ends {exchanges : List Exchange} {outcome : Except Failure Outcome}
    (keyed : (store.table ledger.table).keyName = "delivery_key")
    (faithful : store.Faithful exchanges after)
    (ended : (ledger.record destination alertId messageId externalId).Ends exchanges outcome) :
    ledger.RecordedOnce destination alertId messageId externalId store exchanges after
      outcome := by
  cases course_of_ends_record ended with
  | unstamped failure routine =>
      obtain rfl := faithful.eq_of_routine routine
      exact ⟨.inl rfl, id, fun _ => rfl, fun _ => rfl, nofun⟩
  | @attempted now recordedAt starting made reporting given _ stamped started attempted routine
      concluded =>
      have own := ownItem_of_attempts stamped started attempted routine
      have opened : ∀ exchange ∈ ⟨.now, .ok now⟩ :: starting, exchange.request.Routine := by
        simpa [Request.Routine] using started
      have inOrder : store.Faithful ((⟨.now, .ok now⟩ :: starting) ++ (made ++ reporting)) after :=
        faithful
      obtain ⟨reached, opening, rest⟩ := inOrder.split
      obtain ⟨left, making, closing⟩ := rest.split
      obtain rfl := opening.eq_of_routine opened
      obtain rfl := closing.eq_of_routine routine
      have attempts := (attempted_of_ends keyed making attempted).prepend (.inl rfl) opening
      have effect := attempts.effect
      refine ⟨?_, effect.row?_kept, fun different => ?_, effect.table_elsewhere, ?_⟩
      · refine effect.imp_right fun ⟨vacant, stored⟩ => ⟨_, own, ?_, ?_⟩
        · rwa [rowKey_toItem] at vacant
        · rwa [Ledger.stored, rowKey_toItem] at stored
      · exact effect.row?_apart (by rwa [rowKey_toItem])
      · rintro result rfl success
        cases given with
        | error failure => cases concluded
        | ok outcome =>
            cases concluded
            rcases reported_cases success with ⟨conflict, told⟩ | ⟨successful, told⟩
            · obtain ⟨row, met, present⟩ := attempts.conflict outcome rfl conflict
              rw [rowKey_toItem] at present
              refine ⟨_, row, own, present, .inr ⟨told, ?_⟩⟩
              simpa using met.append routine
            · have present := attempts.success outcome rfl successful
              rw [rowKey_toItem] at present
              exact ⟨_, _, own, present, .inl ⟨told, rfl⟩⟩

end Record
end Ledger

/-! ## Acknowledgements that are always lost -/

/-- The exchanges of a run in surroundings that hold tables and refuse nothing without a reason. -/
theorem Store.faithful_run {α σ : Type} {answer : (request : Request) → σ → request.Answer × σ}
    (held : σ → Store)
    (answers : ∀ request state,
      (held state).Answers ⟨request, (answer request state).1⟩ (held (answer request state).2))
    (truthful : ∀ request state,
      (held state).IsTruthful ⟨request, (answer request state).1⟩)
    (program : Program α) (state : σ) :
    (held state).Faithful (program.exchanges answer state) (held (program.run answer state).2) := by
  induction program generalizing state with
  | done value => exact .nil _
  | fail failure => exact .nil _
  | ask request next ih => exact .cons (answers request state) (truthful request state) (ih _ _)

namespace Sample

/-- The failure of a call to a service that is too busy. -/
def throttled : Failure :=
  .service ⟨.object [("Error", .object [("Code", .text "ThrottlingException")])], "PutItem"⟩

theorem not_isConflict_throttled : ¬ throttled.IsConflict := by
  rintro ⟨outcome, classified, conflict⟩
  cases classified
  cases conflict

/-- Answers of a service that carries out what it admits and never acknowledges it. -/
def answerLosing (request : Request) (store : Store) : request.Answer × Store :=
  match request with
  | .service call =>
      if store.admits call.operation then (.error throttled, store.carriedOut call.operation)
      else (.error (Store.conflict call.operation.method), store)
  | request => (answer request, store)

theorem answers_answerLosing (request : Request) (store : Store) :
    store.Answers ⟨request, (answerLosing request store).1⟩ (answerLosing request store).2 := by
  cases request with
  | service call =>
      dsimp only [answerLosing]
      split
      · rename_i admitted
        exact .service (.unacknowledged admitted _)
      · exact .service (.failed _ _)
  | _ => exact .elsewhere nofun

theorem isTruthful_answerLosing (request : Request) (store : Store) :
    store.IsTruthful ⟨request, (answerLosing request store).1⟩ := by
  cases request with
  | service call =>
      dsimp only [answerLosing]
      split
      · exact fun conflict => (not_isConflict_throttled conflict).elim
      · rename_i refused
        exact fun _ => refused
  | _ => trivial

/-- The ledger in the delivery table. -/
def ledger : Ledger := ⟨⟨[], [], 10⟩, deliveries⟩

/-- The record of a first delivery of the alert to the user's inbox. -/
def recording : Program Outcome := ledger.record inboxId 7 "first" none

/-- Whether an outcome tells that the delivery is recorded already. -/
def tellsRecorded : Json → Bool
  | .object [("recorded", .bool false)] => true
  | _ => false

theorem eq_of_tellsRecorded {data : Json} (told : tellsRecorded data = true) :
    data = .object [("recorded", .bool false)] := by
  unfold tellsRecorded at told
  split at told
  · rfl
  · cases told

end Sample

/-- A call whose first write was stored without an acknowledgement meets its own item, and reports
truly that there is a row. -/
theorem recorded_without_acknowledgement :
    ∃ exchanges given after, Sample.tables.Faithful exchanges after ∧
      Sample.recording.Ends exchanges (.ok given) ∧
      given.data = .object [("recorded", .bool false)] ∧
      Sample.ledger.RecordedOnce Sample.inboxId 7 "first" none Sample.tables exchanges after
        (.ok given) := by
  have passed : passes (fun given => Sample.tellsRecorded given.data)
      (Sample.recording.run Sample.answerLosing Sample.tables).1 = true := by
    decide +kernel
  have faithful := Store.faithful_run id Sample.answers_answerLosing Sample.isTruthful_answerLosing
    Sample.recording Sample.tables
  obtain ⟨given, ended, told⟩ := ends_of_passes passed
  exact ⟨_, given, _, faithful, ended, Sample.eq_of_tellsRecorded told,
    Ledger.recordedOnce_of_ends rfl faithful ended⟩

end AlertRelay
