import AlertRelay.Proofs.RequestRoles
import AlertRelay.Table.Client

/-!
# Calls of the table service

However often a call is repeated, it is the same call each time, and a success reports an answer
that the service gave to it.
-/

namespace AlertRelay

open Program

section Requests

variable {allowed : Request → Prop} (routine : ∀ request, request.Routine → allowed request)

include routine

theorem makes_log_of_routine (level : LogLevel) (component name : String)
    (details : List (String × Json)) :
    (Program.log level component name details).Makes allowed :=
  makes_log.mpr (routine _ trivial)

theorem makes_reported {α : Type} (level : LogLevel) (component name : String)
    (details : List (String × Json)) (value : α) :
    ((Program.log level component name details).bind fun _ => .done value).Makes allowed :=
  makes_bind (makes_log_of_routine routine _ _ _ _) fun _ => .done _

namespace ServiceCall

theorem makes_waitAfter (call : ServiceCall) (repetition : Repetition) (attempt : Nat)
    (failure : Failure) : (call.waitAfter repetition attempt failure).Makes allowed := by
  refine makes_bind makes_ofExcept fun pause => ?_
  refine makes_bind (makes_log_of_routine routine _ _ _ _) fun _ => ?_
  exact makes_bind makes_ofExcept fun seconds => makes_request.mpr (routine _ trivial)

theorem makes_attempts {call : ServiceCall} (called : allowed (.service call))
    (repetition : Repetition) (attempt remaining : Nat) :
    (call.attempts repetition attempt remaining).Makes allowed := by
  induction remaining generalizing attempt with
  | zero => exact .done _
  | succ remaining ih =>
      refine .ask called fun answer => ?_
      cases answer with
      | ok response => exact .done _
      | error failure =>
          dsimp only
          split
          · cases Outcome.ofServiceFailure failure with
            | error fault => exact .fail _
            | ok outcome =>
                dsimp only
                split
                · exact makes_bind (makes_waitAfter routine _ _ _ _) fun _ => ih _
                · exact makes_reported routine _ _ _ _ _
          · exact .fail _

theorem makes_execute {call : ServiceCall} (called : allowed (.service call))
    (repetition : Repetition) : (call.execute repetition).Makes allowed :=
  makes_bind makes_ofExcept fun _ => makes_attempts routine called _ _ _

end ServiceCall

namespace TableClient

/-- The call that performing an operation makes. -/
def sent (tables : TableClient) (operation : Operation) : ServiceCall :=
  tables.call (operation.withOptions (Repetition.otherOptions operation.options))

theorem makes_perform {tables : TableClient} {operation : Operation}
    (called : allowed (.service (tables.sent operation))) :
    (tables.perform operation).Makes allowed := by
  rw [perform]
  split
  · exact .fail _
  · exact ServiceCall.makes_execute routine called _

theorem makes_getItem {tables : TableClient} {table : String} {key : Json}
    {options : List (String × Json)}
    (called : allowed (.service (tables.sent (.getItem table key options)))) :
    (tables.getItem table key options).Makes allowed :=
  makes_bind (makes_log_of_routine routine _ _ _ _) fun _ => makes_perform routine called

theorem makes_putItem {tables : TableClient} {table : String} {item : Json}
    {options : List (String × Json)}
    (called : allowed (.service (tables.sent (.putItem table item options)))) :
    (tables.putItem table item options).Makes allowed :=
  makes_bind (makes_log_of_routine routine _ _ _ _) fun _ => makes_perform routine called

theorem makes_deleteItem {tables : TableClient} {table : String} {key : Json}
    {options : List (String × Json)}
    (called : allowed (.service (tables.sent (.deleteItem table key options)))) :
    (tables.deleteItem table key options).Makes allowed :=
  makes_bind (makes_log_of_routine routine _ _ _ _) fun _ => makes_perform routine called

omit routine in
/-- Going on to another page asks for the same user. -/
theorem queriedUser_setEntry (options : List (String × Json)) (key : Json) :
    Store.queriedUser (setEntry options startOption key) = Store.queriedUser options := by
  rw [Store.queriedUser, Store.queriedUser, lookup_setEntry_of_ne _ _ _ (by decide)]

theorem makes_pages {tables : TableClient} {table : String} {user : Json}
    (called : ∀ options, Store.queriedUser options = user →
      allowed (.service (tables.sent (.query table options))))
    (items : List Json) (limit : Nat) {options : List (String × Json)}
    (asked : Store.queriedUser options = user) :
    (tables.pages table items limit options).Makes allowed := by
  induction limit generalizing items options with
  | zero => exact .done _
  | succ limit ih =>
      refine makes_bind (makes_perform routine (called options asked)) fun outcome => ?_
      dsimp only
      split
      · split
        · split
          · exact .fail _
          · split
            · exact ih _ ((queriedUser_setEntry _ _).trans asked)
            · exact .done _
        · exact .fail _
      · exact .done _

theorem makes_query {tables : TableClient} {table : String} {user : Json}
    (called : ∀ options, Store.queriedUser options = user →
      allowed (.service (tables.sent (.query table options))))
    {options : List (String × Json)} (asked : Store.queriedUser options = user) :
    (tables.query table options).Makes allowed := by
  refine makes_bind (makes_log_of_routine routine _ _ _ _) fun _ => ?_
  change (tables.allPages table options).Makes allowed
  refine makes_bind (makes_pages routine called _ _ asked) fun outcome => ?_
  split
  · exact makes_reported routine _ _ _ _ _
  · exact .done _

end TableClient

end Requests

/-! ## Answers that an outcome reports -/

namespace Outcome

theorem not_isSuccess_of_serviceErrors {name code message : String} {status : OutcomeStatus}
    (listed : serviceErrors.lookup name = some (status, code, message)) : status ≠ .success := by
  obtain ⟨before, after, split, _⟩ := List.lookup_eq_some_iff.mp listed
  have member : (name, status, code, message) ∈ serviceErrors := by simp [split]
  simp only [serviceErrors, List.mem_cons, Prod.mk.injEq, List.not_mem_nil, or_false] at member
  rcases member with ⟨_, rfl, _⟩ | ⟨_, rfl, _⟩ | ⟨_, rfl, _⟩ | ⟨_, rfl, _⟩ | ⟨_, rfl, _⟩ <;> decide

@[simp]
theorem isSuccess_transientError (message : String) (code : Option String) :
    (transientError message code).isSuccess = false :=
  rfl

theorem not_isSuccess_of_ofServiceCode {code : Json} {outcome : Outcome}
    (classified : ofServiceCode code = .ok outcome) : ¬ outcome.isSuccess := by
  cases code with
  | text name =>
      simp only [ofServiceCode] at classified
      split at classified
      · cases classified
        simp [isSuccess]
      · split at classified
        · rename_i status errorCode message listed
          cases classified
          simpa [isSuccess] using not_isSuccess_of_serviceErrors listed
        · cases classified
          simp
  | list items => cases classified
  | object members => cases classified
  | _ =>
      cases classified
      simp

/-- A failed request to the table service is never reported as a success. -/
theorem not_isSuccess_of_ofServiceFailure {failure : Failure} {outcome : Outcome}
    (classified : ofServiceFailure failure = .ok outcome) : ¬ outcome.isSuccess := by
  cases failure with
  | service refusal => exact not_isSuccess_of_ofServiceCode classified
  | _ =>
      cases classified
      simp

end Outcome

namespace ServiceCall

/-- What follows an attempt: it was answered, it was the last one and failed, or the call is
repeated after a pause. -/
inductive Onward (call : ServiceCall) (repetition : Repetition) (attempt remaining : Nat) :
    Except Failure Json → List Exchange → Except Failure Outcome → Prop
  | answered (response : Json) :
      Onward call repetition attempt remaining (.ok response) []
        (.ok (.success response s!"{call.name} succeeded"))
  | givenUp {failure : Failure} {later : List Exchange} {outcome : Except Failure Outcome}
      (routine : ∀ exchange ∈ later, exchange.request.Routine)
      (classified : ∀ given, outcome = .ok given →
        Outcome.ofServiceFailure failure = .ok given) :
      Onward call repetition attempt remaining (.error failure) later outcome
  | repeated {failure : Failure} {waiting later : List Exchange} {outcome : Except Failure Outcome}
      (routine : ∀ exchange ∈ waiting, exchange.request.Routine)
      (again : (call.attempts repetition (attempt + 1) remaining).Ends later outcome) :
      Onward call repetition attempt remaining (.error failure) (waiting ++ later) outcome

theorem onward_of_ends_attempts {call : ServiceCall} {repetition : Repetition}
    {attempt remaining : Nat} {exchanges : List Exchange} {outcome : Except Failure Outcome}
    (ended : (call.attempts repetition attempt (remaining + 1)).Ends exchanges outcome) :
    ∃ answer later, exchanges = ⟨.service call, answer⟩ :: later ∧
      call.Onward repetition attempt remaining answer later outcome := by
  obtain ⟨answer, later, rfl, endedLater⟩ := ends_ask.mp ended
  refine ⟨answer, later, rfl, ?_⟩
  cases answer with
  | ok response =>
      obtain ⟨rfl, rfl⟩ := ends_done.mp endedLater
      exact .answered response
  | error failure =>
      dsimp only at endedLater
      split at endedLater
      · split at endedLater
        · obtain ⟨rfl, rfl⟩ := ends_fail.mp endedLater
          exact .givenUp (by simp) (by simp)
        · rename_i given classified
          split at endedLater
          · have waits := makes_waitAfter (fun _ routine => routine) call repetition attempt failure
            rcases ends_bind.mp endedLater with
              ⟨_, waited, rfl⟩ | ⟨waiting, rest, _, rfl, waited, again⟩
            · exact .givenUp (fun _ made => waits.of_mem waited made) (by simp)
            · exact .repeated (fun _ made => waits.of_mem waited made) again
          · have reports : ((call.logFailure given failure).bind fun _ => .done given).Makes
                Request.Routine := makes_reported (fun _ routine => routine) _ _ _ _ _
            rcases ends_bind.mp endedLater with ⟨_, noEnd, _⟩ | ⟨_, _, _, _, _, last⟩
            · simp [logFailure] at noEnd
            · obtain ⟨_, rfl⟩ := ends_done.mp last
              refine .givenUp (fun _ made => reports.of_mem endedLater made) ?_
              rintro _ ⟨⟩
              exact classified
      · obtain ⟨rfl, rfl⟩ := ends_fail.mp endedLater
        exact .givenUp (by simp) (by simp)

/-- A successful outcome reports an answer that the service gave to the call. -/
theorem answered_of_ends_attempts {call : ServiceCall} {repetition : Repetition}
    {attempt remaining : Nat} {exchanges : List Exchange} {outcome : Outcome}
    (ended : (call.attempts repetition attempt remaining).Ends exchanges (.ok outcome))
    (success : outcome.isSuccess) :
    ⟨.service call, .ok outcome.data⟩ ∈ exchanges := by
  induction remaining generalizing attempt exchanges with
  | zero =>
      obtain ⟨rfl, same⟩ := ends_done.mp ended
      cases same
      cases success
  | succ remaining ih =>
      obtain ⟨answer, later, rfl, onward⟩ := onward_of_ends_attempts ended
      cases onward with
      | answered response => exact List.mem_cons_self
      | givenUp _ classified =>
          exact (Outcome.not_isSuccess_of_ofServiceFailure (classified _ rfl) success).elim
      | repeated _ again =>
          exact List.mem_cons_of_mem _ (List.mem_append_right _ (ih again))

/-- The first answer of the service ends the attempts of a call with a success that reports it. -/
theorem outcome_of_answered {call other : ServiceCall} {repetition : Repetition}
    {attempt remaining : Nat} {exchanges : List Exchange} {outcome : Except Failure Outcome}
    {response : Json}
    (ended : (call.attempts repetition attempt remaining).Ends exchanges outcome)
    (made : ⟨.service other, .ok response⟩ ∈ exchanges) :
    outcome = .ok (.success response s!"{call.name} succeeded") := by
  induction remaining generalizing attempt exchanges with
  | zero =>
      obtain ⟨rfl, _⟩ := ends_done.mp ended
      cases made
  | succ remaining ih =>
      obtain ⟨answer, later, rfl, onward⟩ := onward_of_ends_attempts ended
      cases onward with
      | answered told =>
          rcases List.mem_cons.mp made with same | rest
          · cases same
            rfl
          · cases rest
      | givenUp routine _ =>
          rcases List.mem_cons.mp made with same | rest
          · cases same
          · exact (routine _ rest).elim
      | repeated routine again =>
          rcases List.mem_cons.mp made with same | rest
          · cases same
          · rcases List.mem_append.mp rest with waiting | later
            · exact (routine _ waiting).elim
            · exact ih again later

end ServiceCall

namespace TableClient

theorem answered_of_ends_perform {tables : TableClient} {operation : Operation}
    {exchanges : List Exchange} {outcome : Outcome}
    (ended : (tables.perform operation).Ends exchanges (.ok outcome))
    (success : outcome.isSuccess) :
    ⟨.service (tables.sent operation), .ok outcome.data⟩ ∈ exchanges := by
  rw [perform] at ended
  split at ended
  · simp at ended
  · obtain ⟨first, second, count, rfl, _, attempted⟩ := ends_bind_ok.mp ended
    exact List.mem_append_right _ (ServiceCall.answered_of_ends_attempts attempted success)

theorem answered_of_ends_getItem {tables : TableClient} {table : String} {key : Json}
    {options : List (String × Json)} {exchanges : List Exchange} {outcome : Outcome}
    (ended : (tables.getItem table key options).Ends exchanges (.ok outcome))
    (success : outcome.isSuccess) :
    ⟨.service (tables.sent (.getItem table key options)), .ok outcome.data⟩ ∈ exchanges := by
  obtain ⟨first, second, _, rfl, _, performed⟩ := ends_bind_ok.mp ended
  exact List.mem_append_right _ (answered_of_ends_perform performed success)

theorem outcome_of_answered {tables : TableClient} {operation : Operation}
    {other : ServiceCall} {exchanges : List Exchange} {outcome : Except Failure Outcome}
    {response : Json} (ended : (tables.perform operation).Ends exchanges outcome)
    (made : ⟨.service other, .ok response⟩ ∈ exchanges) :
    ∃ message, outcome = .ok (.success response message) := by
  rw [perform] at ended
  split at ended
  · obtain ⟨rfl, _⟩ := ends_fail.mp ended
    cases made
  · rcases ends_bind.mp ended with
      ⟨_, uncounted, _⟩ | ⟨first, second, count, rfl, counted, attempted⟩
    · obtain ⟨rfl, _⟩ := ends_ofExcept.mp uncounted
      cases made
    · obtain ⟨rfl, _⟩ := ends_ofExcept.mp counted
      exact ⟨_, ServiceCall.outcome_of_answered attempted made⟩

/-- A read that is answered succeeds with the answer. -/
theorem outcome_of_answered_getItem {tables : TableClient} {table : String} {key : Json}
    {options : List (String × Json)} {other : ServiceCall} {exchanges : List Exchange}
    {outcome : Except Failure Outcome} {response : Json}
    (ended : (tables.getItem table key options).Ends exchanges outcome)
    (made : ⟨.service other, .ok response⟩ ∈ exchanges) :
    ∃ message, outcome = .ok (.success response message) := by
  obtain ⟨performing, rfl, performed⟩ := ends_log_bind.mp ended
  have endedPerform : (tables.perform (.getItem table key options)).Ends performing outcome :=
    performed
  rcases List.mem_cons.mp made with same | later
  · cases same
  · exact outcome_of_answered endedPerform later

/-- What belongs to the repetition of a call concerns no other option. -/
theorem lookup_otherOptions {name : String}
    (other : (name != Repetition.retriesOption && name != Repetition.backoffOption) = true)
    (options : List (String × Json)) :
    (Repetition.otherOptions options).lookup name = options.lookup name := by
  have kept := lookup_filter (fun name =>
    name != Repetition.retriesOption && name != Repetition.backoffOption) options name
  rwa [if_pos other] at kept

theorem queriedUser_otherOptions (options : List (String × Json)) :
    Store.queriedUser (Repetition.otherOptions options) = Store.queriedUser options := by
  rw [Store.queriedUser, Store.queriedUser, lookup_otherOptions (by decide)]

/-- With the exchanges, the service told the item on a page of a query for the user. -/
def Told (tables : TableClient) (table : String) (user : Json) (exchanges : List Exchange)
    (item : Json) : Prop :=
  ∃ options page items, Store.queriedUser options = user ∧
    ⟨.service (tables.call (.query table options)), .ok page⟩ ∈ exchanges ∧
    pageItems page = .ok items ∧ item ∈ items

section Told

variable {tables : TableClient} {table : String} {user item : Json} {exchanges : List Exchange}

theorem Told.mono {more : List Exchange} (told : Told tables table user exchanges item)
    (included : exchanges ⊆ more) : Told tables table user more item := by
  obtain ⟨options, page, items, asked, answered, read, member⟩ := told
  exact ⟨options, page, items, asked, included answered, read, member⟩

/-- The items on a page were told by the service. -/
theorem told_of_ends_page {options : List (String × Json)} {page : Outcome} {found : List Json}
    (asked : Store.queriedUser options = user)
    (performed : (tables.perform (.query table options)).Ends exchanges (.ok page))
    (success : page.isSuccess)
    (read : pageItems (if page.data.isTruthy then page.data else .object []) = .ok found)
    (member : item ∈ found) : Told tables table user exchanges item := by
  split at read
  · exact ⟨_, page.data, found, (queriedUser_otherOptions options).trans asked,
      answered_of_ends_perform performed success, read, member⟩
  · cases read
    cases member

/-- The items that pages add to given ones were told by the service. -/
theorem told_of_ends_pages {items : List Json} {limit : Nat} {options : List (String × Json)}
    {outcome : Outcome} (asked : Store.queriedUser options = user)
    (ended : (tables.pages table items limit options).Ends exchanges (.ok outcome))
    (success : outcome.isSuccess) :
    ∃ all, outcome.data = .list all ∧
      ∀ item ∈ all, item ∈ items ∨ Told tables table user exchanges item := by
  induction limit generalizing items options exchanges with
  | zero =>
      obtain ⟨_, same⟩ := ends_done.mp ended
      cases same
      cases success
  | succ limit ih =>
      obtain ⟨first, second, page, rfl, performed, rest⟩ := ends_bind_ok.mp ended
      split at rest
      · rename_i pageSuccess
        have told {found : List Json} (read : pageItems _ = .ok found) {item : Json}
            (member : item ∈ found) : Told tables table user (first ++ second) item :=
          (told_of_ends_page asked performed pageSuccess read member).mono
            (List.subset_append_left _ _)
        generalize (if page.data.isTruthy then page.data else Json.object []) = shown at told rest
        dsimp only at rest
        split at rest
        · split at rest
          · simp at rest
          · rename_i found read
            split at rest
            · obtain ⟨all, isList, within⟩ :=
                ih ((queriedUser_setEntry _ _).trans asked) rest
              refine ⟨all, isList, fun item member => ?_⟩
              rcases within item member with given | later
              · exact (List.mem_append.mp given).imp_right (told read)
              · exact .inr (later.mono (List.subset_append_right _ _))
            · obtain ⟨_, same⟩ := ends_done.mp rest
              cases same
              exact ⟨_, rfl, fun item member =>
                (List.mem_append.mp member).imp_right (told read)⟩
        · simp at rest
      · rename_i failing
        obtain ⟨_, same⟩ := ends_done.mp rest
        cases same
        exact (failing success).elim

/-- A successful query gives items that the service told. -/
theorem told_of_ends_query {options : List (String × Json)} {outcome : Outcome}
    (asked : Store.queriedUser options = user)
    (ended : (tables.query table options).Ends exchanges (.ok outcome))
    (success : outcome.isSuccess) :
    ∃ all, outcome.data = .list all ∧ ∀ item ∈ all, Told tables table user exchanges item := by
  obtain ⟨logged, queried, _, rfl, _, endedQuery⟩ := ends_bind_ok.mp ended
  have endedAll : (tables.allPages table options).Ends queried (.ok outcome) := endedQuery
  obtain ⟨paged, last, found, rfl, endedPages, endedLast⟩ := ends_bind_ok.mp endedAll
  obtain rfl : outcome = found := by
    split at endedLast
    · obtain ⟨_, _, _, _, _, endedDone⟩ := ends_bind_ok.mp endedLast
      obtain ⟨_, same⟩ := ends_done.mp endedDone
      cases same
      rfl
    · obtain ⟨_, same⟩ := ends_done.mp endedLast
      cases same
      rfl
  obtain ⟨all, isList, within⟩ := told_of_ends_pages asked endedPages success
  refine ⟨all, isList, fun item member => ?_⟩
  rcases within item member with none | told
  · cases none
  · exact told.mono fun _ made => List.mem_append_right _ (List.mem_append_left _ made)

end Told

end TableClient
end AlertRelay
