import AlertRelay.Proofs.PushDeliveries

/-!
# Pushes that are stopped

The sender of a push may ask to stop at any moment.  The deliveries look for such a request when
they begin, each at its start, but not after the last one.  Hence a message that nobody took is to
be sent again unless the request came during the last delivery: then it counts as lost, as if the
sender had never asked to stop.
-/

namespace AlertRelay

open Program

/-! ## Only the start of a delivery looks for a request to stop -/

/-- A request other than the question whether to stop. -/
def Request.Heedless (request : Request) : Prop := request ≠ .cancelled

theorem heedless_log (level : LogLevel) (component name : String)
    (details : List (String × Json)) :
    (log level component name details).Makes Request.Heedless :=
  makes_log.mpr nofun

theorem ServiceCall.heedless_attempts (call : ServiceCall) (repetition : Repetition)
    (attempt remaining : Nat) :
    (call.attempts repetition attempt remaining).Makes Request.Heedless := by
  induction remaining generalizing attempt with
  | zero => exact .done _
  | succ remaining ih =>
      refine .ask nofun fun answer => ?_
      cases answer with
      | ok response => exact .done _
      | error failure =>
          dsimp only
          split
          · cases Outcome.ofServiceFailure failure with
            | error fault => exact .fail _
            | ok outcome =>
                dsimp only
                split
                · have waits : (call.waitAfter repetition attempt failure).Makes
                      Request.Heedless :=
                    makes_bind makes_ofExcept fun _ => makes_bind (heedless_log _ _ _ _) fun _ =>
                      makes_bind makes_ofExcept fun _ => makes_request.mpr nofun
                  exact makes_bind waits fun _ => ih _
                · exact makes_bind (heedless_log _ _ _ _) fun _ => .done _
          · exact .fail _

theorem TableClient.heedless_deleteItem (tables : TableClient) (table : String) (key : Json)
    (options : List (String × Json)) :
    (tables.deleteItem table key options).Makes Request.Heedless := by
  have performed : (tables.perform (.deleteItem table key options)).Makes Request.Heedless := by
    rw [perform]
    split
    · exact .fail _
    · exact makes_bind makes_ofExcept fun _ => ServiceCall.heedless_attempts _ _ _ _
  exact makes_bind (heedless_log _ _ _ _) fun _ => performed

theorem SubscriptionStore.heedless_deleteByEndpoint (store : SubscriptionStore)
    (endpoint : String) : (store.deleteByEndpoint endpoint).Makes Request.Heedless := by
  refine makes_bind (TableClient.heedless_deleteItem _ _ _ _) fun outcome => ?_
  split
  · exact makes_bind makes_ofExcept fun _ => makes_bind (heedless_log _ _ _ _) fun _ => .done _
  · exact .done _

namespace BrowserPush

theorem heedless_refused (store : SubscriptionStore) (endpoint : String) (status : Option Int)
    (failure : Failure) : (refused store endpoint status failure).Makes Request.Heedless := by
  refine makes_bind (heedless_log _ _ _ _) fun _ => ?_
  split
  · refine makes_bind (SubscriptionStore.heedless_deleteByEndpoint _ _) fun outcome => ?_
    split
    · exact makes_bind (heedless_log _ _ _ _) fun _ => .done _
    · exact .done _
  · exact .done _

theorem heedless_deliver (store : SubscriptionStore) (request : PushRequest) :
    (deliver store request).Makes Request.Heedless := by
  refine .ask nofun fun answer => ?_
  cases answer with
  | ok _ => exact .done _
  | error failure =>
      cases failure with
      | push text status => exact heedless_refused _ _ _ _
      | transport exchange => exact makes_bind (heedless_log _ _ _ _) fun _ => .done _
      | _ => exact .fail _

/-! ## Deliveries that were begun -/

/-- Whether an exchange lets a delivery begin: the sender has not asked to stop. -/
def goesOn : Exchange → Bool
  | ⟨.cancelled, stop⟩ => !stop
  | _ => false

/-- The count of deliveries that were begun. -/
def begun (exchanges : List Exchange) : Nat := exchanges.countP goesOn

@[simp]
theorem begun_append (first second : List Exchange) :
    begun (first ++ second) = begun first + begun second :=
  List.countP_append

theorem begun_eq_zero_of_heedless {α : Type} {program : Program α} {exchanges : List Exchange}
    {outcome : Except Failure α} (heedless : program.Makes Request.Heedless)
    (ended : program.Ends exchanges outcome) : begun exchanges = 0 := by
  refine List.countP_eq_zero.mpr fun exchange made goes => ?_
  obtain ⟨request, answer⟩ := exchange
  have noQuestion : request ≠ .cancelled := heedless.of_mem ended made
  cases request with
  | cancelled => exact noQuestion rfl
  | _ => cases goes

theorem begun_eq_zero_of_stopped {exchanges : List Exchange}
    (stopped : ⟨.cancelled, false⟩ ∉ exchanges) : begun exchanges = 0 := by
  refine List.countP_eq_zero.mpr fun exchange made goes => ?_
  obtain ⟨request, answer⟩ := exchange
  cases request with
  | cancelled =>
      cases answer with
      | false => exact stopped made
      | true => cases goes
  | _ => cases goes

/-- Every delivery that was begun made one attempt. -/
theorem begun_eq_length_attempts {store : SubscriptionStore}
    {requestFor : PushSubscription → PushRequest} {delivered : Nat}
    {subscriptions : List PushSubscription} {exchanges : List Exchange}
    {outcome : Except Failure (Option Nat)}
    (ended : (deliverAll store requestFor delivered subscriptions).Ends exchanges outcome)
    (served : ∀ exchange ∈ exchanges, exchange.IsServed) :
    begun exchanges = (attempts exchanges).length := by
  induction subscriptions generalizing delivered exchanges with
  | nil =>
      obtain ⟨rfl, rfl⟩ := ends_done.mp ended
      rfl
  | cons subscription rest ih =>
      obtain ⟨stop, later, rfl, endedLater⟩ := ends_ask.mp ended
      rw [attempts_cancelled]
      have servedLater : ∀ exchange ∈ later, exchange.IsServed :=
        fun exchange made => served exchange (List.mem_cons_of_mem _ made)
      cases stop with
      | true =>
          obtain ⟨rfl, rfl⟩ := ends_done.mp endedLater
          rfl
      | false =>
          have first : begun (⟨.cancelled, false⟩ :: later) = begun later + 1 :=
            List.countP_cons_of_pos rfl
          rw [first]
          rcases ends_bind.mp endedLater with
            ⟨failure, failing, rfl⟩ | ⟨pushing, onward, accepted, rfl, pushed, endedRest⟩
          · obtain ⟨answer, single, _⟩ := ends_deliver failing servedLater
            rw [begun_eq_zero_of_heedless (heedless_deliver _ _) failing, single]
            rfl
          · have servedPushing : ∀ exchange ∈ pushing, exchange.IsServed :=
              fun exchange made => servedLater exchange (List.mem_append_left _ made)
            have servedOnward : ∀ exchange ∈ onward, exchange.IsServed :=
              fun exchange made => servedLater exchange (List.mem_append_right _ made)
            obtain ⟨answer, single, _⟩ := ends_deliver pushed servedPushing
            rw [begun_append, begun_eq_zero_of_heedless (heedless_deliver _ _) pushed,
              ih endedRest servedOnward, attempts_append, single, List.length_append]
            simp only [List.length_singleton]
            omega

/-- Deliveries that were cancelled left a subscription untried. -/
theorem Deliveries.length_lt {requestFor : PushSubscription → PushRequest}
    {subscriptions : List PushSubscription} {attempts : List Attempt}
    (deliveries : Deliveries requestFor subscriptions attempts .cancelled) :
    attempts.length < subscriptions.length := by
  generalize ends : Ending.cancelled = ending at deliveries
  induction deliveries with
  | completed => cases ends
  | cancelled => exact Nat.succ_pos _
  | tried _ _ ih => exact Nat.succ_lt_succ (ih ends)
  | failed _ => cases ends

theorem AllTried.length_eq {requestFor : PushSubscription → PushRequest}
    {subscriptions : List PushSubscription} {attempts : List Attempt}
    (allTried : AllTried requestFor subscriptions attempts) :
    attempts.length = subscriptions.length := by
  simpa using congrArg List.length allTried.inOrder

/-! ## A moment at which the sender asks to stop -/

variable {store : SubscriptionStore} {payload : Payload} {config : Config}
  {preparing before after : List Exchange} {subscriptions : List PushSubscription}
  {requestFor : PushSubscription → PushRequest} {outcome : Except Failure SendResult}

theorem acceptedCount_eq_zero {attempts : List Attempt}
    (untaken : ∀ attempt ∈ attempts, ¬ attempt.isAccepted = true) : acceptedCount attempts = 0 :=
  List.countP_eq_zero.mpr untaken

theorem heedless_concluded (payload : Payload) (userId : String)
    (subscriptions : List PushSubscription) (given : Option Nat) :
    (concluded payload userId subscriptions given).Makes Request.Heedless := by
  cases given with
  | none => exact .done _
  | some accepted =>
      refine makes_bind (heedless_log _ _ _ _) fun _ => ?_
      split
      · exact .done _
      · exact .done _

/-- The sender has asked to stop by the time of the exchanges after.  When no subscription takes the
message, it is to be sent again if some delivery was not yet begun by then, and it is lost if all of
them were. -/
theorem again_iff_stopped_before_last
    (ready : Ready store payload config preparing subscriptions requestFor)
    (nonempty : subscriptions ≠ [])
    (ended : (send store payload config).Ends (preparing ++ (before ++ after)) outcome)
    (asked : ⟨.cancelled, false⟩ ∉ after)
    (served : ∀ exchange ∈ before ++ after, exchange.IsServed)
    (untaken : ∀ attempt ∈ attempts (before ++ after), ¬ attempt.isAccepted = true) :
    outcome = .ok
      (if begun before < subscriptions.length then
        SendResult.failedTemporarily payload.id "send cancelled"
      else
        SendResult.failedPermanently payload.id "web push delivery failed for all subscriptions") ∨
    ∃ failure, BrokenOff requestFor failure subscriptions (attempts (before ++ after)) ∧
      outcome = .error failure := by
  obtain ⟨userId, delivering, split, _, endedDeliveries⟩ :=
    ready.onward nonempty ended (List.append_nil _).symm
  obtain rfl := List.append_cancel_left split
  have begunBefore : begun (before ++ after) = begun before := by
    rw [begun_append, begun_eq_zero_of_stopped asked, Nat.add_zero]
  rw [← begunBefore]
  generalize before ++ after = exchanges at *
  rcases ends_bind.mp endedDeliveries with
    ⟨failure, failing, rfl⟩ | ⟨delivering, reporting, delivered, rfl, completed, reported⟩
  · obtain ⟨ending, deliveries, _, same⟩ := ends_deliverAll failing served
    cases ending with
    | completed => cases same
    | cancelled => cases same
    | failed other =>
        cases same
        exact .inr ⟨failure, deliveries.brokenOff, rfl⟩
  · have servedDelivering : ∀ exchange ∈ delivering, exchange.IsServed :=
      fun exchange made => served exchange (List.mem_append_left _ made)
    obtain ⟨noneReported, result⟩ := ends_concluded reported
    rw [attempts_append, noneReported, List.append_nil] at untaken
    obtain ⟨ending, deliveries, _, same⟩ := ends_deliverAll completed servedDelivering
    rw [Nat.zero_add, acceptedCount_eq_zero untaken] at same
    rw [begun_append, begun_eq_zero_of_heedless (heedless_concluded _ _ _ _) reported,
      begun_eq_length_attempts completed servedDelivering, Nat.add_zero]
    refine .inl ?_
    cases ending with
    | failed failure => cases same
    | cancelled =>
        cases same
        rw [result, if_pos deliveries.length_lt]
        rfl
    | completed =>
        cases same
        rw [result, deliveries.allTried.length_eq, if_neg (Nat.lt_irrefl _)]
        rfl

end BrowserPush

/-! ## A request to stop during the last delivery -/

namespace Sample

/-- Answers of a push service that is out of order, to a sender who asks to stop during the first
delivery. -/
def answerStopping (request : Request) (state : Store × Bool) : request.Answer × (Store × Bool) :=
  match request with
  | .service call =>
      let (given, store) := state.1.respond call.operation
      (given, (store, state.2))
  | .push _ => (.error (.push "HTTP 500" (some 500)), (state.1, true))
  | .cancelled => (state.2, state)
  | request => (answer request, state)

def singleBrowser : Store :=
  ⟨[("subscriptions", ⟨"endpoint", [browserRow ⟨"/1", "a", "k"⟩]⟩)], 10⟩

def pushSend : Program SendResult := BrowserPush.send browserStore pushed pushConfig

def isAttempt (exchange : Exchange) : Bool := (BrowserPush.attempt? exchange).isSome

theorem isServed_of_mem_stopping {exchange : Exchange}
    (member : exchange ∈ pushSend.exchanges answerStopping (singleBrowser, false)) :
    exchange.IsServed := by
  obtain ⟨reached, given⟩ := answer_of_mem_exchanges member
  obtain ⟨request, answered⟩ := exchange
  cases request with
  | service call =>
      have responded : answered = (reached.1.respond call.operation).1 := given
      rw [responded]
      exact reached.1.isServed_respond call
  | _ => trivial

/-- In these surroundings nobody takes the message, the sender asks to stop while it is pushed, and
it is lost. -/
theorem exists_stoppedRun :
    ∃ preparing before after subscriptions requestFor result,
      pushSend.Ends (preparing ++ (before ++ after)) (.ok result) ∧
      BrowserPush.Ready browserStore pushed pushConfig preparing subscriptions requestFor ∧
      subscriptions ≠ [] ∧ ⟨.cancelled, false⟩ ∉ after ∧
      (∀ exchange ∈ before ++ after, exchange.IsServed) ∧
      (BrowserPush.attempts (before ++ after)).map BrowserPush.Attempt.isAccepted = [false] ∧
      result.state = .failedPermanently := by
  have passed : passes (fun result => result.state == .failedPermanently)
      (pushSend.run answerStopping (singleBrowser, false)).1 = true := by
    decide +kernel
  have tried : (BrowserPush.attempts (pushSend.exchanges answerStopping
      (singleBrowser, false))).map BrowserPush.Attempt.isAccepted = [false] := by
    decide +kernel
  have asked : ((pushSend.exchanges answerStopping (singleBrowser, false)).dropWhile
      fun exchange => !isAttempt exchange).any BrowserPush.goesOn = false := by
    decide +kernel
  have served (exchange : Exchange) := @isServed_of_mem_stopping exchange
  obtain ⟨result, ended, lost⟩ := ends_of_passes passed
  generalize pushSend.exchanges answerStopping (singleBrowser, false) = exchanges at *
  have attempted : BrowserPush.attempts exchanges ≠ [] := by
    intro none
    rw [none] at tried
    cases tried
  obtain ⟨preparing, later, subscriptions, requestFor, rfl, ready, nonempty⟩ :=
    BrowserPush.ready_of_attempts ended attempted
  -- The sender asks to stop between the start of the delivery and the push.
  have parts : later.takeWhile (!isAttempt ·) ++ later.dropWhile (!isAttempt ·) = later :=
    List.takeWhile_append_dropWhile
  have notPrepared : ∀ exchange ∈ preparing, (!isAttempt exchange) = true := by
    intro exchange made
    have none := List.filterMap_eq_nil_iff.mp ready.attempts_eq_nil exchange made
    rw [isAttempt, none]
    rfl
  rw [List.dropWhile_append_of_pos notPrepared] at asked
  rw [BrowserPush.attempts_append, ready.attempts_eq_nil, List.nil_append] at tried
  refine ⟨preparing, later.takeWhile (!isAttempt ·), later.dropWhile (!isAttempt ·), subscriptions,
    requestFor, result, ?_, ready, nonempty, ?_, ?_, ?_, by simpa using lost⟩
  · rw [parts]
    exact ended
  · intro member
    exact absurd rfl (List.any_eq_false.mp asked _ member)
  · rw [parts]
    exact fun exchange made => served exchange (List.mem_append_right _ made)
  · rw [parts]
    exact tried

end Sample

/-- Nobody took the message, and the sender had asked to stop by the end of the send; still the
message is lost for good. -/
theorem lost_although_stopped :
    passes (fun result => result.state == .failedPermanently)
      (Sample.pushSend.run Sample.answerStopping (Sample.singleBrowser, false)).1 = true ∧
    (Sample.pushSend.run Sample.answerStopping (Sample.singleBrowser, false)).2.2 = true ∧
    (BrowserPush.attempts (Sample.pushSend.exchanges Sample.answerStopping
      (Sample.singleBrowser, false))).map BrowserPush.Attempt.isAccepted = [false] := by
  refine ⟨?_, ?_, ?_⟩
  · decide +kernel
  · decide +kernel
  · decide +kernel

/-- A message is lost when all deliveries are begun before the sender asks to stop. -/
theorem lost_by_late_stop :
    ∃ preparing before after subscriptions requestFor result,
      Sample.pushSend.Ends (preparing ++ (before ++ after)) (.ok result) ∧
      BrowserPush.Ready Sample.browserStore Sample.pushed Sample.pushConfig preparing subscriptions
        requestFor ∧
      ⟨.cancelled, false⟩ ∉ after ∧ subscriptions.length ≤ BrowserPush.begun before := by
  obtain ⟨preparing, before, after, subscriptions, requestFor, result, ended, ready, nonempty,
    asked, served, tried, lost⟩ := Sample.exists_stoppedRun
  have untaken : ∀ attempt ∈ BrowserPush.attempts (before ++ after),
      ¬ attempt.isAccepted = true := by
    intro attempt made accepted
    have among : true ∈ (BrowserPush.attempts (before ++ after)).map
        BrowserPush.Attempt.isAccepted := List.mem_map.mpr ⟨attempt, made, accepted⟩
    rw [tried] at among
    exact absurd among (by decide)
  refine ⟨preparing, before, after, subscriptions, requestFor, result, ended, ready, asked, ?_⟩
  refine Nat.le_of_not_lt fun early => ?_
  rcases BrowserPush.again_iff_stopped_before_last ready nonempty ended asked served untaken with
    same | ⟨failure, _, same⟩
  · rw [if_pos early] at same
    cases same
    cases lost
  · cases same

end AlertRelay
