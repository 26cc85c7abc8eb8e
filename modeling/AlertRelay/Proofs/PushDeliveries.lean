import AlertRelay.Proofs.Acceptance
import AlertRelay.Proofs.ChannelFailures

/-!
# Deliveries to browsers

A push message is tried on the subscriptions of a user in order.  A refusal by the push service and
a failed exchange concern one subscription only: they are reported, and the next subscription is
tried.  Any other failure of a push ends the deliveries, and with them what the sender learns of
the pushes that were taken before it.
-/

namespace AlertRelay

open Program Failure

namespace BrowserPush

/-- An attempt to push: the request and what came of it. -/
abbrev Attempt := PushRequest × Except Failure Unit

def attempt? : Exchange → Option Attempt
  | ⟨.push request, answer⟩ => some (request, answer)
  | _ => none

/-- The attempts among exchanges, in order. -/
def attempts (exchanges : List Exchange) : List Attempt := exchanges.filterMap attempt?

def Attempt.isAccepted (attempt : Attempt) : Bool := attempt.2.isOk

/-- Whether an answer concerns one subscription only: the message was taken, the push service
refused it, or the exchange failed. -/
def isContained : Except Failure Unit → Bool
  | .ok _ => true
  | .error (.push ..) => true
  | .error (.transport _) => true
  | .error _ => false

/-- How deliveries come to an end. -/
inductive Ending where
  | completed
  | cancelled
  | failed (failure : Failure)

/-- What deliveries end with after a count of accepted messages. -/
def Ending.outcome (ending : Ending) (accepted : Nat) : Except Failure (Option Nat) :=
  match ending with
  | .completed => .ok (some accepted)
  | .cancelled => .ok (if accepted = 0 then none else some accepted)
  | .failed failure => .error failure

/-- The attempts that deliveries to subscriptions make before they end: one for each subscription
in order, up to a stop or to a failure that concerns more than its subscription. -/
inductive Deliveries (requestFor : PushSubscription → PushRequest) :
    List PushSubscription → List Attempt → Ending → Prop
  | completed : Deliveries requestFor [] [] .completed
  | cancelled {subscription : PushSubscription} {rest : List PushSubscription} :
      Deliveries requestFor (subscription :: rest) [] .cancelled
  | tried {subscription : PushSubscription} {rest : List PushSubscription}
      {answer : Except Failure Unit} {later : List Attempt} {ending : Ending}
      (contained : isContained answer = true) (onward : Deliveries requestFor rest later ending) :
      Deliveries requestFor (subscription :: rest) ((requestFor subscription, answer) :: later)
        ending
  | failed {subscription : PushSubscription} {rest : List PushSubscription} {failure : Failure}
      (spreads : isContained (.error failure) = false) :
      Deliveries requestFor (subscription :: rest) [(requestFor subscription, .error failure)]
        (.failed failure)

section Attempts

@[simp]
theorem attempts_append (first second : List Exchange) :
    attempts (first ++ second) = attempts first ++ attempts second :=
  List.filterMap_append

@[simp]
theorem attempts_push (request : PushRequest) (answer : Except Failure Unit)
    (later : List Exchange) :
    attempts (⟨.push request, answer⟩ :: later) = (request, answer) :: attempts later :=
  rfl

@[simp]
theorem attempts_cancelled (stop : Bool) (later : List Exchange) :
    attempts (⟨.cancelled, stop⟩ :: later) = attempts later :=
  rfl

theorem attempt?_eq_none {exchange : Exchange} (inside : ¬ exchange.request.Outbound) :
    attempt? exchange = none := by
  obtain ⟨request, answer⟩ := exchange
  cases request with
  | push request => exact (inside trivial).elim
  | _ => rfl

theorem attempts_eq_nil_of_makes {α : Type} {program : Program α} {exchanges : List Exchange}
    {outcome : Except Failure α} (makes : program.Makes fun request => ¬ request.Outbound)
    (ended : program.Ends exchanges outcome) : attempts exchanges = [] := by
  refine List.filterMap_eq_nil_iff.mpr fun exchange made => ?_
  exact attempt?_eq_none (makes.of_mem ended made)

theorem not_outbound_of_routine (request : Request) (routine : request.Routine) :
    ¬ request.Outbound :=
  routine.quiet.not_outbound

end Attempts

/-! ## One subscription -/

section Deliver

variable {store : SubscriptionStore}

theorem fails_refused_of_served (endpoint : String) (status : Option Int) (failure : Failure) :
    (refused store endpoint status failure).Fails Exchange.IsServed fun _ => False :=
  fails_refused (fun _ => TableClient.fails_deleteItem_of_served rfl rfl) endpoint status failure

theorem returns_refused (endpoint : String) (status : Option Int) (failure : Failure) :
    (refused store endpoint status failure).Returns fun accepted => accepted = false := by
  refine returns_bind fun _ => ?_
  split
  · refine returns_bind fun outcome => ?_
    split
    · exact returns_bind fun _ => .done rfl
    · exact .done rfl
  · exact .done rfl

theorem makes_refused_inside (endpoint : String) (status : Option Int) (failure : Failure) :
    (refused store endpoint status failure).Makes fun request => ¬ request.Outbound :=
  makes_refused not_outbound_of_routine (fun outbound => outbound) status failure

/-- What pushing to one subscription gives for an answer. -/
def valueOf : Except Failure Unit → Except Failure Bool
  | .ok _ => .ok true
  | .error failure => if isContained (.error failure) then .ok false else .error failure

theorem valueOf_eq_ok {answer : Except Failure Unit} {accepted : Bool}
    (same : valueOf answer = .ok accepted) :
    isContained answer = true ∧ accepted = answer.isOk := by
  cases answer with
  | ok taken =>
      cases same
      exact ⟨rfl, rfl⟩
  | error failure =>
      rw [valueOf] at same
      split at same
      · rename_i contained
        cases same
        exact ⟨contained, rfl⟩
      · cases same

theorem valueOf_eq_error {answer : Except Failure Unit} {failure : Failure}
    (same : valueOf answer = .error failure) :
    answer = .error failure ∧ isContained answer = false := by
  cases answer with
  | ok taken => cases same
  | error other =>
      rw [valueOf] at same
      split at same
      · cases same
      · rename_i spreads
        cases same
        exact ⟨rfl, by simpa using spreads⟩

/-- Pushing to one subscription makes one attempt, and what comes of it decides the outcome. -/
theorem ends_deliver {request : PushRequest} {exchanges : List Exchange}
    {outcome : Except Failure Bool} (ended : (deliver store request).Ends exchanges outcome)
    (served : ∀ exchange ∈ exchanges, exchange.IsServed) :
    ∃ answer, attempts exchanges = [(request, answer)] ∧ outcome = valueOf answer := by
  obtain ⟨answer, later, rfl, endedLater⟩ := ends_ask.mp ended
  refine ⟨answer, ?_⟩
  rw [attempts_push]
  cases answer with
  | ok taken =>
      obtain ⟨rfl, rfl⟩ := ends_done.mp endedLater
      exact ⟨rfl, rfl⟩
  | error failure =>
      cases failure with
      | push text status =>
          have none := attempts_eq_nil_of_makes (makes_refused_inside _ _ _) endedLater
          rw [none]
          cases outcome with
          | ok accepted =>
              have notTaken : accepted = false := (returns_refused _ _ _).of_ends endedLater
              rw [notTaken]
              exact ⟨rfl, rfl⟩
          | error failure =>
              have servedLater : ∀ exchange ∈ later, exchange.IsServed :=
                fun exchange made => served exchange (List.mem_cons_of_mem _ made)
              refine (not_ends_error_of_fails ?_ servedLater endedLater).elim
              exact fails_refused_of_served _ _ _
      | transport exchange =>
          obtain ⟨_, rfl, endedDone⟩ := ends_log_bind.mp endedLater
          obtain ⟨rfl, rfl⟩ := ends_done.mp endedDone
          exact ⟨rfl, rfl⟩
      | _ =>
          obtain ⟨rfl, rfl⟩ := ends_fail.mp endedLater
          exact ⟨rfl, rfl⟩

end Deliver

/-! ## All subscriptions -/

/-- The count of subscriptions that took the message. -/
def acceptedCount (attempts : List Attempt) : Nat := attempts.countP Attempt.isAccepted

theorem add_acceptedCount_cons (delivered : Nat) (request : PushRequest)
    (answer : Except Failure Unit) (later : List Attempt) :
    delivered + acceptedCount ((request, answer) :: later) =
      (if answer.isOk then delivered + 1 else delivered) + acceptedCount later := by
  rw [acceptedCount, acceptedCount, List.countP_cons]
  cases taken : answer.isOk with
  | true =>
      rw [if_pos (show Attempt.isAccepted (request, answer) = true from taken), if_pos rfl]
      omega
  | false =>
      have notTaken : ¬ Attempt.isAccepted (request, answer) = true := by
        rw [Attempt.isAccepted, taken]
        decide
      rw [if_neg notTaken, if_neg (by decide)]
      omega

/-- Deliveries try the subscriptions in order, and their outcome follows from the attempts. -/
theorem ends_deliverAll {store : SubscriptionStore} {requestFor : PushSubscription → PushRequest}
    {delivered : Nat} {subscriptions : List PushSubscription} {exchanges : List Exchange}
    {outcome : Except Failure (Option Nat)}
    (ended : (deliverAll store requestFor delivered subscriptions).Ends exchanges outcome)
    (served : ∀ exchange ∈ exchanges, exchange.IsServed) :
    ∃ ending, Deliveries requestFor subscriptions (attempts exchanges) ending ∧
      (ending = .cancelled → ⟨.cancelled, true⟩ ∈ exchanges) ∧
      outcome = ending.outcome (delivered + acceptedCount (attempts exchanges)) := by
  -- The count is general, since every subscription passes its own on to the next one.
  induction subscriptions generalizing delivered exchanges with
  | nil =>
      obtain ⟨rfl, rfl⟩ := ends_done.mp ended
      exact ⟨.completed, .completed, nofun, rfl⟩
  | cons subscription rest ih =>
      obtain ⟨stop, later, rfl, endedLater⟩ := ends_ask.mp ended
      rw [attempts_cancelled]
      have servedLater : ∀ exchange ∈ later, exchange.IsServed :=
        fun exchange made => served exchange (List.mem_cons_of_mem _ made)
      cases stop with
      | true =>
          obtain ⟨rfl, rfl⟩ := ends_done.mp endedLater
          exact ⟨.cancelled, .cancelled, fun _ => List.mem_cons_self, rfl⟩
      | false =>
          rcases ends_bind.mp endedLater with
            ⟨failure, failing, rfl⟩ | ⟨first, second, accepted, rfl, pushed, endedRest⟩
          · obtain ⟨answer, single, same⟩ := ends_deliver failing servedLater
            obtain ⟨rfl, spreads⟩ := valueOf_eq_error same.symm
            rw [single]
            exact ⟨.failed failure, .failed spreads, nofun, rfl⟩
          · have servedFirst : ∀ exchange ∈ first, exchange.IsServed :=
              fun exchange made => servedLater exchange (List.mem_append_left _ made)
            have servedSecond : ∀ exchange ∈ second, exchange.IsServed :=
              fun exchange made => servedLater exchange (List.mem_append_right _ made)
            obtain ⟨answer, single, same⟩ := ends_deliver pushed servedFirst
            obtain ⟨contained, rfl⟩ := valueOf_eq_ok same.symm
            obtain ⟨ending, deliveries, stopped, ends⟩ := ih endedRest servedSecond
            have inOrder : attempts (first ++ second) =
                (requestFor subscription, answer) :: attempts second := by
              rw [attempts_append, single]
              rfl
            rw [inOrder]
            refine ⟨ending, .tried contained deliveries, ?_, ?_⟩
            · intro cancelled
              exact List.mem_cons_of_mem _ (List.mem_append_right _ (stopped cancelled))
            · rw [ends, add_acceptedCount_cons]

/-- Every subscription was tried once, in order, and whatever failed concerned its subscription
only. -/
structure AllTried (requestFor : PushSubscription → PushRequest)
    (subscriptions : List PushSubscription) (attempts : List Attempt) : Prop where
  inOrder : attempts.map Prod.fst = subscriptions.map requestFor
  contained : ∀ attempt ∈ attempts, isContained attempt.2 = true

/-- The attempt on one subscription failed in a way that concerns more than that subscription:
those before it were all tried, and those after it were not. -/
inductive BrokenOff (requestFor : PushSubscription → PushRequest) (failure : Failure) :
    List PushSubscription → List Attempt → Prop
  | intro {before after : List PushSubscription} {subscription : PushSubscription}
      {tried : List Attempt} (allTried : AllTried requestFor before tried)
      (spreads : isContained (.error failure) = false) :
      BrokenOff requestFor failure (before ++ subscription :: after)
        (tried ++ [(requestFor subscription, .error failure)])

section Endings

variable {requestFor : PushSubscription → PushRequest} {subscriptions : List PushSubscription}
  {attempts : List Attempt}

theorem AllTried.nil : AllTried requestFor [] [] where
  inOrder := rfl
  contained _ member := absurd member List.not_mem_nil

theorem AllTried.cons {subscription : PushSubscription} {answer : Except Failure Unit}
    (allTried : AllTried requestFor subscriptions attempts)
    (contained : isContained answer = true) :
    AllTried requestFor (subscription :: subscriptions)
      ((requestFor subscription, answer) :: attempts) := by
  constructor
  · rw [List.map_cons, List.map_cons, allTried.inOrder]
  · intro attempt member
    rcases List.mem_cons.mp member with rfl | later
    · exact contained
    · exact allTried.contained attempt later

theorem Deliveries.allTried (deliveries : Deliveries requestFor subscriptions attempts .completed) :
    AllTried requestFor subscriptions attempts := by
  generalize ends : Ending.completed = ending at deliveries
  induction deliveries with
  | completed => exact .nil
  | cancelled => cases ends
  | tried contained _ ih => exact (ih ends).cons contained
  | failed _ => cases ends

theorem Deliveries.brokenOff {failure : Failure}
    (deliveries : Deliveries requestFor subscriptions attempts (.failed failure)) :
    BrokenOff requestFor failure subscriptions attempts := by
  generalize ends : Ending.failed failure = ending at deliveries
  induction deliveries with
  | completed => cases ends
  | cancelled => cases ends
  | @tried subscription rest answer later ending contained _ ih =>
      cases ih ends with
      | intro allTried spreads => exact .intro (allTried.cons contained) spreads
  | @failed subscription rest other spreads =>
      cases ends
      exact @BrokenOff.intro requestFor failure [] rest subscription [] .nil spreads

end Endings

/-! ## A payload for the browsers of a user -/

/-- The exchanges found the subscriptions of the payload's user, and the message for them could be
worded and addressed. -/
inductive Ready (store : SubscriptionStore) (payload : Payload) (config : Config) :
    List Exchange → List PushSubscription → (PushSubscription → PushRequest) → Prop
  | intro {userId subscriber : String} {message : PushMessage} {looking addressing : List Exchange}
      {subscriptions : List PushSubscription}
      (user : checkedUser payload config = .ok userId)
      (worded : Wording.push type payload config = .ok message)
      (found : (store.findByUser userId).Ends looking (.ok subscriptions))
      (addressed : (subscriberAddress config.push.subscriberEmail config.publicUrl).Ends addressing
        (.ok subscriber)) :
      Ready store payload config (looking ++ addressing) subscriptions
        (pushRequest config message subscriber)

/-- The result of a payload after a count of accepted messages. -/
def resultOf (payload : Payload) (accepted : Nat) : SendResult :=
  if accepted = 0 then
    SendResult.failedPermanently payload.id "web push delivery failed for all subscriptions"
  else SendResult.sent payload.id none

/-- What follows the deliveries: a report, unless they were stopped early, and the result. -/
def concluded (payload : Payload) (userId : String) (subscriptions : List PushSubscription) :
    Option Nat → Program SendResult
  | none => .done (SendResult.failedTemporarily payload.id "send cancelled")
  | some accepted =>
      (log .info component "webpush_delivery_complete"
        [("user_id", .text userId), ("delivered", .integer accepted),
          ("subscriptions", .integer subscriptions.length)]).bind fun _ =>
        if accepted = 0 then
          .done (SendResult.failedPermanently payload.id
            "web push delivery failed for all subscriptions")
        else .done (SendResult.sent payload.id none)

section Send

variable {store : SubscriptionStore} {payload : Payload} {config : Config}
  {preparing later : List Exchange} {subscriptions : List PushSubscription}
  {requestFor : PushSubscription → PushRequest} {outcome : Except Failure SendResult}

theorem attempts_findByUser {userId : String} {looking : List Exchange}
    {found : Except Failure (List PushSubscription)}
    (ended : (store.findByUser userId).Ends looking found) : attempts looking = [] := by
  have inside : (store.findByUser userId).Makes fun request => ¬ request.Outbound :=
    SubscriptionStore.makes_findByUser not_outbound_of_routine fun _ _ outbound => outbound
  exact attempts_eq_nil_of_makes inside ended

theorem attempts_subscriberAddress {email publicUrl : String} {addressing : List Exchange}
    {subscriber : Except Failure String}
    (ended : (subscriberAddress email publicUrl).Ends addressing subscriber) :
    attempts addressing = [] :=
  attempts_eq_nil_of_makes (makes_subscriberAddress not_outbound_of_routine _ _) ended

theorem Ready.attempts_eq_nil
    (ready : Ready store payload config preparing subscriptions requestFor) :
    attempts preparing = [] := by
  cases ready with
  | @intro userId subscriber message looking addressing subscriptions user worded found addressed =>
      rw [attempts_append, attempts_findByUser found, attempts_subscriberAddress addressed]
      rfl

/-- Pushes are only tried when the subscriptions were found and the message is ready. -/
theorem ready_of_attempts {exchanges : List Exchange}
    (ended : (send store payload config).Ends exchanges outcome)
    (attempted : attempts exchanges ≠ []) :
    ∃ preparing later subscriptions requestFor, exchanges = preparing ++ later ∧
      Ready store payload config preparing subscriptions requestFor ∧ subscriptions ≠ [] := by
  rw [send, monad_bind_eq] at ended
  rcases ends_bind.mp ended with
    ⟨_, failing, _⟩ | ⟨_, afterUser, userId, rfl, identified, endedWording⟩
  · obtain ⟨rfl, _⟩ := ends_ofExcept.mp failing
    exact (attempted rfl).elim
  obtain ⟨rfl, user⟩ := ends_ofExcept.mp identified
  rcases ends_bind.mp endedWording with
    ⟨_, failing, _⟩ | ⟨_, afterWording, message, rfl, wording, endedFound⟩
  · obtain ⟨rfl, _⟩ := ends_ofExcept.mp failing
    exact (attempted rfl).elim
  obtain ⟨rfl, worded⟩ := ends_ofExcept.mp wording
  rcases ends_bind.mp endedFound with
    ⟨_, failing, _⟩ | ⟨looking, afterFound, subscriptions, rfl, found, endedAddress⟩
  · exact (attempted (attempts_findByUser failing)).elim
  rw [List.nil_append, List.nil_append, attempts_append, attempts_findByUser found,
    List.nil_append] at attempted
  split at endedAddress
  · have noneLogged : attempts afterFound = [] :=
      attempts_eq_nil_of_makes (makes_bind (makes_log.mpr id) fun _ => .done _) endedAddress
    exact (attempted noneLogged).elim
  rename_i some
  rcases ends_bind.mp endedAddress with
    ⟨_, failing, _⟩ | ⟨addressing, later, subscriber, rfl, addressed, _⟩
  · exact (attempted (attempts_subscriberAddress failing)).elim
  refine ⟨looking ++ addressing, later, subscriptions, pushRequest config message subscriber,
    by simp, .intro user.symm worded.symm found addressed, ?_⟩
  rw [List.isEmpty_iff] at some
  exact some

/-- The result of deliveries that were stopped early, or that counted accepted messages. -/
theorem ends_concluded {userId : String} {given : Option Nat} {reporting : List Exchange}
    (reported : (concluded payload userId subscriptions given).Ends reporting outcome) :
    attempts reporting = [] ∧
      outcome = .ok (given.elim (SendResult.failedTemporarily payload.id "send cancelled")
        (resultOf payload)) := by
  cases given with
  | none =>
      obtain ⟨rfl, rfl⟩ := ends_done.mp reported
      exact ⟨rfl, rfl⟩
  | some accepted =>
      obtain ⟨last, rfl, endedLast⟩ := ends_log_bind.mp reported
      rw [Option.elim_some, resultOf]
      by_cases none : accepted = 0
      · rw [if_pos none] at endedLast ⊢
        obtain ⟨rfl, rfl⟩ := ends_done.mp endedLast
        exact ⟨rfl, rfl⟩
      · rw [if_neg none] at endedLast ⊢
        obtain ⟨rfl, rfl⟩ := ends_done.mp endedLast
        exact ⟨rfl, rfl⟩

/-- A payload that is ready goes on to the deliveries. -/
theorem Ready.onward {exchanges more : List Exchange}
    (ready : Ready store payload config preparing subscriptions requestFor)
    (nonempty : subscriptions ≠ []) (ended : (send store payload config).Ends exchanges outcome)
    (split : preparing ++ later = exchanges ++ more) :
    ∃ userId delivering, exchanges = preparing ++ delivering ∧ later = delivering ++ more ∧
      ((deliverAll store requestFor 0 subscriptions).bind
        (concluded payload userId subscriptions)).Ends delivering outcome := by
  cases ready with
  | @intro userId subscriber message looking addressing subscriptions user worded found addressed =>
      -- The exchanges go through the stages of the preparation one after the other.
      rw [send, user, monad_bind_eq, ofExcept_ok_bind, worded, monad_bind_eq, ofExcept_ok_bind]
        at ended
      rw [List.append_assoc] at split
      obtain ⟨_, rfl, splitFound, endedFound⟩ := found.onward ended split
      have someFound : ¬ subscriptions.isEmpty = true := by
        rw [List.isEmpty_iff]
        exact nonempty
      rw [if_neg someFound] at endedFound
      obtain ⟨delivering, rfl, rfl, endedDeliveries⟩ := addressed.onward endedFound splitFound
      exact ⟨userId, delivering, (List.append_assoc _ _ _).symm, rfl, endedDeliveries⟩

/-- A payload that is ready is delivered to all subscriptions, or fails as the deliveries do. -/
theorem ends_send_of_ready {exchanges more : List Exchange}
    (ready : Ready store payload config preparing subscriptions requestFor)
    (nonempty : subscriptions ≠ []) (ended : (send store payload config).Ends exchanges outcome)
    (split : preparing ++ later = exchanges ++ more)
    (neverStopped : ⟨.cancelled, true⟩ ∉ later) (served : ∀ exchange ∈ later, exchange.IsServed) :
    (AllTried requestFor subscriptions (attempts exchanges) ∧
      outcome = .ok (resultOf payload (acceptedCount (attempts exchanges)))) ∨
    ∃ failure, BrokenOff requestFor failure subscriptions (attempts exchanges) ∧
      outcome = .error failure := by
  obtain ⟨userId, delivering, rfl, rfl, endedDeliveries⟩ := ready.onward nonempty ended split
  rw [attempts_append, ready.attempts_eq_nil, List.nil_append]
  rcases ends_bind.mp endedDeliveries with
    ⟨failure, failing, rfl⟩ | ⟨delivering, reporting, delivered, rfl, completed, reported⟩
  · have servedDelivering : ∀ exchange ∈ delivering, exchange.IsServed :=
      fun exchange made => served exchange (List.mem_append_left _ made)
    obtain ⟨ending, deliveries, _, same⟩ := ends_deliverAll failing servedDelivering
    cases ending with
    | completed => cases same
    | cancelled => cases same
    | failed other =>
        cases same
        exact .inr ⟨failure, deliveries.brokenOff, rfl⟩
  · have servedDelivering : ∀ exchange ∈ delivering, exchange.IsServed :=
      fun exchange made => served exchange (by simp [made])
    obtain ⟨ending, deliveries, stopped, same⟩ := ends_deliverAll completed servedDelivering
    cases ending with
    | failed failure => cases same
    | cancelled =>
        have inDeliveries := stopped rfl
        exact (neverStopped (by simp [inDeliveries])).elim
    | completed =>
        cases same
        rw [Nat.zero_add] at reported
        obtain ⟨noneReported, concluded⟩ := ends_concluded reported
        rw [attempts_append, noneReported, List.append_nil]
        exact .inl ⟨deliveries.allTried, concluded⟩

end Send

end BrowserPush

namespace Registry

open BrowserPush

variable {store : SubscriptionStore} {payload : Payload} {config : Config}
  {preparing later : List Exchange} {subscriptions : List PushSubscription}
  {requestFor : PushSubscription → PushRequest} {outcome : Except Failure SendResult}

theorem find?_browserPush (store : SubscriptionStore) :
    (Registry.standard store).find? BrowserPush.type = some (BrowserPush.channel store) :=
  rfl

theorem attempts_concluded {given : Except Failure SendResult} {reporting : List Exchange}
    (concluded : (conclude payload given).Ends reporting outcome) : attempts reporting = [] := by
  cases given with
  | ok result =>
      exact attempts_eq_nil_of_makes (makes_bind (makes_log.mpr id) fun _ => .done _) concluded
  | error failure =>
      exact attempts_eq_nil_of_makes (makes_failed not_outbound_of_routine payload failure)
        concluded

/-- The registry has pushes tried only when the subscriptions were found and the message is
ready. -/
theorem ready_of_attempts {exchanges : List Exchange}
    (toBrowsers : payload.destination.kind = BrowserPush.type)
    (ended : ((Registry.standard store).send payload config).Ends exchanges outcome)
    (attempted : attempts exchanges ≠ []) :
    ∃ preparing later subscriptions requestFor,
      exchanges = ⟨.cancelled, false⟩ :: (preparing ++ later) ∧
      Ready store payload config preparing subscriptions requestFor ∧ subscriptions ≠ [] := by
  have noneRoutine {reports : List Exchange}
      (logged : ∀ exchange ∈ reports, exchange.request.Routine) : attempts reports = [] :=
    List.filterMap_eq_nil_iff.mpr fun exchange made =>
      attempt?_eq_none (not_outbound_of_routine _ (logged exchange made))
  cases course_of_ends_send ended with
  | senderless lacking => exact (attempted rfl).elim
  | disabled found canSend off logged => exact (attempted (noneRoutine logged)).elim
  | stopped logged =>
      rw [attempts_cancelled] at attempted
      exact (attempted (noneRoutine logged)).elim
  | @carried channel sendPayload provided reporting given outcome found sends on endedSend
      concluded =>
      rw [toBrowsers, find?_browserPush] at found
      cases found
      cases sends
      rw [attempts_cancelled, attempts_append, attempts_concluded concluded, List.append_nil]
        at attempted
      obtain ⟨preparing, later, subscriptions, requestFor, rfl, ready, nonempty⟩ :=
        BrowserPush.ready_of_attempts endedSend attempted
      exact ⟨preparing, later ++ reporting, subscriptions, requestFor, by simp, ready, nonempty⟩

/-- A payload for the browsers of a user is tried on every subscription, and sent when one of them
took it, unless an attempt fails in a way that concerns more than its subscription.  Such a failure
leaves the subscriptions after it untried, and the payload is not sent, whoever took it before. -/
theorem allTried_or_brokenOff (toBrowsers : payload.destination.kind = BrowserPush.type)
    (enabled : config.push.enabled = true)
    (ready : Ready store payload config preparing subscriptions requestFor)
    (nonempty : subscriptions ≠ []) {exchanges : List Exchange}
    (inOrder : exchanges = ⟨.cancelled, false⟩ :: (preparing ++ later))
    (ended : ((Registry.standard store).send payload config).Ends exchanges outcome)
    (neverStopped : ⟨.cancelled, true⟩ ∉ exchanges)
    (served : ∀ exchange ∈ later, exchange.IsServed) :
    (AllTried requestFor subscriptions (attempts exchanges) ∧
      outcome = .ok (resultOf payload (acceptedCount (attempts exchanges)))) ∨
    ∃ failure, BrokenOff requestFor failure subscriptions (attempts exchanges) ∧
      Unsent outcome := by
  cases course_of_ends_send ended with
  | senderless lacking => cases inOrder
  | @disabled channel exchanges found canSend off =>
      rw [toBrowsers, find?_browserPush] at found
      cases found
      have on : ((BrowserPush.channel store).info config).enabled = true := enabled
      rw [on] at off
      cases off
  | stopped logged => cases inOrder
  | @carried channel sendPayload provided reporting given outcome found sends on endedSend
      concluded =>
      rw [toBrowsers, find?_browserPush] at found
      cases found
      cases sends
      injection inOrder with _ split
      have neverStoppedLater : ⟨.cancelled, true⟩ ∉ later := by
        intro member
        exact neverStopped (by simp [split, member])
      rw [attempts_cancelled, attempts_append, attempts_concluded concluded, List.append_nil]
      rcases ends_send_of_ready ready nonempty endedSend split.symm neverStoppedLater served with
        ⟨allTried, rfl⟩ | ⟨failure, brokenOff, rfl⟩
      · exact .inl ⟨allTried, (ends_reported concluded).1⟩
      · have unsent : Unsent outcome := unsent_of_ends_conclude (Unsent.fail failure) concluded
        exact .inr ⟨failure, brokenOff, unsent⟩

end Registry

/-! ## A subscription that spoils the others -/

namespace Sample

def browsers : List PushSubscription :=
  [⟨"/1", "a", "k"⟩, ⟨"/2", "a", "?"⟩, ⟨"/3", "a", "k"⟩]

/-- The row of a browser of the user. -/
def browserRow (browser : PushSubscription) : String × Json :=
  (browser.endpoint, .object
    [("endpoint", Attribute.ofText browser.endpoint), ("user_id", Attribute.ofText "u"),
      ("data", Attribute.ofText browser.exchangeJson.encode)])

def browserTables : Store := ⟨[("subscriptions", ⟨"endpoint", browsers.map browserRow⟩)], 10⟩

def browserStore : SubscriptionStore := ⟨⟨[], [], 10⟩, "subscriptions"⟩

/-- A test message for the browsers of the user. -/
def pushed : Payload := ⟨"pushed", ⟨BrowserPush.type, []⟩, some "u", .test⟩

def pushConfig : Config := { config with push := ⟨true, "public", "private", "", 60⟩ }

/-- Answers in which the keys of the second browser cannot be read. -/
def spoiledAnswer : (request : Request) → request.Answer
  | .push request =>
      if request.subscription.p256dh = "?" then
        .error (.foreign "ValueError" "Could not deserialize key data")
      else .ok ()
  | request => answer request

/-- The payload is handed to the channels of the standard deployment. -/
def pushDispatch : Program SendResult :=
  (Registry.standard browserStore).send pushed pushConfig

end Sample

namespace Sample

theorem exists_pushRun :
    ∃ exchanges result, pushDispatch.Ends exchanges (.ok result) ∧
      ⟨.cancelled, true⟩ ∉ exchanges ∧ (∀ exchange ∈ exchanges, exchange.IsServed) ∧
      (BrowserPush.attempts exchanges).map BrowserPush.Attempt.isAccepted = [true, false] ∧
      result.state = .failedTemporarily := by
  have passed : passes (fun result => result.state == .failedTemporarily)
      (pushDispatch.run (answerWith spoiledAnswer) browserTables).1 = true := by
    decide +kernel
  have tried : (BrowserPush.attempts (pushDispatch.exchanges (answerWith spoiledAnswer)
      browserTables)).map BrowserPush.Attempt.isAccepted = [true, false] := by
    decide +kernel
  obtain ⟨result, ended, failed⟩ := ends_of_passes passed
  have neverStopped : ⟨.cancelled, true⟩ ∉
      pushDispatch.exchanges (answerWith spoiledAnswer) browserTables := by
    intro member
    obtain ⟨_, given⟩ := answer_of_mem_exchanges member
    cases given
  exact ⟨_, result, ended, neverStopped, fun _ => isServed_of_mem_exchanges, tried,
    by simpa using failed⟩

end Sample

/-- Of three browsers, the first took the message, the second spoiled the deliveries, and the third
was never tried; the message is to be sent again. -/
theorem sent_again_although_taken :
    passes (fun found => found.length == 3) ((Sample.browserStore.findByUser "u").run
      (answerWith Sample.spoiledAnswer) Sample.browserTables).1 = true ∧
    ∃ exchanges result, Sample.pushDispatch.Ends exchanges (.ok result) ∧
      ⟨.cancelled, true⟩ ∉ exchanges ∧ (∀ exchange ∈ exchanges, exchange.IsServed) ∧
      (BrowserPush.attempts exchanges).map BrowserPush.Attempt.isAccepted = [true, false] ∧
      result.state = .failedTemporarily := by
  refine ⟨?_, Sample.exists_pushRun⟩
  decide +kernel

/-- The deliveries to these browsers were broken off by one of them. -/
theorem brokenOff_by_one :
    ∃ exchanges subscriptions requestFor result failure,
      Sample.pushDispatch.Ends exchanges (.ok result) ∧
      BrowserPush.BrokenOff requestFor failure subscriptions (BrowserPush.attempts exchanges) ∧
      Unsent (.ok result) := by
  obtain ⟨exchanges, result, ended, neverStopped, served, tried, failed⟩ := Sample.exists_pushRun
  have attempted : BrowserPush.attempts exchanges ≠ [] := by
    intro none
    rw [none] at tried
    cases tried
  obtain ⟨preparing, later, subscriptions, requestFor, inOrder, ready, nonempty⟩ :=
    Registry.ready_of_attempts rfl ended attempted
  have servedLater : ∀ exchange ∈ later, exchange.IsServed := by
    intro exchange made
    exact served exchange (by simp [inOrder, made])
  rcases Registry.allTried_or_brokenOff rfl rfl ready nonempty inOrder ended neverStopped
      servedLater with ⟨_, same⟩ | ⟨failure, brokenOff, unsent⟩
  · cases same
    rw [BrowserPush.resultOf] at failed
    split at failed <;> cases failed
  · exact ⟨exchanges, subscriptions, requestFor, result, failure, ended, brokenOff, unsent⟩

end AlertRelay
