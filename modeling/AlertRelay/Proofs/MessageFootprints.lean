import AlertRelay.Proofs.Footprints
import AlertRelay.Proofs.SentMessages

/-!
# Footprints of messages

A dispatch keeps to the footprint of its message: the row of the delivery as it is sent, and the
push subscriptions of the user when it goes to browsers.  The priority policy decides on what it
looks up elsewhere, so where a message is sent does not depend on the tables.
-/

namespace AlertRelay

open Program Footprint

namespace World

variable (world : World)

/-- What the priority policy decides about a message about an alert, when it decides. -/
def decision? (config : Config) (message : Message) : Option Priority.Decision :=
  (world.answer (.alertMetadata message.alertId)).toOption.bind fun metadata =>
    ((Priority.apply config.priorityKey config.priorityValue metadata message).run
      (fun request (state : Unit) => (world.answer request, state)) ()).1.toOption

/-- The message as it is sent, which the priority policy may have promoted; none when the policy
suppresses it or fails. -/
def sentAs? (config : Config) (message : Message) : Option Message :=
  if message.type = .alert then
    ((world.decision? config message).filter fun decision => !decision.isSuppressed).map
      (·.message)
  else some message

/-- What the dispatch of a message may depend on in the tables: the delivery of a message about an
alert or of a status update, and the subscriptions of the user of a message to browsers, both as
the message is sent. -/
def footprint (config : Config) (message : Message) : Footprint where
  delivery :=
    ((world.sentAs? config message).filter fun sent =>
      sent.type = .alert ∨ sent.type = .alertStatus).map fun sent =>
        (sent.alertId, sent.destinationId)
  user :=
    ((world.sentAs? config message).filter fun sent =>
      sent.destination.kind = BrowserPush.type).bind (·.userId)

variable {world} {config : Config} {message sent : Message}

theorem delivery_footprint (asSent : world.sentAs? config message = some sent)
    (recorded : sent.type = .alert ∨ sent.type = .alertStatus) :
    (world.footprint config message).delivery = some (sent.alertId, sent.destinationId) := by
  simp [footprint, asSent, Option.filter, recorded]

theorem user_footprint (asSent : world.sentAs? config message = some sent)
    (browsers : sent.destination.kind = BrowserPush.type) :
    (world.footprint config message).user = sent.userId := by
  simp [footprint, asSent, Option.filter, browsers]

/-- What is expected of a request elsewhere is what the world answers. -/
theorem Expects.answer_eq {start : Store} {request : Request} {answer : request.Answer}
    (expected : world.Expects start ⟨request, answer⟩) (elsewhere : request.Elsewhere) :
    answer = world.answer request := by
  cases request with
  | service | context | setContext => exact elsewhere.elim
  | _ => exact expected

end World

/-! ## Building -/

namespace BuildOutcome

variable {world : World} {site : Site} {subscriptions : SubscriptionStore} {start : Store}
  {config : Config} {message : Message}

/-- What is built for sending goes to the destination and the user of the message as it is sent, and
only messages about alerts are first deliveries. -/
def Prepared (world : World) (config : Config) (message : Message) :
    Except Failure BuildOutcome → Prop
  | .ok ⟨sent, .payload payload isFirst⟩ =>
      world.sentAs? config message = some sent ∧ payload.destination = sent.destination ∧
        payload.userId = sent.userId ∧ (isFirst = true → sent.type = .alert)
  | _ => True

theorem Plain.prepared {outcome : BuildOutcome} (plain : Plain message outcome)
    (noAlert : message.type ≠ .alert) : Prepared world config message (.ok outcome) := by
  cases plain with
  | refused detail => trivial
  | carried content => exact ⟨if_neg noAlert, rfl, rfl, nofun⟩

theorem yields_metadata (alertId : Int) :
    (ask "lookup alert metadata" (Program.request (.alertMetadata alertId))).Yields
      (world.Expects start) fun outcome =>
        ∀ metadata, outcome = .ok metadata →
          world.answer (.alertMetadata alertId) = .ok metadata := by
  refine yields_of_forall_ends ?_
  rintro exchanges _ ended answered metadata rfl
  obtain ⟨answer, rfl, given⟩ := ends_request.mp (ends_asked_ok.mp ended)
  cases given
  exact (answered _ List.mem_cons_self).symm

/-- The priority policy decides as it does in the world. -/
theorem yields_decision (metadata : Json) :
    (Priority.apply config.priorityKey config.priorityValue metadata message).Yields
      (world.Expects start) fun outcome =>
        outcome = ((Priority.apply config.priorityKey config.priorityValue metadata message).run
          (fun request (state : Unit) => (world.answer request, state)) ()).1 :=
  yields_run (Priority.makes_apply
    (fun _ routine _ expected => expected.answer_eq routine.elsewhere)
    fun _ _ expected => expected.answer_eq trivial)

/-- Building a message about an alert reads at most the row of its delivery as it is sent. -/
theorem within_ofAlert (isAlert : message.type = .alert) :
    (ofAlert site message config).Within (world.Expects start)
      ((world.footprint config message).Allows site.ledger subscriptions start)
      (Prepared world config message) := by
  have consulting (request : Request) (isConsulting : request.Consulting) :
      (world.footprint config message).Allows site.ledger subscriptions start request :=
    .elsewhere isConsulting.elsewhere
  -- The texts do not matter here; the metadata and the decision on it fix the message as sent.
  refine (makes_serviceInfo consulting message).bind_within (fun parts => ?_) fun _ => trivial
  refine (makes_alert consulting message).bind_within (fun alert => ?_) fun _ => trivial
  have asked : (ask "lookup alert metadata"
      (Program.request (.alertMetadata message.alertId))).Makes
        ((world.footprint config message).Allows site.ledger subscriptions start) :=
    makes_asked (makes_request.mpr (consulting _ trivial))
  refine (asked.within (yields_metadata message.alertId)).bind (fun metadata found => ?_)
    fun _ _ => trivial
  refine ((Priority.makes_apply allows_of_routine fun _ => .elsewhere trivial).within
    (yields_decision metadata)).bind (fun decision decided => ?_) fun _ _ => trivial
  have asDecided : world.decision? config message = some decision := by
    rw [World.decision?, found metadata rfl]
    exact congrArg Except.toOption decided.symm
  dsimp only
  split
  · exact (makes_log_of_routine allows_of_routine _ _ _ _).bind_within (fun _ => .done trivial)
      fun _ => trivial
  · rename_i isCarried
    have asSent : world.sentAs? config message = some decision.message := by
      simp [World.sentAs?, isAlert, asDecided, Option.filter, isCarried]
    have kept : decision.message.type = .alert := by
      have ended := ends_run (fun request (state : Unit) => (world.answer request, state))
        (Priority.apply config.priorityKey config.priorityValue metadata message) ()
      rw [← decided] at ended
      rw [(Priority.decides_of_ends_apply ended).kept_fields.2.2, isAlert]
    refine (Ledger.makes_firstDelivery allows_of_routine
      (.service (.delivery (World.delivery_footprint asSent (.inl kept)) _))).bind_within
      (fun recorded => ?_) fun _ => trivial
    exact makes_ofExcept.bind_within (fun content => .done ⟨asSent, rfl, rfl, fun _ => kept⟩)
      fun _ => trivial

theorem within_ofMessage :
    (ofMessage site message config).Within (world.Expects start)
      ((world.footprint config message).Allows site.ledger subscriptions start)
      (Prepared world config message) := by
  by_cases isAlert : message.type = .alert
  · dsimp only [ofMessage]
    split
    · rw [isAlert]
      exact within_ofAlert isAlert
    · exact (makes_log_of_routine allows_of_routine _ _ _ _).bind_within
        (fun _ => .done trivial) fun _ => trivial
  · -- No other message is promoted, so its own delivery is the only one that it can read.
    have makes : (ofMessage site message config).Makes
        ((world.footprint config message).Allows site.ledger subscriptions start) := by
      refine makes_ofOther allows_of_routine
        (fun _ consulting => .elsewhere consulting.elsewhere) isAlert (fun isStatus => ?_)
        (fun store messageId _ => .service (.signal store.table messageId _)) config
      have asSent : world.sentAs? config message = some message := if_neg isAlert
      exact .service (.delivery (World.delivery_footprint asSent (.inr isStatus)) _)
    refine makes.within (yields_of_forall_ends fun exchanges outcome ended _ => ?_)
    cases outcome with
    | error failure => trivial
    | ok outcome =>
        exact ((returns_ofMessage site config isAlert).of_ends ended).prepared isAlert

end BuildOutcome

/-! ## Browsers -/

/-- The subscription in an item, when it can be used. -/
def SubscriptionStore.usable? (item : Json) : Option PushSubscription :=
  (Attribute.textOr item "data" (.text "")).toOption.bind fun data =>
    match PushSubscription.ofStored data with
    | .usable subscription => some subscription
    | _ => none

/-- Every usable subscription is stored under its endpoint. -/
def Table.KeyedByEndpoint (table : Table) : Prop :=
  ∀ row ∈ table.items, ∀ subscription ∈ SubscriptionStore.usable? row.2,
    row.1 = subscription.endpoint

instance (table : Table) : Decidable table.KeyedByEndpoint :=
  inferInstanceAs (Decidable (∀ row ∈ table.items, ∀ subscription ∈ SubscriptionStore.usable? row.2,
    row.1 = subscription.endpoint))

namespace SubscriptionStore

theorem returns_read (data : Json) :
    (read data).Returns fun usable? =>
      ∀ subscription ∈ usable?, PushSubscription.ofStored data = .usable subscription := by
  rw [read]
  split
  · rename_i usable
    refine .done ?_
    rintro _ ⟨⟩
    exact usable
  · exact returns_bind fun _ => .done (by simp)
  · exact returns_bind fun _ => .done (by simp)
  · exact .fail _

/-- Every subscription that is read is a usable one in an item. -/
theorem usable_of_ends_readItems {items : List Json} {exchanges : List Exchange}
    {found : List PushSubscription} (ended : (readItems items).Ends exchanges (.ok found)) :
    ∀ subscription ∈ found, ∃ item ∈ items, usable? item = some subscription := by
  induction items generalizing exchanges found with
  | nil =>
      obtain ⟨_, same⟩ := ends_done.mp ended
      cases same
      exact nofun
  | cons item rest ih =>
      obtain ⟨_, _, data, _, endedData, endedRead⟩ := ends_bind_ok.mp ended
      obtain ⟨_, _, usable, _, endedUsable, endedRest⟩ := ends_bind_ok.mp endedRead
      obtain ⟨_, _, others, _, endedOthers, endedDone⟩ := ends_bind_ok.mp endedRest
      obtain ⟨_, same⟩ := ends_done.mp endedDone
      cases same
      intro subscription member
      rcases List.mem_append.mp member with first | later
      · have held := (ends_ofExcept.mp endedData).2
        have read :=
          (returns_read data).of_ends endedUsable subscription (Option.mem_toList.mp first)
        exact ⟨item, List.mem_cons_self, by simp [usable?, ← held, Except.toOption, read]⟩
      · obtain ⟨other, among, usableOther⟩ := ih endedOthers subscription later
        exact ⟨other, List.mem_cons_of_mem _ among, usableOther⟩

variable {world : World} {subscriptions : SubscriptionStore} {start : Store} {userId : String}

/-- The subscriptions that are found are stored under their endpoints, as those of the user. -/
theorem yields_findByUser (keyed : (start.table subscriptions.table).KeyedByEndpoint) :
    (subscriptions.findByUser userId).Yields (world.Expects start) fun outcome =>
      ∀ found, outcome = .ok found → ∀ subscription ∈ found, ∃ item,
        (subscription.endpoint, item) ∈
          (start.table subscriptions.table).ofUser (Attribute.ofText userId) := by
  refine yields_of_forall_ends ?_
  rintro exchanges _ ended answered found rfl subscription member
  obtain ⟨queried, reading, outcome, rfl, endedQuery, endedItems⟩ := ends_bind_ok.mp ended
  split at endedItems
  · rename_i success
    obtain ⟨item, among, usable⟩ := usable_of_ends_readItems endedItems subscription member
    obtain ⟨all, isList, told⟩ := TableClient.told_of_ends_query rfl endedQuery success
    rw [itemsOf, isList] at among
    obtain ⟨options, page, items, asked, exchanged, readPage, onPage⟩ := told item among
    obtain ⟨key, stored⟩ := answered _ (List.mem_append_left _ exchanged)
      subscriptions.table options page items rfl rfl readPage item onPage
    have sameUser : Store.queriedUser options = Attribute.ofText userId := asked
    rw [sameUser] at stored
    obtain rfl := keyed (key, item) (List.mem_filter.mp stored).1 subscription usable
    exact ⟨item, stored⟩
  · simp at endedItems

end SubscriptionStore

namespace BrowserPush

variable {world : World} {footprint : Footprint} {ledger : Ledger}
  {subscriptions : SubscriptionStore} {start : Store} {payload : Payload} {config : Config}

/-- Pushing to the browsers of a user keeps to the subscriptions of the user. -/
theorem within_send (distinct : ((start.table subscriptions.table).items.map Prod.fst).Nodup)
    (keyed : (start.table subscriptions.table).KeyedByEndpoint)
    (own : footprint.user = payload.userId) :
    (send subscriptions payload config).Within (world.Expects start)
      (footprint.Allows ledger subscriptions start) fun _ => True := by
  rw [send_eq]
  refine (makes_ofExcept.within (yields_eq _)).bind (fun userId checked => ?_) fun _ _ => trivial
  have ofUser : footprint.user = some userId := by
    rw [own]
    exact userId_eq_of_checkedUser checked.symm
  refine makes_ofExcept.bind_within (fun message => ?_) fun _ => trivial
  have queried (options : List (String × Json))
      (asked : Store.queriedUser options = Attribute.ofText userId) :
      footprint.Allows ledger subscriptions start
        (.service (subscriptions.tables.sent (.query subscriptions.table options))) :=
    .service (.query ofUser ((TableClient.queriedUser_otherOptions options).trans asked))
  refine ((SubscriptionStore.makes_findByUser allows_of_routine queried).within
    (SubscriptionStore.yields_findByUser keyed)).bind (fun found stored => ?_) fun _ _ => trivial
  have deleted (subscription : PushSubscription) (member : subscription ∈ found) :
      footprint.Allows ledger subscriptions start (.service (subscriptions.tables.sent
        (.deleteItem subscriptions.table
          (SubscriptionStore.endpointKey (.text subscription.endpoint)) []))) := by
    -- The subscription was found among the rows of the user, and only one row has its endpoint.
    refine .service (.delete (fun other otherMember => ?_) _)
    obtain ⟨item, isUsers⟩ := stored found rfl subscription member
    obtain ⟨inTable, same⟩ := List.mem_filter.mp isUsers
    rw [← Table.row_unique distinct inTable otherMember]
    exact Footprint.owns_eq_true.mpr ⟨userId, ofUser, Json.same_ofText.mp same⟩
  exact (makes_pushAll allows_of_routine (fun _ => .elsewhere trivial) deleted payload config userId
    message).within_any

end BrowserPush

namespace Registry

variable {world : World} {footprint : Footprint} {ledger : Ledger}
  {subscriptions : SubscriptionStore} {start : Store} {payload : Payload} {config : Config}

/-- Sending a payload keeps to the subscriptions of its user, and only when it goes to browsers. -/
theorem within_send (distinct : ((start.table subscriptions.table).items.map Prod.fst).Nodup)
    (keyed : (start.table subscriptions.table).KeyedByEndpoint)
    (own : payload.destination.kind = BrowserPush.type → footprint.user = payload.userId) :
    ((standard subscriptions).send payload config).Within (world.Expects start)
      (footprint.Allows ledger subscriptions start) fun _ => True := by
  dsimp only [send]
  split
  · exact .fail trivial
  · rename_i channel found
    split
    · exact .fail trivial
    · rename_i sendPayload sends
      split
      · exact (makes_reported allows_of_routine _ _ _ _ _).within_any
      · refine .ask (.elsewhere trivial) fun stop _ => ?_
        cases stop with
        | true => exact (makes_reported allows_of_routine _ _ _ _ _).within_any
        | false =>
            have carried : (sendPayload payload config).Within (world.Expects start)
                (footprint.Allows ledger subscriptions start) fun _ => True := by
              have toChannel := id_of_find? found
              obtain ⟨provider, isStandard, rfl⟩ :=
                List.mem_map.mp (List.mem_of_find?_eq_some found)
              simp only [Provider.standard, List.mem_cons, List.not_mem_nil, or_false]
                at isStandard
              rcases isStandard with rfl | rfl | rfl | rfl <;> cases sends
              · exact (Voice.makes_send allows_of_routine
                  (fun _ => .elsewhere trivial) _ _).within_any
              · exact (Sms.makes_send allows_of_routine (fun _ => .elsewhere trivial)
                  (fun _ _ _ => .elsewhere trivial) _ _ _).within_any
              · exact BrowserPush.within_send distinct keyed (own toChannel.symm)
              · exact (Webhook.makes_send allows_of_routine
                  (fun _ => .elsewhere trivial) _ _).within_any
            refine carried.attempt.bind (fun result _ => ?_) fun _ _ => trivial
            cases result with
            | ok result => exact (makes_reported allows_of_routine _ _ _ _ _).within_any
            | error failure => exact (makes_failed allows_of_routine payload failure).within_any

end Registry

/-! ## Dispatches -/

namespace Dispatch

variable {world : World} {site : Site} {subscriptions : SubscriptionStore} {start : Store}
  {config : Config} {message : Message}

/-- The steps of a dispatch keep to the footprint of its message. -/
theorem within_sendSteps (distinct : ((start.table subscriptions.table).items.map Prod.fst).Nodup)
    (keyed : (start.table subscriptions.table).KeyedByEndpoint) :
    (sendSteps site (.standard subscriptions) config message).Within (world.Expects start)
      ((world.footprint config message).Allows site.ledger subscriptions start)
      fun _ => True := by
  rw [sendSteps_eq]
  refine (makes_log_of_routine allows_of_routine _ _ _ _).bind_within (fun _ => ?_) fun _ => trivial
  refine BuildOutcome.within_ofMessage.bind (fun outcome prepared => ?_) fun _ _ => trivial
  obtain ⟨sent, build⟩ := outcome
  cases build with
  | result result => exact (makes_reported allows_of_routine _ _ _ _ _).within_any
  | payload payload isFirst =>
      obtain ⟨asSent, destination, user, isAlert⟩ := prepared
      have own (browsers : payload.destination.kind = BrowserPush.type) :
          (world.footprint config message).user = payload.userId := by
        rw [destination] at browsers
        rw [World.user_footprint asSent browsers, user]
      refine (Registry.within_send distinct keyed own).bind (fun result _ => ?_) fun _ _ => trivial
      refine Makes.within_any ?_
      refine makes_bind (makes_log_of_routine allows_of_routine _ _ _ _) fun _ => ?_
      refine makes_bind (makes_noteSent allows_of_routine
        (fun _ noting => .elsewhere noting.elsewhere) sent) fun _ => ?_
      refine makes_bind ?_ fun _ => .done _
      split
      · rename_i firstSuccess
        have delivery :=
          World.delivery_footprint asSent (.inl (isAlert (Bool.and_eq_true_iff.mp firstSuccess).1))
        refine makes_track allows_of_routine fun _ recordedAt _ => .service (.record ?_ _)
        exact ⟨sent.alertId, sent.destinationId, delivery, DeliveryRecord.keyOf_toItem ..⟩
      · exact .done _

end Dispatch
end AlertRelay
