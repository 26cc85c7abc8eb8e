import AlertRelay.Proofs.Promotion
import AlertRelay.Proofs.PushDeliveries
import AlertRelay.Proofs.RaisedDispatches

/-!
# Routing of outbound requests

What leaves a dispatch leaves through one channel, which the destination of the message as it is
sent decides: one telephone call, one short message by one of the two ways, one post, or pushes to
subscriptions that were found for the user of the message, each of them at most once.
-/

namespace AlertRelay

open Program

/-! ## What programs send -/

/-- The outbound requests among exchanges, in order. -/
def outbound (exchanges : List Exchange) : List Request :=
  (exchanges.map Exchange.request).filter fun request => request.Outbound

section Outbound

@[simp]
theorem outbound_nil : outbound [] = [] :=
  rfl

@[simp]
theorem outbound_append (first second : List Exchange) :
    outbound (first ++ second) = outbound first ++ outbound second := by
  simp [outbound]

theorem outbound_cons_of_outbound {exchange : Exchange} (leaves : exchange.request.Outbound)
    (later : List Exchange) :
    outbound (exchange :: later) = exchange.request :: outbound later := by
  simp [outbound, leaves]

theorem outbound_cons_of_inside {exchange : Exchange} (inside : ¬ exchange.request.Outbound)
    (later : List Exchange) : outbound (exchange :: later) = outbound later := by
  simp [outbound, inside]

theorem outbound_eq_nil {exchanges : List Exchange}
    (inside : ∀ exchange ∈ exchanges, ¬ exchange.request.Outbound) : outbound exchanges = [] := by
  simpa [outbound] using inside

end Outbound

namespace Program

variable {α β : Type} {holds : List Request → Prop}

/-- The program makes no outbound request. -/
abbrev StaysInside (program : Program α) : Prop :=
  program.Makes fun request => ¬ request.Outbound

/-- The outbound requests of every execution of the program have the property. -/
def Sends (holds : List Request → Prop) (program : Program α) : Prop :=
  ∀ exchanges outcome, program.Ends exchanges outcome → holds (outbound exchanges)

theorem staysInside_log {level : LogLevel} {component name : String}
    {details : List (String × Json)} : (log level component name details).StaysInside :=
  makes_log.mpr id

theorem outbound_eq_nil_of_ends {program : Program α} (inside : program.StaysInside)
    {exchanges : List Exchange} {outcome : Except Failure α}
    (ended : program.Ends exchanges outcome) : outbound exchanges = [] :=
  outbound_eq_nil fun _ made => inside.of_mem ended made

theorem Sends.of_inside {program : Program α} (inside : program.StaysInside) (none : holds []) :
    program.Sends holds := by
  intro exchanges outcome ended
  rw [outbound_eq_nil_of_ends inside ended]
  exact none

/-- A single outbound request may come first. -/
theorem Sends.of_ask {request : Request} {next : request.Answer → Program α}
    (leaves : request.Outbound) (single : holds [request])
    (inside : ∀ answer, (next answer).StaysInside) : (ask request next).Sends holds := by
  intro exchanges outcome ended
  obtain ⟨answer, later, rfl, endedLater⟩ := ends_ask.mp ended
  rw [outbound_cons_of_outbound leaves, outbound_eq_nil_of_ends (inside answer) endedLater]
  exact single

/-- What stays inside may come first. -/
theorem Sends.after_inside {program : Program α} {next : α → Program β}
    (inside : program.StaysInside) (none : holds []) (later : ∀ value, (next value).Sends holds) :
    (program.bind next).Sends holds := by
  intro exchanges outcome ended
  rcases ends_bind.mp ended with
    ⟨_, failing, _⟩ | ⟨first, second, value, rfl, endedFirst, endedSecond⟩
  · rw [outbound_eq_nil_of_ends inside failing]
    exact none
  · rw [outbound_append, outbound_eq_nil_of_ends inside endedFirst, List.nil_append]
    exact later value second outcome endedSecond

/-- What stays inside may come last. -/
theorem Sends.before_inside {program : Program α} {next : α → Program β}
    (sends : program.Sends holds) (inside : ∀ value, (next value).StaysInside) :
    (program.bind next).Sends holds := by
  intro exchanges outcome ended
  rcases ends_bind.mp ended with
    ⟨_, failing, _⟩ | ⟨first, second, value, rfl, endedFirst, endedSecond⟩
  · exact sends _ _ failing
  · rw [outbound_append, outbound_eq_nil_of_ends (inside value) endedSecond, List.append_nil]
    exact sends _ _ endedFirst

theorem Sends.attempted {program : Program α} (sends : program.Sends holds) :
    program.attempt.Sends holds := by
  intro exchanges outcome ended
  obtain ⟨inner, endedInner, _⟩ := ends_attempt.mp ended
  exact sends exchanges inner endedInner

theorem Sends.rescue {program : Program α} {handle : Failure → Program α}
    (sends : program.Sends holds) (inside : ∀ failure, (handle failure).StaysInside) :
    (program.rescue handle).Sends holds := by
  refine sends.attempted.before_inside fun inner => ?_
  cases inner with
  | ok value => exact .done value
  | error failure => exact inside failure

end Program

/-! ## Channels -/

/-- What may leave for a user's destination of a type, given what was found among exchanges:
nothing, or what the channel of the type sends. -/
inductive Egress (subscriptions : SubscriptionStore) (config : Config) (destination : Destination)
    (userId : Option String) (exchanges : List Exchange) : List Request → Prop
  | none : Egress subscriptions config destination userId exchanges []
  | call (script : String) (kind : destination.kind = Voice.type) :
      Egress subscriptions config destination userId exchanges
        [.telephone (Telephony.call config (destination.argument Telephony.phoneField)
          (.spoken script))]
  | shortMessage (text : String) (kind : destination.kind = Sms.type)
      (direct : config.gateway.enabled = false) :
      Egress subscriptions config destination userId exchanges
        [.telephone (Telephony.call config (destination.argument Telephony.phoneField)
          (.written text))]
  | throughGateway (text : String) (kind : destination.kind = Sms.type)
      (enabled : config.gateway.enabled = true) :
      Egress subscriptions config destination userId exchanges
        [.post ((Sms.configuredGateway config).request
          (destination.argument Telephony.phoneField) text)]
  | webhook {post : HttpPost} (data : Json) (kind : destination.kind = Webhook.type)
      (url : post.url = destination.argument Webhook.urlField)
      (carries : post.content = .json data) :
      Egress subscriptions config destination userId exchanges [.post post]
  | pushes {id : String} {before looking after : List Exchange} {found : List PushSubscription}
      {requests : List PushRequest} (kind : destination.kind = BrowserPush.type)
      (user : userId = some id) (inOrder : exchanges = before ++ (looking ++ after))
      (lookedUp : (subscriptions.findByUser id).Ends looking (.ok found))
      (each : requests.map PushRequest.subscription <+: found) :
      Egress subscriptions config destination userId exchanges (requests.map Request.push)

section Channels

variable {subscriptions : SubscriptionStore} {config : Config} {destination : Destination}
  {userId : Option String} {exchanges : List Exchange} {requests : List Request}

/-- Exchanges around those in which something was found do not matter. -/
theorem Egress.within (egress : Egress subscriptions config destination userId exchanges requests)
    (earlier later : List Exchange) :
    Egress subscriptions config destination userId (earlier ++ (exchanges ++ later)) requests := by
  cases egress with
  | none => exact .none
  | call script kind => exact .call script kind
  | shortMessage text kind direct => exact .shortMessage text kind direct
  | throughGateway text kind enabled => exact .throughGateway text kind enabled
  | webhook data kind url carries => exact .webhook data kind url carries
  | @pushes id before looking after found requests kind user inOrder lookedUp each =>
      have inOrderWithin : earlier ++ (exchanges ++ later) =
          (earlier ++ before) ++ (looking ++ (after ++ later)) := by
        simp [inOrder]
      exact .pushes kind user inOrderWithin lookedUp each

open BrowserPush (not_outbound_of_routine)

variable {holds : List Request → Prop}

theorem Telephony.sends_deliver {kind messageId : String} {call : TelephonyCall}
    (single : holds [.telephone call]) : (deliver kind messageId call).Sends holds := by
  have placing : ((request (.telephone call)).bind ofExcept).Sends holds :=
    .of_ask trivial single fun _ => makes_ofExcept
  refine Sends.rescue ?_ fun failure => ?_
  · refine (placing.before_inside fun id => ?_).before_inside fun id => makes_ofExcept
    exact makes_bind staysInside_log fun _ => .done _
  · cases failure with
    | telephony refusal => exact makes_bind staysInside_log fun _ => .done _
    | transport exchange => exact makes_bind staysInside_log fun _ => makes_resultOf _ _
    | _ => exact .fail _

variable {payload : Payload}

theorem Voice.sends_send (none : holds [])
    (single : ∀ script, holds [.telephone (Telephony.call config
      (payload.destination.argument Telephony.phoneField) (.spoken script))]) :
    (send payload config).Sends holds :=
  .after_inside makes_ofExcept none fun _ => .after_inside makes_ofExcept none fun _ =>
    Telephony.sends_deliver (single _)

theorem Gateway.sends_send {gateway : Gateway} {toNumber text : String}
    (single : holds [.post (gateway.request toNumber text)]) :
    (gateway.send toNumber text).Sends holds := by
  have posting : (gateway.post (gateway.request toNumber text)).Sends holds := by
    refine .of_ask trivial single fun answer => ?_
    split
    · exact makes_ofExcept
    · exact .ask id fun _ => makes_ofExcept
  refine posting.before_inside fun response => ?_
  split
  · refine makes_bind makes_ofExcept fun id => ?_
    split
    · exact makes_bind staysInside_log fun _ => .done _
    · exact .done _
  · exact makes_bind staysInside_log fun _ => .fail _

theorem Sms.sends_sendThroughGateway {gateway : Gateway} {messageId toNumber text : String}
    (single : holds [.post (gateway.request toNumber text)]) :
    (sendThroughGateway gateway messageId toNumber text).Sends holds := by
  refine (Gateway.sends_send single).attempted.before_inside fun result => ?_
  cases result with
  | error failure => exact makes_gatewayFailed not_outbound_of_routine _ _
  | ok id =>
      dsimp only
      split
      · exact makes_bind staysInside_log fun _ => .done _
      · exact .done _

/-- A short message leaves in one of two ways, and the configuration decides which. -/
theorem Sms.sends_send (none : holds [])
    (direct : config.gateway.enabled = false → ∀ text, holds [.telephone (Telephony.call config
      (payload.destination.argument Telephony.phoneField) (.written text))])
    (throughGateway : config.gateway.enabled = true → ∀ text,
      holds [.post ((configuredGateway config).request
        (payload.destination.argument Telephony.phoneField) text)]) :
    (send Option.none payload config).Sends holds := by
  refine .after_inside makes_ofExcept none fun text => ?_
  dsimp only
  split
  · rename_i enabled
    split
    · exact .of_inside (.fail _) none
    · exact sends_sendThroughGateway (throughGateway enabled text)
  · rename_i disabled
    refine .after_inside makes_ofExcept none fun _ => Telephony.sends_deliver (direct ?_ text)
    simpa using disabled

theorem Webhook.sends_send
    (single : ∀ post, post.url = payload.destination.argument urlField →
      post.content = .json (body payload config) → holds [.post post]) :
    (send payload config).Sends holds := by
  refine .of_ask trivial (single _ rfl rfl) fun answer => ?_
  cases answer with
  | ok response =>
      dsimp only [answered]
      split
      · exact .done _
      · exact makes_bind staysInside_log fun _ => makes_resultOf _ _
  | error failure =>
      dsimp only
      split
      · exact makes_bind staysInside_log fun _ => makes_resultOf _ _
      · exact .fail _

namespace BrowserPush

/-- The requests are pushes to different ones of the subscriptions, in their order. -/
def PushesTo (found : List PushSubscription) (requests : List Request) : Prop :=
  ∃ pushed : List PushRequest, requests = pushed.map Request.push ∧
    pushed.map PushRequest.subscription <+: found

theorem PushesTo.nil (found : List PushSubscription) : PushesTo found [] :=
  ⟨[], rfl, List.nil_prefix⟩

theorem sends_deliver (store : SubscriptionStore) (request : PushRequest) :
    (deliver store request).Sends (· = [.push request]) := by
  refine .of_ask trivial rfl fun answer => ?_
  cases answer with
  | ok _ => exact .done _
  | error failure =>
      cases failure with
      | push text status => exact makes_refused_inside _ _ _
      | transport exchange => exact makes_bind staysInside_log fun _ => .done _
      | _ => exact .fail _

/-- Every subscription is pushed to at most once, and none before those that precede it. -/
theorem sends_deliverAll {store : SubscriptionStore}
    {requestFor : PushSubscription → PushRequest}
    (addressed : ∀ subscription, (requestFor subscription).subscription = subscription)
    (delivered : Nat) (found : List PushSubscription) :
    (deliverAll store requestFor delivered found).Sends (PushesTo found) := by
  induction found generalizing delivered with
  | nil => exact .of_inside (.done _) (.nil _)
  | cons subscription rest ih =>
      intro exchanges outcome ended
      obtain ⟨stop, later, rfl, endedLater⟩ := ends_ask.mp ended
      rw [outbound_cons_of_inside id]
      cases stop with
      | true =>
          obtain ⟨rfl, _⟩ := ends_done.mp endedLater
          exact .nil _
      | false =>
          rcases ends_bind.mp endedLater with
            ⟨_, failing, _⟩ | ⟨first, second, accepted, rfl, pushed, endedRest⟩
          · rw [sends_deliver _ _ _ _ failing]
            exact ⟨[requestFor subscription], rfl, by simp [addressed]⟩
          · obtain ⟨others, same, inOrder⟩ := ih _ _ _ endedRest
            rw [outbound_append, sends_deliver _ _ _ _ pushed, same]
            refine ⟨requestFor subscription :: others, rfl, ?_⟩
            rw [List.map_cons, addressed]
            exact List.prefix_cons_inj subscription |>.mpr inOrder

theorem sends_pushAll (payload : Payload) (config : Config) (userId : String)
    (message : PushMessage) (found : List PushSubscription) :
    (pushAll subscriptions payload config userId message found).Sends (PushesTo found) := by
  rw [pushAll]
  split
  · exact .of_inside (makes_reported not_outbound_of_routine _ _ _ _ _) (.nil _)
  · refine .after_inside (makes_subscriberAddress not_outbound_of_routine _ _) (.nil _)
      fun subscriber => ?_
    refine (sends_deliverAll (fun _ => rfl) 0 found).before_inside fun delivered => ?_
    cases delivered with
    | none => exact .done _
    | some delivered =>
        refine makes_bind staysInside_log fun _ => ?_
        split
        · exact .done _
        · exact .done _

/-- The pushes of a payload go to subscriptions that were found for its user. -/
theorem egress_of_ends_send (kind : payload.destination.kind = BrowserPush.type)
    {outcome : Except Failure SendResult}
    (ended : (send subscriptions payload config).Ends exchanges outcome) :
    Egress subscriptions config payload.destination payload.userId exchanges
      (outbound exchanges) := by
  rw [send_eq] at ended
  rcases ends_bind.mp ended with
    ⟨_, failing, _⟩ | ⟨_, afterUser, userId, rfl, identified, endedWording⟩
  · rw [(ends_ofExcept.mp failing).1]
    exact .none
  obtain ⟨rfl, user⟩ := ends_ofExcept.mp identified
  rcases ends_bind.mp endedWording with
    ⟨_, failing, _⟩ | ⟨_, afterWording, message, rfl, wording, endedFound⟩
  · rw [(ends_ofExcept.mp failing).1]
    exact .none
  obtain ⟨rfl, _⟩ := ends_ofExcept.mp wording
  have looksInside : (subscriptions.findByUser userId).StaysInside :=
    SubscriptionStore.makes_findByUser not_outbound_of_routine fun _ _ outbound => outbound
  rcases ends_bind.mp endedFound with
    ⟨_, failing, _⟩ | ⟨looking, later, found, rfl, lookedUp, endedPushes⟩
  · rw [List.nil_append, List.nil_append, outbound_eq_nil_of_ends looksInside failing]
    exact .none
  rw [List.nil_append, List.nil_append, outbound_append,
    outbound_eq_nil_of_ends looksInside lookedUp, List.nil_append]
  have ofUser : payload.userId = some userId := userId_eq_of_checkedUser user.symm
  obtain ⟨pushed, same, each⟩ := sends_pushAll payload config userId message found _ _ endedPushes
  rw [same]
  have inOrder : looking ++ later = [] ++ (looking ++ later) := rfl
  exact .pushes kind ofUser inOrder lookedUp each

end BrowserPush

end Channels

/-! ## The registry -/

namespace Registry

variable {subscriptions : SubscriptionStore} {payload : Payload} {config : Config}
  {exchanges : List Exchange} {outcome : Except Failure SendResult}

/-- The channel of the payload's destination decides what leaves. -/
theorem egress_of_find?_standard {channel : Channel}
    {sendPayload : Payload → Config → Program SendResult}
    (found : (standard subscriptions).find? payload.destination.kind = some channel)
    (sends : channel.send = some sendPayload)
    (ended : (sendPayload payload config).Ends exchanges outcome) :
    Egress subscriptions config payload.destination payload.userId exchanges
      (outbound exchanges) := by
  have kind : payload.destination.kind = channel.id := (id_of_find? found).symm
  obtain ⟨provider, isStandard, rfl⟩ := List.mem_map.mp (List.mem_of_find?_eq_some found)
  simp only [Provider.standard, List.mem_cons, List.not_mem_nil, or_false] at isStandard
  rcases isStandard with rfl | rfl | rfl | rfl
  · cases sends
    exact Voice.sends_send .none (fun script => .call script kind) _ _ ended
  · cases sends
    exact Sms.sends_send .none (fun direct text => .shortMessage text kind direct)
      (fun enabled text => .throughGateway text kind enabled) _ _ ended
  · cases sends
    exact BrowserPush.egress_of_ends_send kind ended
  · cases sends
    exact Webhook.sends_send (fun _ url carries => .webhook _ kind url carries) _ _ ended

theorem staysInside_conclude (payload : Payload) (given : Except Failure SendResult) :
    (conclude payload given).StaysInside := by
  cases given with
  | ok result => exact makes_bind staysInside_log fun _ => .done _
  | error failure => exact makes_failed BrowserPush.not_outbound_of_routine payload failure

/-- What leaves for a payload leaves through the channel of its destination, which is enabled and
was not asked to stop. -/
theorem egress_of_ends_send
    (ended : ((standard subscriptions).send payload config).Ends exchanges outcome) :
    outbound exchanges = [] ∨
      (standard subscriptions).IsUsable config payload.destination.kind ∧
      ⟨.cancelled, false⟩ ∈ exchanges ∧
      Egress subscriptions config payload.destination payload.userId exchanges
        (outbound exchanges) := by
  have insideOf {reports : List Exchange}
      (logged : ∀ exchange ∈ reports, exchange.request.Routine) : outbound reports = [] :=
    outbound_eq_nil fun exchange made => (logged exchange made).quiet.not_outbound
  cases course_of_ends_send ended with
  | senderless => exact .inl rfl
  | disabled _ _ _ logged => exact .inl (insideOf logged)
  | stopped logged =>
      refine .inl ?_
      rw [outbound_cons_of_inside id]
      exact insideOf logged
  | @carried channel sendPayload provided reporting given _ found sends on endedSend concluded =>
      have usable : (standard subscriptions).IsUsable config payload.destination.kind :=
        ⟨channel, found, by simp [sends], on⟩
      refine .inr ⟨usable, List.mem_cons_self, ?_⟩
      rw [outbound_cons_of_inside id, outbound_append,
        outbound_eq_nil_of_ends (staysInside_conclude payload given) concluded, List.append_nil]
      exact (egress_of_find?_standard found sends endedSend).within [_] reporting

end Registry

/-! ## Dispatches -/

namespace Dispatch

variable {site : Site} {registry : Registry} {config : Config} {message sent : Message}
  {payload : Payload} {isFirst : Bool} {exchanges rest : List Exchange}
  {outcome : Except Failure SendResult}

/-- After three exchanges that open the context and report the start, building the message gave its
result, and there was nothing to send. -/
def Settled (site : Site) (config : Config) (message : Message) (past : List Exchange)
    (result : SendResult) : Prop :=
  ∃ opening built rest sent, past = opening ++ (built ++ rest) ∧ opening.length = 3 ∧
    (BuildOutcome.ofMessage site message config).Ends built (.ok ⟨sent, .result result⟩)

theorem Settled.not_built {result : SendResult}
    (settled : Settled site config message exchanges result) :
    ¬ Built site config message exchanges sent payload isFirst rest := by
  rintro ⟨opening, building, rfl, opened, ended⟩
  obtain ⟨otherOpening, otherBuilding, _, _, split, otherOpened, otherEnded⟩ := settled
  obtain ⟨_, afterOpening⟩ := List.append_inj split (opened.trans otherOpened.symm)
  cases (ended.unique otherEnded afterOpening).2

theorem Built.payload_userId
    (built : Built site config message exchanges sent payload isFirst rest) :
    payload.userId = message.userId := by
  by_cases isAlert : message.type = .alert
  · obtain ⟨_, _, _, outcome⟩ := built.ofAlert isAlert
    cases outcome with
    | carried _ decided => cases decided <;> rfl
  · obtain ⟨_, building, _, _, ended⟩ := built
    cases (BuildOutcome.returns_ofMessage site config isAlert).of_ends ended with
    | carried content => rfl

/-- Nothing leaves after the registry is done with the payload. -/
theorem staysInside_afterwards (result : SendResult) :
    ((log .info component "send_message_provider_result"
      [("state", .text result.state.name), ("details", .text result.details)]).bind fun _ =>
        (noteSent sent).bind fun _ =>
        (if isFirst && result.isOk then track site.ledger sent result else .done ()).bind fun _ =>
        .done result).StaysInside := by
  refine makes_bind staysInside_log fun _ => ?_
  refine makes_bind (makes_noteSent BrowserPush.not_outbound_of_routine
    (fun _ => Request.Noting.not_outbound) sent) fun _ => ?_
  refine makes_bind ?_ fun _ => .done _
  split
  · exact makes_track BrowserPush.not_outbound_of_routine fun _ _ _ outbound => outbound
  · exact .done _

/-- What leaves a dispatch leaves while the registry sends the payload. -/
theorem outbound_of_ends_sendSteps
    (ended : (sendSteps site registry config message).Ends exchanges outcome) :
    outbound exchanges = [] ∨
      ∃ building carrying later sent payload isFirst given,
        exchanges = started message :: (building ++ (carrying ++ later)) ∧
        (BuildOutcome.ofMessage site message config).Ends building
          (.ok ⟨sent, .payload payload isFirst⟩) ∧
        (registry.send payload config).Ends carrying given ∧
        outbound exchanges = outbound carrying := by
  have building : (BuildOutcome.ofMessage site message config).StaysInside :=
    BuildOutcome.makes_ofMessage BrowserPush.not_outbound_of_routine
      (fun _ => Request.Reading.not_outbound) site message config
  rw [sendSteps_eq] at ended
  rcases ends_bind.mp ended with ⟨_, noEnd, _⟩ | ⟨_, afterStart, _, rfl, logged, endedBuilding⟩
  · simp at noEnd
  obtain ⟨rfl, _⟩ := ends_log.mp logged
  rw [List.singleton_append, outbound_cons_of_inside id]
  rcases ends_bind.mp endedBuilding with
    ⟨_, endedBuild, _⟩ | ⟨built, afterBuilt, ⟨sent, build⟩, rfl, endedBuild, endedRest⟩
  · exact .inl (outbound_eq_nil_of_ends building endedBuild)
  rw [outbound_append, outbound_eq_nil_of_ends building endedBuild, List.nil_append]
  cases build with
  | result result =>
      exact .inl (outbound_eq_nil_of_ends (makes_bind staysInside_log fun _ => .done _) endedRest)
  | payload payload isFirst =>
      rcases ends_bind.mp endedRest with
        ⟨failure, endedCarry, _⟩ | ⟨carrying, later, result, rfl, endedCarry, endedAfter⟩
      · exact .inr ⟨built, afterBuilt, [], sent, payload, isFirst, _, by simp [started], endedBuild,
          endedCarry, rfl⟩
      · refine .inr ⟨built, carrying, later, sent, payload, isFirst, _, rfl, endedBuild, endedCarry,
          ?_⟩
        rw [outbound_append, outbound_eq_nil_of_ends (staysInside_afterwards result) endedAfter,
          List.append_nil]

/-- How the outbound requests of a dispatch are routed: through the channel of the message as it is
sent, and not at all when the message was settled while it was built, when the type of its
destination is disabled, or when the sender had asked to stop. -/
structure Routed (site : Site) (subscriptions : SubscriptionStore) (config : Config)
    (message : Message) (exchanges : List Exchange) : Prop where
  by_destination : outbound exchanges = [] ∨ ∃ sent payload isFirst rest,
    Built site config message exchanges sent payload isFirst rest ∧
    (sent.destination = message.destination ∨ Promoted site config message exchanges) ∧
    Egress subscriptions config sent.destination message.userId exchanges (outbound exchanges)
  none_settled : ∀ {result : SendResult}, Settled site config message exchanges result →
    outbound exchanges = []
  none_disabled : ∀ {sent : Message} {payload : Payload} {isFirst : Bool} {rest : List Exchange},
    Built site config message exchanges sent payload isFirst rest →
      ¬ (Registry.standard subscriptions).IsUsable config sent.destination.kind →
        outbound exchanges = []
  none_cancelled : (∀ stop, ⟨.cancelled, stop⟩ ∈ exchanges → stop = true) →
    outbound exchanges = []

theorem Built.own_or_promoted
    (built : Built site config message exchanges sent payload isFirst rest) :
    sent.destination = message.destination ∨ Promoted site config message exchanges := by
  by_cases isAlert : message.type = .alert
  · exact (built.kept_or_promoted isAlert).imp_right And.right
  · obtain ⟨rfl, _, _⟩ := built.plain isAlert
    exact .inl rfl

/-- What leaves a dispatch left for the destination of the message as it was built, which can be
used, and without a stop. -/
theorem egress_of_ends_send {subscriptions : SubscriptionStore}
    (ended : (send site (.standard subscriptions) config message).Ends exchanges outcome) :
    outbound exchanges = [] ∨ ∃ sent payload isFirst rest,
      Built site config message exchanges sent payload isFirst rest ∧
      (Registry.standard subscriptions).IsUsable config sent.destination.kind ∧
      ⟨.cancelled, false⟩ ∈ exchanges ∧
      Egress subscriptions config sent.destination message.userId exchanges
        (outbound exchanges) := by
  obtain ⟨previous, inner, current, rfl, endedSteps⟩ := exchanges_of_ends_withContext ended
  rw [outbound_cons_of_inside id, outbound_cons_of_inside id, outbound_append,
    outbound_cons_of_inside id [_], outbound_cons_of_inside id [],
    outbound_nil, List.append_nil]
  rcases outbound_of_ends_sendSteps endedSteps with
    none | ⟨building, carrying, later, sent, payload, isFirst, given, rfl, endedBuild, endedCarry,
      same⟩
  · exact .inl none
  rw [same]
  rcases Registry.egress_of_ends_send endedCarry with none | ⟨usable, unstopped, egress⟩
  · exact .inl none
  -- The execution is brought into the order in which a build is told apart: what opens the context,
  -- the building, and the rest.
  let opening : List Exchange :=
    [⟨.context, previous⟩, ⟨.setContext (Context.bind previous (contextOf message)), ()⟩,
      started message]
  generalize closes : later ++ [⟨.context, current⟩,
    ⟨.setContext (Context.leave current previous (contextOf message)), ()⟩] = closing
  have inOrder : (⟨.context, previous⟩ : Exchange) ::
      ⟨.setContext (Context.bind previous (contextOf message)), ()⟩ ::
      (started message :: (building ++ (carrying ++ later)) ++ [⟨.context, current⟩,
        ⟨.setContext (Context.leave current previous (contextOf message)), ()⟩]) =
      opening ++ (building ++ (carrying ++ closing)) := by
    simp [opening, ← closes]
  rw [inOrder]
  have built : Built site config message (opening ++ (building ++ (carrying ++ closing))) sent
      payload isFirst (carrying ++ closing) :=
    ⟨opening, building, rfl, rfl, endedBuild⟩
  rw [built.payload_destination] at usable egress
  rw [built.payload_userId] at egress
  refine .inr ⟨sent, payload, isFirst, _, built, usable, by simp [unstopped], ?_⟩
  simpa using egress.within (opening ++ building) closing

/-- The outbound requests of every dispatch through the standard channels are routed by the
destination of the message as it is sent. -/
theorem routed_of_ends_send {subscriptions : SubscriptionStore}
    (ended : (send site (.standard subscriptions) config message).Ends exchanges outcome) :
    Routed site subscriptions config message exchanges := by
  rcases egress_of_ends_send ended with
    none | ⟨sent, payload, isFirst, rest, built, usable, unstopped, egress⟩
  · exact ⟨.inl none, fun _ => none, fun _ _ => none, fun _ => none⟩
  refine ⟨.inr ⟨sent, payload, isFirst, rest, built, built.own_or_promoted, egress⟩, ?_, ?_, ?_⟩
  · intro result settled
    exact (settled.not_built built).elim
  · intro other payload isFirst rest builtOther unusable
    obtain ⟨rfl, _⟩ := built.unique builtOther
    exact (unusable usable).elim
  · intro stopped
    cases stopped false unstopped

end Dispatch

/-! ## One telephone call -/

namespace Sample

/-- The dispatch of a labelled alert, which is meant for short messages. -/
def labelledDispatch : Program SendResult :=
  Dispatch.send (.complete ⟨⟨[], [], 10⟩, deliveries⟩ .supplied)
    (.standard ⟨⟨[], [], 10⟩, "subscriptions"⟩) config (alert "labelled")

/-- Whether the only request is a telephone call to the number. -/
def isCallTo (number : String) : List Request → Bool
  | [.telephone ⟨_, _, _, toNumber, _, .spoken _⟩] => toNumber == number
  | _ => false

end Sample

/-- The alert is promoted, and all that leaves is one call to the telephone of the user. -/
theorem routed_to_telephone :
    ∃ exchanges outcome, Sample.labelledDispatch.Ends exchanges outcome ∧
      Sample.isCallTo "+15555550222" (outbound exchanges) = true ∧
      Dispatch.Routed (.complete ⟨⟨[], [], 10⟩, Sample.deliveries⟩ .supplied)
        ⟨⟨[], [], 10⟩, "subscriptions"⟩ Sample.config (Sample.alert "labelled") exchanges := by
  have called : Sample.isCallTo "+15555550222" (outbound (Sample.labelledDispatch.exchanges
      (answerWith Sample.answer) Sample.tables)) = true := by
    decide +kernel
  have ended := ends_run (answerWith Sample.answer) Sample.labelledDispatch Sample.tables
  exact ⟨_, _, ended, called, Dispatch.routed_of_ends_send ended⟩

end AlertRelay
